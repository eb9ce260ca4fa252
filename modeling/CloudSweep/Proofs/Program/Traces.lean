/-
What a run shows. The calls that some moves make, the deletions that they start and those that they
end are lists read off the moves, and each adds up over the parts of a run.
-/
import CloudSweep.Program.Lemmas

namespace CloudSweep

/-- The deletion that the move starts. -/
def Move.started? : Move → Option Ticket
  | .started ticket => some ticket
  | _ => none

/-- The deletions that some moves start, in order. -/
def starts (moves : List Move) : List Ticket := moves.filterMap Move.started?

/-- The calls that some moves make, with their sites, in order. -/
def calls (moves : List Move) : List (Site × Call) := moves.filterMap Move.call?

/-- The moves that report events. -/
def notes (events : List Event) : List Move := events.map .noted

theorem notes_append (a b : List Event) : notes (a ++ b) = notes a ++ notes b := List.map_append

/-! ## Deletions that start -/

@[simp] theorem starts_nil : starts [] = [] := rfl

@[simp] theorem starts_noted (event : Event) (moves : List Move) :
    starts (.noted event :: moves) = starts moves := rfl

@[simp] theorem starts_asked (site : Site) (call : Call) (answer : call.Answer) (moves : List Move) :
    starts (.asked site call answer :: moves) = starts moves := rfl

@[simp] theorem starts_started (ticket : Ticket) (moves : List Move) :
    starts (.started ticket :: moves) = ticket :: starts moves := rfl

@[simp] theorem starts_landed (landing : Landing) (moves : List Move) :
    starts (.landed landing :: moves) = starts moves := rfl

@[simp] theorem starts_append (a b : List Move) : starts (a ++ b) = starts a ++ starts b :=
  List.filterMap_append ..

@[simp] theorem starts_notes (events : List Event) : starts (notes events) = [] := by
  induction events with
  | nil => rfl
  | cons event events ih => exact ih

theorem mem_starts {ticket : Ticket} {moves : List Move} :
    ticket ∈ starts moves ↔ .started ticket ∈ moves := by
  induction moves with
  | nil => simp
  | cons m moves ih => cases m <;> simp [ih]

/-! ## Deletions that land -/

@[simp] theorem landings_noted (event : Event) (moves : List Move) :
    landings (.noted event :: moves) = landings moves := rfl

@[simp] theorem landings_asked (site : Site) (call : Call) (answer : call.Answer)
    (moves : List Move) : landings (.asked site call answer :: moves) = landings moves := rfl

@[simp] theorem landings_append (a b : List Move) :
    landings (a ++ b) = landings a ++ landings b :=
  List.filterMap_append ..

theorem mem_landings {landing : Landing} {moves : List Move} :
    landing ∈ landings moves ↔ .landed landing ∈ moves := by
  induction moves with
  | nil => simp
  | cons m moves ih => cases m <;> simp [ih]

/-! ## Calls -/

@[simp] theorem calls_nil : calls [] = [] := rfl

@[simp] theorem calls_noted (event : Event) (moves : List Move) :
    calls (.noted event :: moves) = calls moves := rfl

@[simp] theorem calls_asked (site : Site) (call : Call) (answer : call.Answer) (moves : List Move) :
    calls (.asked site call answer :: moves) = (site, call) :: calls moves := rfl

@[simp] theorem calls_append (a b : List Move) : calls (a ++ b) = calls a ++ calls b :=
  List.filterMap_append ..

@[simp] theorem calls_notes (events : List Event) : calls (notes events) = [] := by
  induction events with
  | nil => rfl
  | cons event events ih => exact ih

/-- A call is asked for, or it carries out a deletion that starts. -/
theorem mem_calls {site : Site} {call : Call} {moves : List Move} :
    (site, call) ∈ calls moves ↔
      (∃ answer, .asked site call answer ∈ moves) ∨
        ∃ ticket, .started ticket ∈ moves ∧ ticket.site = site ∧ ticket.call = call := by
  simp only [calls, List.mem_filterMap]
  constructor
  · rintro ⟨m, hm, h⟩
    cases m with
    | noted _ => cases h
    | asked site' call' answer => cases h; exact .inl ⟨answer, hm⟩
    | started ticket => cases h; exact .inr ⟨ticket, hm, rfl, rfl⟩
    | landed _ => cases h
  · rintro (⟨answer, hm⟩ | ⟨ticket, hm, rfl, rfl⟩)
    · exact ⟨_, hm, rfl⟩
    · exact ⟨_, hm, rfl⟩

theorem starts_sublist_calls (moves : List Move) :
    ((starts moves).map fun ticket => (ticket.site, ticket.call)).Sublist (calls moves) := by
  induction moves with
  | nil => exact .slnil
  | cons m moves ih =>
    cases m with
    | noted _ => exact ih
    | asked _ _ _ => exact ih.cons _
    | started _ => exact ih.cons_cons _
    | landed _ => exact ih

/-! ## Deletions in flight -/

/-- How many deletions are in flight after some moves. -/
def aloft (moves : List Move) : Nat := moves.foldl Move.inFlight 0

theorem aloft_append (a b : List Move) : aloft (a ++ b) = b.foldl Move.inFlight (aloft a) :=
  List.foldl_append

end CloudSweep
