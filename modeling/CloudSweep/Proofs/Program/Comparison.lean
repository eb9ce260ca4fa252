/-
Two runs side by side. Two programs match when any run of the one and any run of the other, each under
a schedule of its own, look the same to their observers and come to related results. Programs that
are built in the same way match when their parts do, and what an observer cannot see may be missing on
the other side.
-/
import CloudSweep.Proofs.Program.Sequence
import CloudSweep.Proofs.Program.Sites

namespace CloudSweep

variable {α α' β β' γ : Type}

/-! ## Observers -/

/-- What an observer sees of events, of calls and of deletions that start. Of answers and of landings,
which depend on the schedule, nobody sees anything. -/
structure View (γ : Type) where
  noted : Event → Option γ
  asked : Site → Call → Option γ
  started : Ticket → Option γ

namespace View

variable {view : View γ}

/-- What is seen of a move. -/
def see? (view : View γ) : Move → Option γ
  | .noted event => view.noted event
  | .asked site call _ => view.asked site call
  | .started ticket => view.started ticket
  | .landed _ => none

/-- What is seen of some moves. -/
def of (view : View γ) (moves : List Move) : List γ := moves.filterMap view.see?

theorem of_append (a b : List Move) : view.of (a ++ b) = view.of a ++ view.of b :=
  List.filterMap_append ..

theorem of_notes (events : List Event) : view.of (notes events) = events.filterMap view.noted :=
  List.filterMap_map ..

/-- Of a pool those tickets are seen that start, in their order. -/
theorem of_steps {cloud : Cloud} {width : Nat} {p q : Pool} {moves : List Move}
    (steps : Pool.Steps cloud width p moves q) :
    view.of moves = (starts moves).filterMap view.started := by
  induction steps with
  | refl => rfl
  | step first _ ih =>
    cases first with
    | start _ => simp only [of, starts_started, List.filterMap_cons, see?] at ih ⊢; rw [ih]
    | land => exact ih

end View

/-- Two clouds with an observer each. -/
structure Comparison (γ : Type) where
  first : Cloud
  second : Cloud
  left : View γ
  right : View γ

/-- A call that is made on both sides is answered alike and looks alike. -/
structure Comparison.Agrees (v : Comparison γ) (site : Site) (call : Call) : Prop where
  answer : v.first.answer site call = v.second.answer site call
  asked : v.left.asked site call = v.right.asked site call

/-- The two lists are related place by place, counting from `start`. -/
inductive Placewise (R : Nat → α → β → Prop) : Nat → List α → List β → Prop
  | nil {start : Nat} : Placewise R start [] []
  | cons {start : Nat} {a : α} {b : β} {as : List α} {bs : List β} (head : R start a b)
      (tail : Placewise R (start + 1) as bs) : Placewise R start (a :: as) (b :: bs)

theorem Placewise.eq {start : Nat} {as bs : List α} (h : Placewise (fun _ => Eq) start as bs) :
    as = bs := by
  induction h with
  | nil => rfl
  | cons head _ ih => rw [head, ih]

namespace Program

variable {cloud : Cloud} {view : View γ} {v : Comparison γ}

/-! ## One program -/

/-- Every run of the program shows what is `seen` and comes to a result in `P`. -/
def Shows (cloud : Cloud) (view : View γ) (seen : List γ) (P : α → Prop) (p : Program α) : Prop :=
  ∀ moves a, p.Runs cloud moves a → view.of moves = seen ∧ P a

theorem shows_say (event : Event) :
    Shows cloud view (view.noted event).toList (fun _ => True) (say event) := by
  intro moves _ run
  obtain ⟨_, rfl, rest⟩ := runs_note.1 run
  obtain ⟨rfl, -⟩ := runs_done.1 rest
  refine ⟨?_, trivial⟩
  rw [View.of, List.filterMap_cons, List.filterMap_nil, View.see?]
  cases view.noted event <;> rfl

theorem shows_sayAll (events : List Event) :
    Shows cloud view (events.filterMap view.noted) (fun _ => True) (sayAll events) := by
  intro moves _ run
  rw [← bind_done (sayAll events), runs_sayAll_bind] at run
  obtain ⟨_, rfl, rest⟩ := run
  obtain ⟨rfl, -⟩ := runs_done.1 rest
  rw [List.append_nil]
  exact ⟨View.of_notes events, trivial⟩

theorem shows_request (site : Site) (call : Call) :
    Shows cloud view (view.asked site call).toList (· = cloud.answer site call)
      (request site call) := by
  intro moves answer run
  obtain ⟨_, rfl, rest⟩ := runs_ask.1 run
  obtain ⟨rfl, rfl⟩ := runs_done.1 rest
  refine ⟨?_, rfl⟩
  rw [View.of, List.filterMap_cons, List.filterMap_nil, View.see?]
  cases view.asked site call <;> rfl

theorem shows_deleteAll (width : Nat) (tickets : List Ticket) :
    Shows cloud view (tickets.filterMap view.started) (·.Perm (tickets.map cloud.land))
      (deleteAll width tickets) := by
  intro moves landed run
  obtain ⟨deletions, _, _, rfl, pool, rest⟩ := runs_dispatch.1 run
  obtain ⟨rfl, rfl⟩ := runs_done.1 rest
  obtain ⟨order, -, perm⟩ := pool.finished
  rw [List.append_nil, View.of_steps pool, order]
  exact ⟨rfl, perm⟩

/-- Nothing is seen of a program that keeps to sites at which there is nothing to see. -/
theorem shows_nothing {p : Program α} {A : Site → Prop} (once : p.Once A)
    (unheard : ∀ event, view.noted event = none)
    (unasked : ∀ site call, A site → view.asked site call = none)
    (unstarted : ∀ ticket : Ticket, A ticket.site → view.started ticket = none) :
    Shows cloud view [] (fun _ => True) p := by
  intro moves a run
  have inside (site : Site) (call : Call) (h : (site, call) ∈ calls moves) : A site :=
    (run.once once).2 site (List.mem_map_of_mem h)
  refine ⟨List.filterMap_eq_nil_iff.2 fun m hm => ?_, trivial⟩
  cases m with
  | noted event => exact unheard event
  | asked site call answer => exact unasked site call (inside site call (mem_calls.2 (.inl ⟨_, hm⟩)))
  | started ticket =>
    exact unstarted ticket (inside _ _ (mem_calls.2 (.inr ⟨ticket, hm, rfl, rfl⟩)))
  | landed _ => rfl

/-! ## Two programs -/

/-- Any two runs of the programs, one against each cloud, look the same and come to related
results. -/
def Matches (v : Comparison γ) (R : α → β → Prop) (p : Program α) (q : Program β) : Prop :=
  ∀ moves a moves' b, p.Runs v.first moves a → q.Runs v.second moves' b →
    v.left.of moves = v.right.of moves' ∧ R a b

variable {R : α → β → Prop} {S : α' → β' → Prop} {p : Program α} {q : Program β}
  {f : α → Program α'} {g : β → Program β'}

theorem Matches.mono {R' : α → β → Prop} (h : Matches v R p q) (hR : ∀ a b, R a b → R' a b) :
    Matches v R' p q := fun moves a moves' b run run' =>
  (h moves a moves' b run run').imp_right (hR a b)

theorem matches_done {a : α} {b : β} (h : R a b) : Matches v R (done a) (done b) := by
  intro _ _ _ _ run run'
  obtain ⟨rfl, rfl⟩ := runs_done.1 run
  obtain ⟨rfl, rfl⟩ := runs_done.1 run'
  exact ⟨rfl, h⟩

theorem matches_bind (h : Matches v R p q) (rest : ∀ a b, R a b → Matches v S (f a) (g b)) :
    Matches v S (p.bind f) (q.bind g) := by
  intro _ a' _ b' run run'
  obtain ⟨first, a, second, rfl, h1, h2⟩ := runs_bind.1 run
  obtain ⟨first', b, second', rfl, h1', h2'⟩ := runs_bind.1 run'
  obtain ⟨seen, related⟩ := h _ _ _ _ h1 h1'
  obtain ⟨seen', related'⟩ := rest a b related _ _ _ _ h2 h2'
  exact ⟨by rw [View.of_append, View.of_append, seen, seen'], related'⟩

/-- What is known of two programs one by one matches when they show the same. -/
theorem matches_of_shows {P : α → Prop} {Q : β → Prop} {seen seen' : List γ}
    (hp : Shows v.first v.left seen P p) (hq : Shows v.second v.right seen' Q q)
    (same : seen = seen') : Matches v (fun a b => P a ∧ Q b) p q := by
  intro moves a moves' b run run'
  obtain ⟨hs, ha⟩ := hp moves a run
  obtain ⟨hs', hb⟩ := hq moves' b run'
  exact ⟨by rw [hs, hs', same], ha, hb⟩

/-- A first step on the right that is not seen. -/
theorem matches_unseen_right {Q : β → Prop} {r : Program α'} (hq : Shows v.second v.right [] Q q)
    (rest : ∀ b, Q b → Matches v S r (g b)) : Matches v S r (q.bind g) := by
  intro _ a' _ b' run run'
  obtain ⟨first', b, second', rfl, h1', h2'⟩ := runs_bind.1 run'
  obtain ⟨unseen, hb⟩ := hq _ _ h1'
  obtain ⟨seen', related'⟩ := rest b hb _ _ _ _ run h2'
  exact ⟨by rw [View.of_append, unseen, seen', List.nil_append], related'⟩

/-! ## Sequences -/

/-- Sequences that start with the same call. -/
theorem matches_request {site : Site} {call : Call} {f : call.Answer → Program α}
    {g : call.Answer → Program β} (agrees : v.Agrees site call)
    (rest : ∀ answer, Matches v R (f answer) (g answer)) :
    Matches v R ((request site call).bind f) ((request site call).bind g) := by
  have same := matches_of_shows (@shows_request _ v.first v.left site call)
    (@shows_request _ v.second v.right site call) (by rw [agrees.asked])
  refine matches_bind same ?_
  rintro _ _ ⟨rfl, rfl⟩
  rw [agrees.answer]
  exact rest _

/-- Sequences that start with events that look alike. -/
theorem matches_sayAll {events events' : List Event} {f : Unit → Program α'} {g : Unit → Program β'}
    (same : events.filterMap v.left.noted = events'.filterMap v.right.noted)
    (rest : Matches v S (f ()) (g ())) :
    Matches v S ((sayAll events).bind f) ((sayAll events').bind g) :=
  matches_bind (matches_of_shows (shows_sayAll events) (shows_sayAll events') same) fun _ _ _ => rest

/-- Sequences that start with an event each, of which nothing is seen. -/
theorem matches_say {event event' : Event} {f : Unit → Program α'} {g : Unit → Program β'}
    (left : v.left.noted event = none) (right : v.right.noted event' = none)
    (rest : Matches v S (f ()) (g ())) :
    Matches v S ((say event).bind f) ((say event').bind g) :=
  matches_bind (matches_of_shows (shows_say event) (shows_say event') (by rw [left, right]))
    fun _ _ _ => rest

/-- Lists of parts that match one by one. -/
theorem matches_each {R : Nat → β → β' → Prop} {f : Nat → α → Program β} {g : Nat → α → Program β'}
    (h : ∀ i a, Matches v (R i) (f i a) (g i a)) (as : List α) (start : Nat) :
    Matches v (Placewise R start) (each f start as) (each g start as) := by
  induction as generalizing start with
  | nil => exact matches_done .nil
  | cons a as ih =>
    refine matches_bind (h start a) fun b b' head => ?_
    exact matches_bind (ih (start + 1)) fun bs bs' tail => matches_done (.cons head tail)

end Program

/-! ## Other clouds -/

/-- The moves of a pool are possible in every cloud that has the same results for what landed. -/
theorem Pool.Steps.of_results {cloud cloud' : Cloud} {width : Nat} {p q : Pool} {moves : List Move}
    (steps : Steps cloud width p moves q)
    (landed : ∀ l, .landed l ∈ moves → cloud'.answer l.ticket.site l.ticket.call = l.result) :
    Steps cloud' width p moves q := by
  induction steps with
  | refl => exact .refl
  | step first _ ih =>
    have rest := ih fun l hl => landed l (List.mem_cons_of_mem _ hl)
    cases first with
    | start room => exact .step (.start room) rest
    | @land ticket waiting earlier later done =>
      have same : cloud'.land ticket = cloud.land ticket :=
        congrArg (Landing.mk ticket) (landed _ List.mem_cons_self)
      rw [← same] at rest ⊢
      exact .step .land rest

/-- A run is possible in every cloud that gives it the same answers. -/
theorem Program.Runs.of_answers {cloud cloud' : Cloud} {p : Program α} {moves : List Move} {a : α}
    (run : p.Runs cloud moves a)
    (asked : ∀ site call answer, .asked site call answer ∈ moves →
      cloud'.answer site call = cloud.answer site call)
    (landed : ∀ l, .landed l ∈ moves → cloud'.answer l.ticket.site l.ticket.call = l.result) :
    p.Runs cloud' moves a := by
  induction run with
  | done => exact .done
  | note _ ih =>
    exact .note (ih (fun _ _ _ h => asked _ _ _ (List.mem_cons_of_mem _ h))
      fun l hl => landed l (List.mem_cons_of_mem _ hl))
  | ask _ ih =>
    have rest := ih (fun _ _ _ h => asked _ _ _ (List.mem_cons_of_mem _ h))
      fun l hl => landed l (List.mem_cons_of_mem _ hl)
    rw [← asked _ _ _ List.mem_cons_self] at rest ⊢
    exact .ask rest
  | dispatch pool _ ih =>
    refine .dispatch (pool.of_results fun l hl => landed l (List.mem_append_left _ hl)) ?_
    exact ih (fun _ _ _ h => asked _ _ _ (List.mem_append_right _ h))
      fun l hl => landed l (List.mem_append_right _ hl)

end CloudSweep
