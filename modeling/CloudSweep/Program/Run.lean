/-
Runs of programs. `Program.run` runs a program against a cloud and gives its result and its moves:
the events, the calls with their answers, and the starts and landings of deletions. Deletions start
in order as soon as there is room, and while there is none the one that started first lands; a pool
without any room is run one deletion at a time. What a run reported and called, and how many
deletions were in flight, is read off the moves.
-/
import CloudSweep.Program.Basic

namespace CloudSweep

/-- A step of a run. -/
inductive Move
  | noted (event : Event)
  | asked (site : Site) (call : Call) (answer : call.Answer)
  | started (ticket : Ticket)
  | landed (landing : Landing)

namespace Deletion

/-- What is reported when the deletion starts. -/
def startEvents : Deletion → List Event
  | .resources request => [.dispatching request]
  | .cluster .. => []

/-- What is reported when the deletion is over. -/
def landingEvents : Deletion → Except CallError Unit → List Event
  | .resources request, .ok () => [.deleted request]
  | .resources request, .error error => [.notDeleted request error]
  | .cluster _ _ target, .ok () => [.clusterDeleted target]
  | .cluster _ project target, .error error => [.clusterNotDeleted project target error]

end Deletion

namespace Move

/-- The events that come with the move. -/
def events : Move → List Event
  | .noted event => [event]
  | .asked .. => []
  | .started ticket => ticket.deletion.startEvents
  | .landed landing => landing.ticket.deletion.landingEvents landing.result

/-- The call that the move starts, with its site. -/
def call? : Move → Option (Site × Call)
  | .asked site call _ => some (site, call)
  | .started ticket => some (ticket.site, ticket.call)
  | .noted _ | .landed _ => none

/-- The deletion that the move ends. -/
def landing? : Move → Option Landing
  | .landed landing => some landing
  | _ => none

/-- The number of deletions in flight after the move, from the number before it. -/
def inFlight (before : Nat) : Move → Nat
  | .started _ => before + 1
  | .landed _ => before - 1
  | .noted _ | .asked .. => before

/-- The highest number of deletions in flight during some moves, from the number before them. -/
def peak (before : Nat) : List Move → Nat
  | [] => before
  | m :: rest => max before (peak (m.inFlight before) rest)

end Move

namespace Cloud

/-- The end of a deletion in this cloud. -/
def land (cloud : Cloud) (ticket : Ticket) : Landing :=
  { ticket, result := cloud.answer ticket.site ticket.call }

/-- The moves that carry out the waiting deletions after those in flight. -/
def deletionMoves (cloud : Cloud) (width : Nat) (flying : List Ticket) :
    List Ticket → List Move
  | [] => flying.map fun ticket => .landed (cloud.land ticket)
  | ticket :: waiting =>
    match flying with
    | [] => .started ticket :: deletionMoves cloud width [ticket] waiting
    | first :: others =>
      if flying.length < width then
        .started ticket :: deletionMoves cloud width (flying ++ [ticket]) waiting
      else
        .landed (cloud.land first) :: .started ticket ::
          deletionMoves cloud width (others ++ [ticket]) waiting

end Cloud

namespace Program

variable {α : Type}

/-- Runs a program against a cloud. -/
def run (cloud : Cloud) : Program α → α × List Move
  | .done value => (value, [])
  | .note event rest =>
    let (value, moves) := rest.run cloud
    (value, .noted event :: moves)
  | .ask site call next =>
    let answer := cloud.answer site call
    let (value, moves) := (next answer).run cloud
    (value, .asked site call answer :: moves)
  | .dispatch width tickets next =>
    let deletions := cloud.deletionMoves width [] tickets
    let (value, moves) := (next (deletions.filterMap Move.landing?)).run cloud
    (value, deletions ++ moves)

/-- What a run against a cloud comes to. -/
def result (cloud : Cloud) (p : Program α) : α := (p.run cloud).1

/-- The moves of a run against a cloud. -/
def moves (cloud : Cloud) (p : Program α) : List Move := (p.run cloud).2

/-- Carries a deletion out in a monad that answers calls. -/
def carryOut {m : Type → Type} [Monad m] (report : Event → m Unit)
    (answer : Site → (call : Call) → m call.Answer) (ticket : Ticket) : m Landing := do
  ticket.deletion.startEvents.forM report
  let result ← answer ticket.site ticket.call
  (ticket.deletion.landingEvents result).forM report
  return { ticket, result }

/-- Runs a program in a monad that answers calls. Deletions are carried out one at a time. -/
def interpret {m : Type → Type} [Monad m] (report : Event → m Unit)
    (answer : Site → (call : Call) → m call.Answer) : Program α → m α
  | .done value => pure value
  | .note event rest => do
    report event
    rest.interpret report answer
  | .ask site call next => do
    (next (← answer site call)).interpret report answer
  | .dispatch _ tickets next => do
    (next (← tickets.mapM (carryOut report answer))).interpret report answer

end Program
end CloudSweep
