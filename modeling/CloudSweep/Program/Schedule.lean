/-
Schedules. A pool of deletions starts them in order while there is room and lets any of those in
flight land next; `Program.Runs` runs a program against a cloud under any such schedule. What holds of
`Runs` holds whatever the order in which deletions land, and `Program.run` follows one schedule among
these, as long as every pool has room for a deletion.
-/
import CloudSweep.Program.Run

namespace CloudSweep

/-- Deletions that wait, those in flight in the order of their starts, and those that are over in the
order in which they landed. -/
structure Pool where
  waiting : List Ticket
  flying : List Ticket
  landed : List Landing

namespace Pool

/-- A pool before its first move. -/
def ofTickets (tickets : List Ticket) : Pool := { waiting := tickets, flying := [], landed := [] }

/-- A pool after its last move. -/
def ofLandings (landed : List Landing) : Pool := { waiting := [], flying := [], landed }

/-- A move of a pool: the first waiting deletion starts if there is room, or any one in flight
lands. -/
inductive Step (cloud : Cloud) (width : Nat) : Pool → Move → Pool → Prop
  | start {ticket : Ticket} {waiting flying : List Ticket} {landed : List Landing}
      (room : flying.length < width) :
      Step cloud width { waiting := ticket :: waiting, flying, landed } (.started ticket)
        { waiting, flying := flying ++ [ticket], landed }
  | land {ticket : Ticket} {waiting earlier later : List Ticket} {landed : List Landing} :
      Step cloud width { waiting, flying := earlier ++ ticket :: later, landed }
        (.landed (cloud.land ticket))
        { waiting, flying := earlier ++ later, landed := landed ++ [cloud.land ticket] }

/-- Any number of moves of a pool. -/
inductive Steps (cloud : Cloud) (width : Nat) : Pool → List Move → Pool → Prop
  | refl {p : Pool} : Steps cloud width p [] p
  | step {p q r : Pool} {move : Move} {moves : List Move} (first : Step cloud width p move q)
      (rest : Steps cloud width q moves r) : Steps cloud width p (move :: moves) r

end Pool

namespace Program

/-- A run of a program against a cloud under some schedule: its moves and what it comes to. -/
inductive Runs {α : Type} (cloud : Cloud) : Program α → List Move → α → Prop
  | done {value : α} : Runs cloud (.done value) [] value
  | note {event : Event} {rest : Program α} {moves : List Move} {value : α}
      (run : Runs cloud rest moves value) :
      Runs cloud (.note event rest) (.noted event :: moves) value
  | ask {site : Site} {call : Call} {next : call.Answer → Program α} {moves : List Move} {value : α}
      (run : Runs cloud (next (cloud.answer site call)) moves value) :
      Runs cloud (.ask site call next) (.asked site call (cloud.answer site call) :: moves) value
  | dispatch {width : Nat} {tickets : List Ticket} {next : List Landing → Program α}
      {deletions moves : List Move} {landed : List Landing} {value : α}
      (pool : Pool.Steps cloud width (.ofTickets tickets) deletions (.ofLandings landed))
      (run : Runs cloud (next landed) moves value) :
      Runs cloud (.dispatch width tickets next) (deletions ++ moves) value

end Program
end CloudSweep
