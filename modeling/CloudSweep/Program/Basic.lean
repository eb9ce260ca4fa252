/-
Programs. A program reports events, asks the cloud for answers one at a time, and hands over whole
lists of deletions, of which a limited number may be in flight together; it goes on when the last
one has landed. What it does next depends on nothing but the answers, so that a program can be run
against any cloud and under any schedule.
-/
import CloudSweep.Event

namespace CloudSweep

/-- A deletion with its site. -/
structure Ticket where
  site : Site
  deletion : Deletion
  deriving DecidableEq

/-- The call that carries a deletion out. -/
abbrev Ticket.call (t : Ticket) : Call := .delete t.deletion

/-- A deletion that is over. -/
structure Landing where
  ticket : Ticket
  result : Except CallError Unit

/-- A program with a result of type `α`. -/
inductive Program (α : Type) : Type
  | done (value : α)
  | note (event : Event) (rest : Program α)
  | ask (site : Site) (call : Call) (next : call.Answer → Program α)
  /-- Carries deletions out, at most `width` at a time; with a width of zero none of them ever starts.
  The rest of the program gets them in the order in which they landed. -/
  | dispatch (width : Nat) (tickets : List Ticket) (next : List Landing → Program α)

namespace Program

variable {α β : Type}

/-- Runs a program and goes on with its result. -/
def bind (p : Program α) (f : α → Program β) : Program β :=
  match p with
  | .done value => f value
  | .note event rest => .note event (rest.bind f)
  | .ask site call next => .ask site call fun answer => (next answer).bind f
  | .dispatch width tickets next => .dispatch width tickets fun landings => (next landings).bind f

instance : Monad Program where
  pure := .done
  bind := bind

/-- Reports an event. -/
def say (event : Event) : Program Unit := .note event (.done ())

/-- Reports events in order. -/
def sayAll : List Event → Program Unit
  | [] => .done ()
  | event :: rest => .note event (sayAll rest)

/-- Makes a call. -/
def request (site : Site) (call : Call) : Program call.Answer := .ask site call .done

/-- Carries deletions out, at most `width` at a time. -/
def deleteAll (width : Nat) (tickets : List Ticket) : Program (List Landing) :=
  .dispatch width tickets .done

/-- Goes through a list in order, counting from `start`. -/
def each (f : Nat → α → Program β) (start : Nat) : List α → Program (List β)
  | [] => .done []
  | a :: rest => (f start a).bind fun b => (each f (start + 1) rest).bind fun bs => .done (b :: bs)

end Program
end CloudSweep
