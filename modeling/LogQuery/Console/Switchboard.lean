import LogQuery.Session.Basic
import LogQuery.Wire.Routed

/-!
Several sessions on one console. Sessions have numbers, counted from zero in the order in which
they are opened; a number is not used again. Every line of input is a command for one of them,
and every message of a session becomes a line of output with its number. While a command is being
carried out no line is read, but executions of other sessions go on.
-/

namespace LogQuery

open Text

structure Seat where
  session : Session
  /-- Whether the session still takes commands. -/
  isOpen : Bool
  /-- How many of its messages have been written. -/
  forwarded : Nat

inductive Written where
  | message (line : Routed Message)
  /-- An answer to a line of input that no session can take. -/
  | complaint (line : Routed Message)

def Written.line : Written → Routed Message
  | message line => line
  | complaint line => line

structure Switchboard where
  /-- All sessions that were opened, by number. -/
  seats : List Seat
  /-- The number of the session that is carrying out a command. -/
  waiting? : Option Nat
  /-- The lines of output, in order. -/
  written : List Written

namespace Switchboard

def start (interval : Nat) : Switchboard where
  seats := [{ session := .new interval, isOpen := true, forwarded := 0 }]
  waiting? := none
  written := []

def anyOpen (board : Switchboard) : Bool :=
  board.seats.any Seat.isOpen

/-- Whether the next line of input is read: some session is open, and none is carrying out a
command. -/
def reads (board : Switchboard) : Bool :=
  board.anyOpen && board.waiting?.isNone

/-- Writes a complaint with the number of a session. -/
def complain (board : Switchboard) (number : Nat) (text : String) : Switchboard :=
  { board with written := board.written ++ [.complaint ⟨number, .error text⟩] }

/-- Puts a session in its place after an event, and does what its reply to a command asks for.
Without a reply the command is still being carried out, if one was. -/
def settle (board : Switchboard) (number : Nat) (seat : Seat) :
    Session × Option Reply → Switchboard
  | (session, none) => { board with seats := board.seats.set number { seat with session } }
  | (session, some .carryOn) =>
    { board with seats := board.seats.set number { seat with session }, waiting? := none }
  | (session, some (.duplicated copy)) =>
    { board with
      seats := board.seats.set number { seat with session } ++
        [{ session := copy, isOpen := true, forwarded := 0 }]
      waiting? := none }
  | (session, some .closed) =>
    { board with
      seats := board.seats.set number { seat with session, isOpen := false }, waiting? := none }

def open? (board : Switchboard) (number : Nat) : Option Seat :=
  board.seats[number]?.filter Seat.isOpen

/-- Handles a line of input at the instant `now`. -/
def receive (board : Switchboard) (now : Int) (line : String) : Switchboard :=
  if blank line then board
  else match Command.ofLine line with
    | .error fault => board.complain 0 s!"Invalid command: {fault.messageAt line.toList}"
    | .ok command =>
      match board.open? command.session with
      | none => board.complain command.session s!"No open session {command.session}"
      | some seat =>
        { board with waiting? := some command.session }.settle command.session seat
          (seat.session.handle now command.body)

/-- Writes the next message of a session, if there is one. -/
def forward (board : Switchboard) (number : Nat) : Switchboard :=
  match board.seats[number]? with
  | none => board
  | some seat =>
    match seat.session.sent[seat.forwarded]? with
    | none => board
    | some message =>
      { board with
        seats := board.seats.set number { seat with forwarded := seat.forwarded + 1 }
        written := board.written ++ [.message ⟨number, message⟩] }

/-- Stops the execution of a session at the end of the input. -/
def cancel (board : Switchboard) (number : Nat) : Switchboard :=
  match board.open? number with
  | none => board
  | some seat =>
    { board with
      seats := board.seats.set number { seat with session := seat.session.cancel } }

/-- A call that a session waits for, and how the console goes on with the answer. -/
structure Wait where
  call : Call
  resume : (now : Int) → call.Answer → Switchboard

/-- The call that the execution of a session waits for. -/
def executionWait? (board : Switchboard) (number : Nat) (seat : Seat) : Option Wait :=
  match seat.session.running? with
  | some { task? := some (.call call next), .. } =>
    some { call, resume := fun now answer =>
      board.settle number seat (seat.session.advance now (next answer)) }
  | _ => none

/-- The call that a command of a session waits for. -/
def errandWait? (board : Switchboard) (number : Nat) (seat : Seat) : Option Wait :=
  match seat.session.errand? with
  | some (.fetch (.call call next)) =>
    some { call, resume := fun _ answer =>
      board.settle number seat (seat.session.fetch (next answer)) }
  | _ => none

/-- All calls that sessions wait for, in the order of the sessions. -/
def waits (board : Switchboard) : List Wait :=
  board.seats.zipIdx.flatMap fun (seat, number) =>
    (board.executionWait? number seat).toList ++ (board.errandWait? number seat).toList

/-- Writes all messages that have not been written, in the order of the sessions. -/
def forwardAll (board : Switchboard) : Switchboard :=
  (board.seats.zipIdx.flatMap fun (seat, number) =>
    List.replicate (seat.session.sent.length - seat.forwarded) number).foldl forward board

end Switchboard

end LogQuery
