import LogQuery.Console.Switchboard
import LogQuery.Files.FileSystem

/-!
The course of a console with several sessions. It reads one line of input after the other, up to
the end of the input or until no session is open any more. Then it stops the sessions one after
the other, and it ends when all that they have sent is printed. When the input cannot be read it
breaks off.
-/

namespace LogQuery

namespace Switchboard

/-- Forgets the execution of a session, which the console has waited for. -/
def release (board : Switchboard) (number : Nat) : Switchboard :=
  match board.open? number with
  | none => board
  | some seat =>
    { board with
      seats := board.seats.set number { seat with session := seat.session.release } }

def allForwarded (board : Switchboard) : Bool :=
  board.seats.all fun seat => seat.session.sent.length ≤ seat.forwarded

end Switchboard

/-- What a console is at. -/
inductive Mode where
  | reading
  /-- It has told a session to stop and waits for its execution. The sessions before have
  stopped. -/
  | stopping (number : Nat)
  /-- All sessions have stopped, and what they have sent is still being printed. -/
  | draining
  | left
  /-- The input cannot be read, and the console leaves at once: it stops no session and waits for
  no message. What goes on beside it may still go on for a while. -/
  | broken (fault : FileFault)
deriving DecidableEq, Repr

structure Desk where
  board : Switchboard
  mode : Mode
  /-- How many lines of the output are printed. -/
  printed : Nat

namespace Desk

def start (interval : Nat) : Desk where
  board := .start interval
  mode := .reading
  printed := 0

/-- Whether the next line of input is read. -/
def reads (desk : Desk) : Bool :=
  desk.mode == .reading && desk.board.reads

/-- Tells the session with a number to stop. -/
def stop (desk : Desk) (number : Nat) : Desk :=
  { desk with board := desk.board.cancel number, mode := .stopping number }

/-- Handles the next line of input at the instant `now`, or the end of the input, or that it
cannot be read. -/
def take (desk : Desk) (now : Int) : Except FileFault (Option String) → Desk
  | .ok (some line) => { desk with board := desk.board.receive now line }
  | .ok none => desk.stop 0
  | .error fault => { desk with mode := .broken fault }

/-- Goes on with what comes after the input, once what came before is done. -/
def goOn (desk : Desk) : Desk :=
  match desk.mode with
  | .reading => if desk.board.anyOpen then desk else desk.stop 0
  | .stopping number =>
    match desk.board.seats[number]? with
    | some seat =>
      if seat.session.isRunning then desk
      else { desk with board := desk.board.release number }.stop (number + 1)
    | none => { desk with mode := .draining }
  | .draining =>
    if desk.board.allForwarded && desk.board.written.length ≤ desk.printed then
      { desk with mode := .left }
    else desk
  | .left | .broken _ => desk

/-- Whether nothing more is done on the console. -/
def isOver (desk : Desk) : Bool :=
  match desk.mode with
  | .left | .broken _ => true
  | _ => false

/-- Why the input cannot be read, where the console broke off. -/
def fault? (desk : Desk) : Option FileFault :=
  match desk.mode with
  | .broken fault => some fault
  | _ => none

def output (desk : Desk) : List Written :=
  desk.board.written.take desk.printed

end Desk

end LogQuery
