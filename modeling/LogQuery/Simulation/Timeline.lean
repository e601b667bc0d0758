import LogQuery.Session.Basic
import LogQuery.Simulation.World

namespace LogQuery.Simulation

/-- An answer that is on its way to an execution. -/
structure Pending where
  due : Nat
  /-- Whether the execution only waits, so that it goes on at once when it is told to stop. -/
  pause : Bool
  /-- How the turn goes on after the answer. -/
  rest : Task Stage

/-- A session and what its execution is waiting for. -/
structure Actor where
  session : Session
  /-- How many executions were started before its own. -/
  rank : Nat
  /-- Nothing, if the next call has yet to be made. -/
  pending? : Option Pending
  /-- The reply to a command, until it has been taken. As long as it is there, nobody waits for
  the execution that the command has started, and it does not run. -/
  reply? : Option Reply

namespace Actor

def new (session : Session) : Actor where
  session := session
  rank := 0
  pending? := none
  reply? := none

/-- Whether the execution can go on at a time. -/
def ready (actor : Actor) (clock : Nat) : Bool :=
  actor.session.isRunning && actor.reply?.isNone && match actor.pending? with
    | none => true
    | some pending =>
      pending.due ≤ clock ||
        (pending.pause && actor.session.toldToStop)

/-- When the execution can go on, if it has to wait. -/
def due? (actor : Actor) : Option Nat :=
  if actor.session.isRunning then actor.pending?.map Pending.due else none

end Actor

structure Timeline where
  world : World
  actors : List Actor
  launched : Nat

namespace Timeline

def start (world : World) (interval : Nat) : Timeline where
  world := world
  actors := [.new (.new interval)]
  launched := 0

def actor? (line : Timeline) (i : Nat) : Option Actor :=
  line.actors[i]?

def setActor (line : Timeline) (i : Nat) (actor : Actor) : Timeline :=
  { line with actors := line.actors.set i actor }

/-- The present time as an instant. -/
def now (line : Timeline) : Int :=
  line.world.clock

/-- Takes the outcome of an event in a session. After a command that was waiting, an execution of
the session is a new one. -/
def settle (line : Timeline) (i : Nat) (actor : Actor) :
    Session × Option Reply → Timeline
  | (session, none) => line.setActor i { actor with session }
  | (session, some reply) =>
    { line with launched := line.launched + 1 }.setActor i
      { session, rank := line.launched, pending? := none, reply? := some reply }

/-- Goes on with the execution of a session that is ready, up to its next wait. -/
def proceed (line : Timeline) (i : Nat) (actor : Actor) : Timeline :=
  match actor.pending? with
  | some pending =>
    line.settle i { actor with pending? := none } (actor.session.advance line.now pending.rest)
  | none =>
    match actor.session.running? with
    | some { task? := some (.call c next), .. } =>
      let pause := match c with
        | .pause _ => true
        | _ => false
      let (answer, delay, world) := line.world.answer c
      let pending : Pending := { due := world.clock + delay, pause, rest := next answer }
      { line with world }.setActor i { actor with pending? := some pending }
    | _ => line

/-- The session whose execution goes on first among those that are ready. -/
def first? (line : Timeline) : Option (Nat × Actor) :=
  let ready := line.actors.zipIdx.filter fun (actor, _) => actor.ready line.world.clock
  (ready.foldl (fun best? (actor, i) =>
    match best? with
    | some (_, best) => if best.rank ≤ actor.rank then best? else some (i, actor)
    | none => some (i, actor)) none : Option (Nat × Actor))

/-- The next time at which an execution can go on. -/
def nextDue? (line : Timeline) : Option Nat :=
  (line.actors.filterMap Actor.due?).min?

/-- Lets the executions run until `finished` holds or there is nothing to wait for, but not past
the time `limit?`. `finished` is asked when nothing can go on at the present time. -/
def run (finished : Timeline → Bool) (limit? : Option Nat) : (fuel : Nat) → Timeline → Timeline
  | 0, line => line
  | fuel + 1, line =>
    match line.first? with
    | some (i, actor) => run finished limit? fuel (line.proceed i actor)
    | none =>
      if finished line then line
      else match line.nextDue?, limit? with
        | some due, none => run finished limit? fuel { line with world.clock := due }
        | some due, some limit =>
          if due ≤ limit then run finished limit? fuel { line with world.clock := due }
          else { line with world.clock := limit }
        | none, some limit => { line with world.clock := limit }
        | none, none => line

/-- The number of steps that the executions may take while someone waits: more than any script
gives them to do. -/
def maxSteps : Nat := 1000000

def idle (i : Nat) (line : Timeline) : Bool :=
  match line.actor? i with
  | some actor => !actor.session.isRunning
  | none => true

/-- Lets the executions run until the one of a session has ended. -/
def awaitEnd (line : Timeline) (i : Nat) : Timeline :=
  if line.idle i then line else line.run (idle i) none maxSteps

/-- Whether the reply to a command of a session is there. -/
def replied (i : Nat) (line : Timeline) : Bool :=
  match line.actor? i with
  | some actor => actor.reply?.isSome
  | none => true

/-- Lets the executions run until the reply to a command of a session is there. -/
def awaitReply (line : Timeline) (i : Nat) : Timeline :=
  if line.replied i then line else line.run (replied i) none maxSteps

def modify (line : Timeline) (i : Nat) (f : Session → Session) : Timeline :=
  match line.actor? i with
  | some actor => line.setActor i { actor with session := f actor.session }
  | none => line

def answerErrand (line : Timeline) (i : Nat) : (fuel : Nat) → Timeline
  | 0 => line
  | fuel + 1 =>
    match line.actor? i with
    | some actor =>
      match actor.session.errand? with
      | some (.fetch (.call c next)) =>
        let (answer, _, world) := line.world.answer c
        let (session, reply?) := actor.session.fetch (next answer)
        ({ line with world }.setActor i { actor with session, reply? }).answerErrand i fuel
      | _ => line
    | none => line

/-- Takes the reply to a command of a session. A session that the command has opened is put
behind the others. -/
def takeReply (line : Timeline) (i : Nat) : Timeline × Option Reply :=
  match line.actor? i with
  | none => (line, none)
  | some actor =>
    let line := line.setActor i { actor with reply? := none }
    match actor.reply? with
    | some (.duplicated copy) =>
      ({ line with actors := line.actors ++ [.new copy] }, some (.duplicated copy))
    | reply? => (line, reply?)

/-- Gives a command to a session and waits until it is finished. -/
def send (line : Timeline) (i : Nat) (command : Command) : Timeline × Option Reply :=
  match line.actor? i with
  | none => (line, none)
  | some actor =>
    let (session, reply?) := actor.session.handle line.now command
    let launches := match command with
      | .refresh _ => reply?.isSome
      | _ => false
    let line :=
      if launches then line.settle i actor (session, reply?)
      else line.setActor i { actor with session, reply? }
    ((line.answerErrand i 2).awaitReply i).takeReply i

def await (line : Timeline) (i : Nat) : Timeline :=
  (line.awaitEnd i).modify i Session.release

/-- Stops the execution of a session and waits for it. -/
def cancel (line : Timeline) (i : Nat) : Timeline :=
  (line.modify i Session.cancel).await i

def sleep (line : Timeline) (millis : Nat) : Timeline :=
  line.run (fun _ => false) (some (line.world.clock + millis)) maxSteps

/-- All messages that the sessions have sent, with the number of the session. -/
def messages (line : Timeline) : List (Nat × List Message) :=
  line.actors.zipIdx.map fun (actor, i) => (i, actor.session.sent)

end Timeline

end LogQuery.Simulation
