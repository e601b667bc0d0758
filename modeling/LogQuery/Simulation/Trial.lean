import LogQuery.Execution.Stage
import LogQuery.Simulation.World

namespace LogQuery.Simulation

inductive CancelPlan where
  | never
  | beforeStart
  | onLogGroups
  | onStarted
  /-- When it tells about rows for the `n`-th time. -/
  | onResults (n : Nat)
  /-- So many milliseconds after its start. -/
  | after (millis : Nat)
deriving DecidableEq, Repr

/-- A scripted service and the plan to stop an execution. -/
structure Trial where
  world : World
  plan : CancelPlan
  startedAt : Nat
  updates : Nat
  /-- Whether the plan was met by what the execution has told. -/
  told : Bool

namespace Trial

def start (world : World) (plan : CancelPlan) : Trial where
  world := world
  plan := plan
  startedAt := world.clock
  updates := 0
  told := plan == .beforeStart

def deadline? (trial : Trial) : Option Nat :=
  match trial.plan with
  | .after millis => some (trial.startedAt + millis)
  | _ => none

def cancelled (trial : Trial) : Bool :=
  trial.told || match trial.deadline? with
    | some deadline => deadline ≤ trial.world.clock
    | none => false

def elapse (trial : Trial) (millis : Nat) : Trial :=
  { trial with world.clock := trial.world.clock + millis }

/-- Waits for some milliseconds, or until the execution is told to stop. -/
def pause (trial : Trial) (millis : Nat) : Trial :=
  if trial.cancelled then trial
  else match trial.deadline? with
    | some deadline => trial.elapse (min millis (deadline - trial.world.clock))
    | none => trial.elapse millis

def note (trial : Trial) : Progress → Trial
  | .logGroups _ => { trial with told := trial.told || trial.plan == .onLogGroups }
  | .started _ => { trial with told := trial.told || trial.plan == .onStarted }
  | .results _ _ =>
    let updates := trial.updates + 1
    { trial with updates, told := trial.told || trial.plan == .onResults updates }

def answer (trial : Trial) : (c : Call) → c.Answer × Trial
  | .cancelled => (trial.cancelled, trial)
  | .pause millis => ((), trial.pause millis)
  | .report progress =>
    ((), { trial.note progress with world := trial.world.record (.report progress) })
  | call =>
    let (answer, delay, world) := trial.world.answer call
    (answer, { trial with world }.elapse delay)

def service : Service Trial := ⟨answer⟩

/-- The number of turns that an execution may take: more than any script gives it to do. -/
def maxTurns : Nat := 100000

/-- The outcome of an execution, and the service then. -/
def execute (world : World) (plan : CancelPlan) (execution : Execution) :
    Option (Except QueryError Report × World) :=
  (execution.run service maxTurns (start world plan)).map fun (outcome, trial) =>
    (outcome, trial.world)

/-- The outcomes of several executions of one query, one after the other, with the service after
each. The query keeps the field names that an execution showed last, and has none after an
error. -/
def executeTimes (plan : CancelPlan) : (times : Nat) → World → Execution →
    List (Except QueryError Report × World)
  | 0, _, _ => []
  | times + 1, world, execution =>
    match execute world plan execution with
    | none => []
    | some (outcome, world) =>
      let fieldNames? := match outcome with
        | .ok report => report.fieldNames?
        | .error _ => none
      (outcome, world) :: executeTimes plan times world
        { execution with query.fieldNames? := fieldNames? }

end Trial

/-- The log groups that a pattern names at a site, and the service then. Access to the site is
asked for first. -/
def World.resolve (world : World) (site : Site) (pattern : String) :
    Except QueryError (List String) × World :=
  let (access, world) := (Task.ask (.connect site)).run service world
  match access with
  | .error e => (.error e, world)
  | .ok () =>
    let (expansion, world) := (LogGroups.Expansion.start site pattern).run service world
    (expansion.run service pattern Trial.maxTurns world).getD (.ok [], world)

end LogQuery.Simulation
