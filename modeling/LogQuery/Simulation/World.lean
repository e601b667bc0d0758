import LogQuery.LogGroups.Store
import LogQuery.Service.Task
import LogQuery.Text.Numeral

/-!
A log service that answers by a script, with a clock of its own. It is used to try out queries
and sessions without the real service: every call is written down with the time at which it was
made, and an answer may take some time.
-/

namespace LogQuery.Simulation

open Text LogGroups

/-- A page of a scripted catalog: its names, or a failure in place of them. -/
structure ScriptedPage where
  page : CatalogPage
  failure? : Option CallFailure

structure ScriptedResults where
  page : ResultsPage
  failure? : Option CallFailure
  /-- The milliseconds that the answer takes. -/
  delay : Nat

structure ScriptedRegion where
  catalog : List ScriptedPage
  /-- The failures of the calls to start a query, in turn. -/
  startFailures : List (Option CallFailure)
  stopFailure? : Option CallFailure
  /-- The answers to the calls for results of the queries that are started, in turn. The last
  answer to a query is repeated, and the last query stands for all further ones. -/
  runs : List (List ScriptedResults)
  records : List (String × LogRecord)
  history : List HistoryEntry

/-- A call and when it was made, in milliseconds. -/
structure LoggedCall where
  time : Nat
  call : Call

structure World where
  regions : List (String × ScriptedRegion)
  denied : List String
  catalogs : Store
  /-- The time in milliseconds. -/
  clock : Nat
  /-- How many queries each region was asked to start. -/
  starts : List (String × Nat)
  polls : List (String × Nat)
  /-- The calls, the last one first. -/
  log : List LoggedCall

namespace World

def start (regions : List (String × ScriptedRegion)) (denied : List String) : World where
  regions := regions
  denied := denied
  catalogs := []
  clock := 0
  starts := []
  polls := []
  log := []

def record (world : World) (call : Call) : World :=
  { world with log := ⟨world.clock, call⟩ :: world.log }

def region? (world : World) (name : String) : Option ScriptedRegion :=
  world.regions.lookup name

def count (counts : List (String × Nat)) (key : String) : Nat × List (String × Nat) :=
  let n := (counts.lookup key).getD 0
  (n, (key, n + 1) :: counts.filter fun entry => entry.1 != key)

def noRegion (name : String) : CallFailure :=
  [s!"no region {name}"]

/-- A page of a region without further names. -/
def emptyPage : ScriptedPage where
  page := { names := [], nextToken? := none }
  failure? := none

/-- The page of a catalog that a token asks for: its number, or none for the first page. -/
def pageAt (catalog : List ScriptedPage) (token? : Option String) : ScriptedPage :=
  match token? with
  | none => catalog.head?.getD emptyPage
  | some token => ((word? token).bind fun n => catalog[n]?).getD emptyPage

/-- The answer of a query that gives no rows. -/
def noResults : ScriptedResults where
  page := { status := .complete, rows := [], valueRows := [], statistics? := none }
  failure? := none
  delay := 0

/-- The name of the query of a region that was started as the given one in turn. -/
def queryId (region : String) (n : Nat) : String :=
  s!"{region}#{n}"

/-- Which of the queries of a region a name stands for: the number behind its last `#`. -/
def queryNumber (id : String) : Nat :=
  value (id.toList.reverse.takeWhile (· != '#')).reverse

/-- The number of calls for the results of one query that are answered. -/
def pollLimit : Nat := 50

/-- The answer to the `k`-th call for the results of the `n`-th query of a region. -/
def resultsAt (region : ScriptedRegion) (n k : Nat) : ScriptedResults :=
  if pollLimit ≤ k then { noResults with failure? := some ["poll limit"] }
  else
    let run := (region.runs[n]? <|> region.runs.getLast?).getD []
    (run[k]? <|> run.getLast?).getD noResults

def answerOr {α : Type} (failure? : Option CallFailure) (value : α) : Except CallFailure α :=
  match failure? with
  | some failure => .error failure
  | none => .ok value

/-- The script of a region, or the failure to be answered if it has none. -/
def withRegion {α : Type} (world : World) (name : String)
    (f : ScriptedRegion → Except CallFailure α) : Except CallFailure α :=
  match world.region? name with
  | some region => f region
  | none => .error (noRegion name)

/-- Answers a call for the results of one query. -/
def pollOne (world : World) (query : StartedQuery) : ScriptedResults × World :=
  let (k, polls) := count world.polls query.id
  let answer := match world.region? query.site.region with
    | some region => resultsAt region (queryNumber query.id) k
    | none => { noResults with failure? := some (noRegion query.site.region) }
  (answer, { world.record (.results [query]) with polls })

def pollAll (world : World) : List StartedQuery → List ScriptedResults × World
  | [] => ([], world)
  | query :: queries =>
    let (answer, world) := world.pollOne query
    let (answers, world) := world.pollAll queries
    (answer :: answers, world)

/-- The answer to a call, the milliseconds that it takes, and the service then. -/
def answer (world : World) : (c : Call) → c.Answer × Nat × World
  | .connect site =>
    let refused := world.denied.contains site.environment || (world.region? site.region).isNone
    let answer : Except QueryError Unit :=
      if refused then .error (.credentials site.environment site.region "no credentials")
      else .ok ()
    (answer, 0, world.record (.connect site))
  | .catalogPage site token? =>
    let answer := world.withRegion site.region fun region =>
      let scripted := pageAt region.catalog token?
      answerOr scripted.failure? scripted.page
    (answer, 0, world.record (.catalogPage site token?))
  | .startQuery site request =>
    let (n, starts) := count world.starts site.region
    let answer := world.withRegion site.region fun region =>
      answerOr (region.startFailures[n]?).join (queryId site.region n)
    (answer, 0, { world.record (.startQuery site request) with starts })
  | .results queries =>
    let (answers, world) := world.pollAll queries
    let answer : Fin queries.length → Except CallFailure ResultsPage := fun i =>
      let scripted := (answers[i.val]?).getD noResults
      answerOr scripted.failure? scripted.page
    (answer, (answers.map ScriptedResults.delay).foldl max 0, world)
  | .stopQuery query =>
    let answer :=
      world.withRegion query.site.region fun region => answerOr region.stopFailure? true
    (answer, 0, world.record (.stopQuery query))
  | .logRecord site pointer =>
    let answer := world.withRegion site.region fun region =>
      match region.records.lookup pointer with
      | some record => .ok record
      | none => .error ["GetLogRecord failed", s!"no record {pointer}"]
    (answer, 0, world.record (.logRecord site pointer))
  | .history site =>
    let answer := world.withRegion site.region fun region => .ok region.history
    (answer, 0, world.record (.history site))
  | .keptCatalog site => (world.catalogs.get? site, 0, world)
  | .keepCatalog site names =>
    ((), 0, { world with catalogs := world.catalogs.insert site names })
  | .report progress => ((), 0, world.record (.report progress))
  | .cancelled => (false, 0, world)
  | .pause millis => ((), millis, world)

/-- The service as one whose answers take no time but move its clock. -/
def service : Service World where
  answer world call :=
    let (answer, delay, world) := world.answer call
    (answer, { world with clock := world.clock + delay })

end World

end LogQuery.Simulation
