import LogQuery.Execution.Stage
import LogQuery.Proofs.Execution.Polling
import LogQuery.Proofs.Transcript

namespace LogQuery

open LogGroups

namespace Call

/-- Whether it is made before the query is started anywhere. -/
def prepares : Call → Bool
  | connect _ | catalogPage .. | keptCatalog _ | keepCatalog .. => true
  | _ => false

/-- Whether it is made to start the query in a region, or to take that back. -/
def submits : Call → Bool
  | startQuery .. | stopQuery _ => true
  | _ => false

/-- Whether it is made for a query that has been started everywhere. -/
def polls : Call → Bool
  | results _ | report (.results ..) | cancelled | pause _ => true
  | _ => false

/-- Whether an answer refuses access with none but these errors. -/
def Admits (refusals : QueryError → Prop) : (c : Call) → c.Answer → Prop
  | connect _, (answer : Except QueryError Unit) => ∀ e, answer = .error e → refusals e
  | _, _ => True

theorem admits_any (c : Call) (answer : c.Answer) : c.Admits (fun _ => True) answer := by
  cases c <;> simp [Admits]

end Call

theorem Call.not_polls_of_prepares {c : Call} (h : c.prepares) :
    ¬c.polls ∧ ∀ queries, c ≠ report (.started queries) := by
  unfold prepares at h
  split at h <;> simp_all [polls]

theorem Call.ne_stopQuery_of_prepares {c : Call} (h : c.prepares) (query : StartedQuery) :
    c ≠ stopQuery query := by
  rintro rfl
  cases h

theorem Call.ne_stopQuery_of_polls {c : Call} (h : c.polls) (query : StartedQuery) :
    c ≠ stopQuery query := by
  rintro rfl
  cases h

namespace Stage

/-- Whether it has stopped before the query was started anywhere: at a page of a catalog, or
because access was refused with one of these errors or a catalog could not be fetched. -/
def Unstarted (refusals : QueryError → Prop) : Stage → Prop
  | draining .. => True
  | ended (.error e) => refusals e ∨ ∃ region text, e = .catalogFetch region text
  | _ => False

/-- Whether these queries are asked for results, until the execution ends with them or because a
call for results fails. -/
def Asks (queries : List StartedQuery) : Stage → Prop
  | draining .. => False
  | polling _ asked => asked.regions.map RegionPoll.query = queries
  | ended (.ok _) => True
  | ended (.error e) => ∃ region id text, e = .queryPoll region id text

end Stage

namespace Execution

variable (execution : Execution)

theorem startAll_cons (found : List RegionLogGroups) (region : String) (rest : List String)
    (already : List StartedQuery) :
    execution.startAll found (region :: rest) already =
      .call (.startQuery (execution.site region)
          (startRequest execution.query (logGroupsOf found region)))
        fun answer : Except CallFailure String => match answer with
          | .ok id => execution.startAll found rest (already ++ [⟨execution.site region, id⟩])
          | .error failure =>
            stopAll already >>= fun _ =>
              .done (.error (.querySubmit region failure.message)) := by
  rw [startAll]
  refine congrArg (Task.call _) (funext fun answer => ?_)
  cases answer <;> rfl

theorem stopAll_ensures (queries : List StartedQuery) :
    (stopAll queries).Ensures (fun c => c.submits) fun _ => True := by
  induction queries with
  | nil => trivial
  | cons query rest ih => exact ⟨rfl, fun _ => ih⟩

theorem startAll_ensures (found : List RegionLogGroups) (regions : List String)
    (already : List StartedQuery) :
    (execution.startAll found regions already).Ensures (fun c => c.submits) fun outcome =>
      ∀ e, outcome = .error e → ∃ region text, e = .querySubmit region text := by
  induction regions generalizing already with
  | nil => exact fun e h => by cases h
  | cons region rest ih =>
      rw [startAll_cons]
      refine ⟨rfl, fun answer => ?_⟩
      cases answer with
      | ok id => exact ih _
      | error failure =>
          refine (stopAll_ensures already).bind fun _ _ => ?_
          rintro e h
          cases h
          exact ⟨_, _, rfl⟩

theorem submit_eq (found : List RegionLogGroups) :
    execution.submit found =
      .call (.report (.logGroups found)) fun _ =>
        execution.startAll found execution.query.regions [] >>= fun outcome =>
          match outcome with
          | .error e => .done (.ended (.error e))
          | .ok queries =>
            .call (.report (.started queries)) fun _ => .done (.polling found
              (.start execution.query.columns execution.query.fieldNames? queries)) := by
  refine congrArg (Task.call _) (funext fun _ =>
    congrArg (Bind.bind _) (funext fun outcome => ?_))
  cases outcome <;> rfl

/-- A task that prepares to start the query: it makes preparing calls until it stops, or until it
goes on to start the query. Access is refused with none but the errors `refusals`. -/
inductive Prepares (refusals : QueryError → Prop) : Task Stage → Prop
  | stop (stage : Stage) (unstarted : stage.Unstarted refusals) : Prepares refusals (.done stage)
  | call (c : Call) (next : c.Answer → Task Stage) (prepares : c.prepares)
      (later : ∀ answer, c.Admits refusals answer → Prepares refusals (next answer)) :
      Prepares refusals (.call c next)
  | submit (found : List RegionLogGroups) : Prepares refusals (execution.submit found)

variable {refusals : QueryError → Prop}

theorem Prepares.bind {α : Type} {q : α → Prop} {task : Task α} {f : α → Task Stage}
    (h : task.Ensures (fun c => c.prepares) q)
    (hf : ∀ value, q value → execution.Prepares refusals (f value)) :
    execution.Prepares refusals (task >>= f) := by
  induction task with
  | done value => exact hf value h
  | call c next ih => exact .call c _ h.1 fun answer _ => ih answer (h.2 answer)

theorem connectAll_prepares (regions : List String) {f : Except QueryError Unit → Task Stage}
    (granted : execution.Prepares refusals (f (.ok ())))
    (refused : ∀ e, refusals e → execution.Prepares refusals (f (.error e))) :
    execution.Prepares refusals (execution.connectAll regions >>= f) := by
  induction regions with
  | nil => exact granted
  | cons region rest ih =>
      refine .call _ _ rfl fun answer admits => ?_
      cases answer with
      | error e => exact refused e (admits e rfl)
      | ok => exact ih

theorem lookUp_prepares (site : Site) (pattern : String) :
    (lookUp site pattern).Ensures (fun c => c.prepares) fun _ => True := by
  unfold lookUp
  split
  · exact ⟨rfl, fun _ => trivial⟩
  · trivial

theorem expand_prepares (found : List RegionLogGroups) (regions : List String) :
    execution.Prepares refusals (execution.expand found regions) := by
  induction regions generalizing found with
  | nil => exact .submit found
  | cons region rest ih =>
      refine .bind execution (lookUp_prepares _ _) fun logGroups? _ => ?_
      cases logGroups? with
      | none => exact .stop _ trivial
      | some logGroups => exact ih _

theorem start_prepares : execution.Prepares refusals execution.start :=
  execution.connectAll_prepares _ (execution.expand_prepares _ _) fun _ refused =>
    .stop _ (.inl refused)

theorem turn_prepares {stage : Stage} (unstarted : stage.Unstarted refusals) :
    execution.Prepares refusals (execution.turn stage) := by
  cases stage with
  | polling => exact unstarted.elim
  | ended outcome => exact .stop _ unstarted
  | draining found drain rest =>
      have fetched : drain.fetch.Ensures (fun c => c.prepares) fun _ => True :=
        ⟨rfl, fun _ => trivial⟩
      refine .bind execution fetched fun step _ => ?_
      cases step with
      | more drain => exact .stop _ trivial
      | failed failure => exact .stop _ (.inr ⟨_, _, rfl⟩)
      | complete names => exact .call _ _ rfl fun _ _ => execution.expand_prepares _ _

theorem round_eq (logGroups : List RegionLogGroups) (polling : Polling) :
    execution.round logGroups polling =
      .call (.results polling.unsettled) fun answers =>
        match polling.receive (List.ofFn answers) with
        | .error e => .done (.ended (.error e))
        | .ok polling => execution.showAndWait logGroups polling := rfl

theorem showRows_polls (polling : Polling) :
    (showRows polling).Ensures (fun c => c.polls) fun shown =>
      shown.regions = polling.regions := by
  unfold showRows
  split
  · exact ⟨rfl, fun _ => polling.afterShowing_regions⟩
  · exact rfl

theorem wait_polls (logGroups : List RegionLogGroups) (polling : Polling) :
    (execution.wait logGroups polling).Ensures (fun c => c.polls)
      (Stage.Asks (polling.regions.map RegionPoll.query)) := by
  unfold wait
  split
  · trivial
  · refine ⟨rfl, fun _ => ⟨rfl, fun told => ?_⟩⟩
    cases told with
    | false => exact rfl
    | true => trivial

theorem showAndWait_polls (logGroups : List RegionLogGroups) (polling : Polling) :
    (execution.showAndWait logGroups polling).Ensures (fun c => c.polls)
      (Stage.Asks (polling.regions.map RegionPoll.query)) := by
  refine ⟨rfl, fun told => ?_⟩
  cases told with
  | true => trivial
  | false =>
      refine (showRows_polls polling).bind fun shown same => ?_
      rw [← same]
      exact execution.wait_polls logGroups shown

theorem round_polls (logGroups : List RegionLogGroups) (polling : Polling) :
    (execution.round logGroups polling).Ensures (fun c => c.polls)
      (Stage.Asks (polling.regions.map RegionPoll.query)) := by
  rw [round_eq]
  refine ⟨rfl, fun answers => ?_⟩
  cases received : polling.receive (List.ofFn answers) with
  | error e =>
      simp only [received]
      exact Polling.receive_error received
  | ok next =>
      simp only [received]
      rw [← Polling.receive_query received]
      exact execution.showAndWait_polls logGroups next

end Execution

end LogQuery
