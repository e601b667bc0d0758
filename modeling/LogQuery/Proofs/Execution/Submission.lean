import LogQuery.Proofs.Execution.Trace

namespace LogQuery

open LogGroups

def Exchange.refusesStart : Exchange → Bool
  | ⟨.startQuery .., .error _⟩ => true
  | _ => false

theorem Exchange.not_refusesStart_of_prepares {exchange : Exchange} (h : exchange.call.prepares) :
    ¬exchange.refusesStart := by
  obtain ⟨c, answer⟩ := exchange
  cases c <;> first | exact Bool.false_ne_true | cases h

theorem Exchange.not_refusesStart_of_polls {exchange : Exchange} (h : exchange.call.polls) :
    ¬exchange.refusesStart := by
  obtain ⟨c, answer⟩ := exchange
  cases c <;> first | exact Bool.false_ne_true | cases h

namespace Execution

variable {σ : Type} (execution : Execution) (service : Service σ)

def startOf (found : List RegionLogGroups) (query : StartedQuery) : Exchange where
  call := .startQuery query.site
    (startRequest execution.query (logGroupsOf found query.site.region))
  answer := (.ok query.id : Except CallFailure String)

def refusalOf (found : List RegionLogGroups) (site : Site) (failure : CallFailure) :
    Exchange where
  call := .startQuery site (startRequest execution.query (logGroupsOf found site.region))
  answer := (.error failure : Except CallFailure String)

/-- The calls by which a query is started in some regions while others have started it already,
and what comes of them. -/
inductive Submits (found : List RegionLogGroups) (regions : List String)
    (already : List StartedQuery) : List Exchange → Except QueryError (List StartedQuery) → Prop
  | accepted (queries : List StartedQuery)
      (sites : queries.map StartedQuery.site = regions.map execution.site) :
      Submits found regions already (queries.map (execution.startOf found))
        (.ok (already ++ queries))
  | refused (before : List String) (region : String) (behind : List String)
      (queries : List StartedQuery) (failure : CallFailure) (stops : List Exchange)
      (order : regions = before ++ region :: behind)
      (sites : queries.map StartedQuery.site = before.map execution.site)
      (stopped : stops.map Exchange.call = (already ++ queries).map Call.stopQuery) :
      Submits found regions already
        (queries.map (execution.startOf found) ++
          execution.refusalOf found (execution.site region) failure :: stops)
        (.error (.querySubmit region failure.message))

theorem stopAll_calls (queries : List StartedQuery) (state : σ) :
    ((stopAll queries).exchanges service state).map Exchange.call =
      queries.map Call.stopQuery := by
  induction queries generalizing state with
  | nil => rfl
  | cons query rest ih => exact congrArg (List.cons (Call.stopQuery query)) (ih _)

theorem Submits.cons {found : List RegionLogGroups} {rest : List String}
    {already : List StartedQuery} {query : StartedQuery} {region : String}
    {exchanges : List Exchange} {outcome : Except QueryError (List StartedQuery)}
    (h : execution.Submits found rest (already ++ [query]) exchanges outcome)
    (site : query.site = execution.site region) :
    execution.Submits found (region :: rest) already (execution.startOf found query :: exchanges)
      outcome := by
  cases h with
  | accepted queries sites =>
      rw [List.append_assoc]
      exact .accepted (query :: queries) (by simp [site, sites])
  | refused before region' behind queries failure stops order sites stopped =>
      exact .refused (region :: before) region' behind (query :: queries) failure stops
        (by simp [order]) (by simp [site, sites]) (by simpa using stopped)

theorem Submits.not_polls {found : List RegionLogGroups} {regions : List String}
    {already : List StartedQuery} {exchanges : List Exchange}
    {outcome : Except QueryError (List StartedQuery)}
    (h : execution.Submits found regions already exchanges outcome) :
    ∀ exchange ∈ exchanges, ¬exchange.call.polls ∧
      ∀ started, exchange.call ≠ .report (.started started) := by
  have starts (queries : List StartedQuery) : ∀ exchange ∈ queries.map (execution.startOf found),
      ¬exchange.call.polls ∧ ∀ started, exchange.call ≠ .report (.started started) := by
    simp [startOf, Call.polls]
  cases h with
  | accepted queries => exact starts queries
  | refused before region behind queries failure stops order sites stopped =>
      refine List.forall_mem_append.mpr ⟨starts queries, List.forall_mem_cons.mpr ⟨?_, ?_⟩⟩
      · simp [refusalOf, Call.polls]
      · intro exchange hmem
        have hcall := List.mem_map_of_mem (f := Exchange.call) hmem
        rw [stopped] at hcall
        obtain ⟨query, _, hquery⟩ := List.mem_map.mp hcall
        simp [← hquery, Call.polls]

theorem Submits.starts {found : List RegionLogGroups} {regions : List String}
    {already queries : List StartedQuery} {exchanges : List Exchange}
    (h : execution.Submits found regions already exchanges (.ok queries)) :
    ∀ exchange ∈ exchanges, ¬exchange.refusesStart ∧
      ∀ query, exchange.call ≠ .stopQuery query := by
  cases h
  simp [startOf, Exchange.refusesStart]

theorem startAll_submits (found : List RegionLogGroups) (regions : List String)
    (already : List StartedQuery) (state : σ) :
    execution.Submits found regions already
      ((execution.startAll found regions already).exchanges service state)
      ((execution.startAll found regions already).run service state).1 := by
  induction regions generalizing already state with
  | nil =>
      have none : execution.Submits found [] already [] (.ok (already ++ [])) := .accepted [] rfl
      simpa [startAll] using none
  | cons region rest ih =>
      rw [startAll_cons, Task.exchanges_call, Task.run_call]
      generalize service.answer state (.startQuery (execution.site region)
        (startRequest execution.query (logGroupsOf found region))) = reply
      obtain ⟨failure | id, state⟩ := reply
      · simp only [Task.exchanges_bind, Task.exchanges_done, List.append_nil, Task.run_bind_eq,
          Task.run_done]
        have stopped := stopAll_calls service already state
        exact .refused [] region rest [] failure _ rfl rfl (by simpa using stopped)
      · exact (ih (already ++ [⟨execution.site region, id⟩]) state).cons execution rfl

theorem Prepares.run {task : Task Stage} (h : execution.Prepares (fun _ => True) task)
    (state : σ) :
    ((∀ exchange ∈ task.exchanges service state, exchange.call.prepares) ∧
      (task.run service state).1.Unstarted fun _ => True) ∨
    ∃ found prelude middle, (∀ exchange ∈ prelude, exchange.call.prepares) ∧
      task.exchanges service state =
        prelude ++ (execution.submit found).exchanges service middle ∧
      task.run service state = (execution.submit found).run service middle := by
  induction h generalizing state with
  | stop stage unstarted => exact .inl ⟨by simp, unstarted⟩
  | submit found => exact .inr ⟨found, [], state, by simp, rfl, rfl⟩
  | call c next prepares later ih =>
      rw [Task.exchanges_call, Task.run_call]
      rcases ih (service.answer state c).1 (c.admits_any _) (service.answer state c).2 with
        ⟨calls, unstarted⟩ | ⟨found, prelude, middle, calls, exchanges, run⟩
      · exact .inl ⟨List.forall_mem_cons.mpr ⟨prepares, calls⟩, unstarted⟩
      · exact .inr ⟨found, _ :: prelude, middle, List.forall_mem_cons.mpr ⟨prepares, calls⟩,
          congrArg (List.cons _) exchanges, run⟩

/-- Starting the query everywhere, once the log groups are told: either all regions have started
it and are told, or the execution ends. -/
theorem submit_submits (found : List RegionLogGroups) (state : σ) :
    ∃ exchanges outcome, execution.Submits found execution.query.regions [] exchanges outcome ∧
      match outcome with
      | .ok queries =>
        (execution.submit found).exchanges service state =
          ⟨.report (.logGroups found), ()⟩ :: (exchanges ++ [⟨.report (.started queries), ()⟩]) ∧
        ((execution.submit found).run service state).1 = .polling found
          (.start execution.query.columns execution.query.fieldNames? queries)
      | .error e =>
        (execution.submit found).exchanges service state =
          ⟨.report (.logGroups found), ()⟩ :: exchanges ∧
        ((execution.submit found).run service state).1 = .ended (.error e) := by
  let middle := (service.answer state (.report (.logGroups found))).2
  refine ⟨_, _, execution.startAll_submits service found execution.query.regions [] middle, ?_⟩
  rw [submit_eq, Task.exchanges_call, Task.run_call, Task.exchanges_bind, Task.run_bind_eq]
  cases ((execution.startAll found execution.query.regions []).run service middle).1 with
  | error e => simp [middle]
  | ok queries => simp [middle]

/-- How far an execution may have come, by the calls that it has made. -/
inductive Submission (standing : Standing σ) : Prop
  /-- No region has been asked to start the query. -/
  | preparing (unstarted : standing.stage.Unstarted fun _ => True)
      (calls : ∀ exchange ∈ standing.transcript, exchange.call.prepares)
  /-- A region has refused to start the query. -/
  | refused (found : List RegionLogGroups) (prelude exchanges : List Exchange) (e : QueryError)
      (calls : ∀ exchange ∈ prelude, exchange.call.prepares)
      (submits : execution.Submits found execution.query.regions [] exchanges (.error e))
      (transcript : standing.transcript =
        prelude ++ ⟨.report (.logGroups found), ()⟩ :: exchanges)
      (stage : standing.stage = .ended (.error e))
  /-- All regions have started the query. -/
  | accepted (found : List RegionLogGroups) (prelude exchanges rest : List Exchange)
      (queries : List StartedQuery) (calls : ∀ exchange ∈ prelude, exchange.call.prepares)
      (submits : execution.Submits found execution.query.regions [] exchanges (.ok queries))
      (transcript : standing.transcript = prelude ++ ⟨.report (.logGroups found), ()⟩ ::
        (exchanges ++ ⟨.report (.started queries), ()⟩ :: rest))
      (later : ∀ exchange ∈ rest, exchange.call.polls) (stage : standing.stage.Asks queries)
      (polls : execution.Polls found
        (.start execution.query.columns execution.query.fieldNames? queries) rest standing.stage)

theorem Prepares.submission {task : Task Stage} (h : execution.Prepares (fun _ => True) task)
    (state : σ) {transcript : List Exchange}
    (calls : ∀ exchange ∈ transcript, exchange.call.prepares) :
    execution.Submission ⟨(task.run service state).1, (task.run service state).2,
      transcript ++ task.exchanges service state⟩ := by
  rcases h.run execution service state with
    ⟨more, unstarted⟩ | ⟨found, prelude, middle, more, hexchanges, hrun⟩
  · exact .preparing unstarted (List.forall_mem_append.mpr ⟨calls, more⟩)
  · rw [hexchanges, hrun]
    obtain ⟨exchanges, outcome, submits, hsubmit⟩ := execution.submit_submits service found middle
    have prepared := List.forall_mem_append.mpr ⟨calls, more⟩
    cases outcome with
    | error e =>
        exact .refused found _ exchanges e prepared submits (by simp [hsubmit.1]) hsubmit.2
    | ok queries =>
        rw [hsubmit.1, hsubmit.2]
        exact .accepted found _ exchanges [] queries prepared submits (by simp) (by simp)
          (Polling.start_query _ _ _) .start

theorem submission_opening (state : σ) :
    execution.Submission (execution.opening service state) := by
  have none : ∀ exchange ∈ ([] : List Exchange), exchange.call.prepares := by simp
  exact execution.start_prepares.submission execution service state none

theorem submission_advance {standing : Standing σ} (h : execution.Submission standing) :
    execution.Submission (execution.advance service standing) := by
  cases h with
  | preparing unstarted calls =>
      exact (execution.turn_prepares unstarted).submission execution service standing.state calls
  | refused found prelude exchanges e calls submits transcript stage =>
      rw [execution.advance_of_ended service stage]
      exact .refused found prelude exchanges e calls submits transcript stage
  | accepted found prelude exchanges rest queries calls submits transcript later asks polls =>
      obtain ⟨stage, state, _⟩ := standing
      dsimp only at transcript asks
      subst transcript
      cases stage with
      | draining => exact asks.elim
      | ended outcome =>
          rw [execution.advance_of_ended service rfl]
          exact .accepted found prelude exchanges rest queries calls submits rfl later asks polls
      | polling logGroups polling =>
          cases asks
          have round := execution.round_polls logGroups polling
          refine .accepted found prelude exchanges
            (rest ++ (execution.round logGroups polling).exchanges service state) _ calls submits
            (by simp [advance, turn]) ?_ (round.run service state) (polls.turn service state)
          exact List.forall_mem_append.mpr ⟨later, round.exchanges service state⟩

theorem submission_after (turns : Nat) (state : σ) :
    execution.Submission (execution.after service turns (execution.opening service state)) :=
  execution.after_induction service (execution.submission_opening service state)
    (fun _ => execution.submission_advance service) turns

/-- Once a region refuses to start the query, those before it are told to stop, those behind it
are not asked, and the execution ends with the refusal. -/
theorem starts_everywhere_or_nowhere (turns : Nat) (state : σ) :
    let standing := execution.after service turns (execution.opening service state)
    ((∃ exchange ∈ standing.transcript, exchange.refusesStart) →
      ∃ (found : List RegionLogGroups) (prelude stops : List Exchange)
          (before behind : List String) (region : String) (queries : List StartedQuery)
          (failure : CallFailure),
        execution.query.regions = before ++ region :: behind ∧
        queries.map StartedQuery.site = before.map execution.site ∧
        standing.transcript = prelude ++ ⟨.report (.logGroups found), ()⟩ ::
          (queries.map (execution.startOf found) ++
            execution.refusalOf found (execution.site region) failure :: stops) ∧
        (∀ exchange ∈ prelude, exchange.call.prepares) ∧
        stops.map Exchange.call = queries.map Call.stopQuery ∧
        (∀ exchange ∈ standing.transcript, ¬exchange.call.polls ∧
          ∀ started, exchange.call ≠ .report (.started started)) ∧
        execution.run service turns state =
          some (.error (.querySubmit region failure.message), standing.state)) ∧
    ((∀ exchange ∈ standing.transcript, ¬exchange.refusesStart) →
      (∀ exchange ∈ standing.transcript, ∀ query, exchange.call ≠ .stopQuery query) ∧
      ((∀ exchange ∈ standing.transcript, exchange.call.prepares) ∨
        ∃ (found : List RegionLogGroups) (prelude rest : List Exchange)
            (queries : List StartedQuery),
          queries.map StartedQuery.site = execution.query.regions.map execution.site ∧
          standing.transcript = prelude ++ ⟨.report (.logGroups found), ()⟩ ::
            (queries.map (execution.startOf found) ++
              ⟨.report (.started queries), ()⟩ :: rest) ∧
          (∀ exchange ∈ prelude, exchange.call.prepares) ∧
          (∀ exchange ∈ rest, exchange.call.polls) ∧ standing.stage.Asks queries)) := by
  intro standing
  cases execution.submission_after service turns state with
  | preparing unstarted calls =>
      constructor
      · rintro ⟨exchange, hmem, refuses⟩
        exact absurd refuses (Exchange.not_refusesStart_of_prepares (calls exchange hmem))
      · refine fun _ => ⟨fun exchange hmem query h => ?_, .inl calls⟩
        exact Call.ne_stopQuery_of_prepares (calls exchange hmem) query h
  | refused found prelude exchanges e calls submits transcript stage =>
      have none := submits.not_polls execution
      cases submits with
      | refused before region behind queries failure stops order sites stopped =>
          constructor
          · intro _
            refine ⟨found, prelude, stops, before, behind, region, queries, failure, order, sites,
              transcript, calls, stopped, ?_, ?_⟩
            · rw [show standing.transcript = _ from transcript]
              refine List.forall_mem_append.mpr ⟨fun exchange hmem => ?_,
                List.forall_mem_cons.mpr ⟨by simp [Call.polls], none⟩⟩
              exact Call.not_polls_of_prepares (calls exchange hmem)
            · rw [execution.run_eq_after, stage]
              rfl
          · intro none
            refine absurd rfl
              (none (execution.refusalOf found (execution.site region) failure) ?_)
            simp [standing, transcript]
  | accepted found prelude exchanges rest queries calls submits transcript later asks =>
      have starts := submits.starts execution
      have each : ∀ exchange ∈ standing.transcript, ¬exchange.refusesStart ∧
          ∀ query, exchange.call ≠ .stopQuery query := by
        rw [show standing.transcript = _ from transcript]
        simp only [List.forall_mem_append, List.forall_mem_cons]
        refine ⟨fun exchange hmem => ?_, ?_, starts, ?_, fun exchange hmem => ?_⟩
        · exact ⟨Exchange.not_refusesStart_of_prepares (calls exchange hmem),
            Call.ne_stopQuery_of_prepares (calls exchange hmem)⟩
        · simp [Exchange.refusesStart]
        · simp [Exchange.refusesStart]
        · exact ⟨Exchange.not_refusesStart_of_polls (later exchange hmem),
            Call.ne_stopQuery_of_polls (later exchange hmem)⟩
      cases submits with
      | accepted queries sites =>
          constructor
          · rintro ⟨exchange, hmem, refuses⟩
            exact absurd refuses (each exchange hmem).1
          · intro _
            exact ⟨fun exchange hmem => (each exchange hmem).2,
              .inr ⟨found, prelude, rest, queries, sites, transcript, calls, later, asks⟩⟩

end Execution

end LogQuery
