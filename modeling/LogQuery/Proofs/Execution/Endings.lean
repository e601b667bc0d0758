import LogQuery.Proofs.Execution.Stopping

namespace LogQuery

/-- Whether no call for results has failed. -/
def Exchange.answered : Exchange → Bool
  | ⟨.results _, answers⟩ => (List.ofFn answers).all Except.isOk
  | _ => true

namespace Execution

section

variable {execution : Execution} {logGroups : List RegionLogGroups} {columns : Columns}
  {seed? : Option (List String)} {queries : List StartedQuery} {first polling : Polling}
  {transcript exchanges : List Exchange} {stage : Stage} {moment : Nat}

theorem Tracks.settled_iff_ended (h : Tracks columns seed? queries transcript polling) :
    polling.settled = true ↔
      ∀ region ∈ Heard.after (queries.map .nothing) transcript, region.ended = true :=
  settled_iff columns h.orderly h.regions

theorem Polls.ongoing
    (h : execution.Polls logGroups first transcript (.polling logGroups polling)) :
    transcript = [] ∨ ¬polling.settled := by
  generalize reached : Stage.polling logGroups polling = stage at h
  cases h with
  | start => exact .inl rfl
  | round transcript exchanges polling' stage polls round =>
      right
      cases round with
      | failed => cases reached
      | stopped => cases reached
      | shown answers later received rest stage waits =>
          cases waits with
          | settled => cases reached
          | stopped => cases reached
          | carriesOn ongoing =>
              cases reached
              exact ongoing

theorem Polls.last {outcome : Except QueryError Report}
    (h : execution.Polls logGroups first transcript (.ended outcome)) :
    ∃ start polling exchanges, transcript = start ++ exchanges ∧
      execution.Polls logGroups first start (.polling logGroups polling) ∧
      execution.Round logGroups polling exchanges (.ended outcome) := by
  generalize reached : Stage.ended outcome = stage at h
  cases h with
  | start => cases reached
  | round start exchanges polling stage polls round =>
      subst reached
      exact ⟨start, polling, exchanges, rfl, polls, round⟩

/-- The last round of a query in which every call is answered: the query is completed exactly if
it is not told to stop at the check behind the answers and all regions have settled. -/
theorem Round.ends (tracks : Tracks columns seed? queries transcript polling)
    {outcome : Except QueryError Report}
    (h : execution.Round logGroups polling exchanges (.ended outcome))
    (answered : ∀ exchange ∈ exchanges, exchange.answered) :
    ∃ report answers told later, outcome = .ok report ∧
      exchanges = ⟨.results polling.unsettled, answers⟩ :: ⟨.cancelled, told⟩ :: later ∧
      (∀ exchange ∈ later, ¬exchange.isRound) ∧
      (report.ending = .completed ↔ told = false ∧
        ∀ region ∈ Heard.after (queries.map .nothing) (transcript ++ exchanges),
        region.ended = true) := by
  cases h with
  | failed answers e received =>
      obtain ⟨i, failure, fails, -⟩ := Polling.first_of_receive_error received
      exact absurd (answered _ List.mem_cons_self) (not_all_isOk fails)
  | stopped answers later received =>
      exact ⟨_, answers, true, [], rfl, rfl, by simp, by simp [report]⟩
  | shown answers later received rest stage waits =>
      have shown := (tracks.checked received false).told
      rw [List.append_assoc, List.cons_append, List.cons_append, List.nil_append] at shown
      have quiet : ∀ exchange ∈ later.told ++ rest, ¬exchange.isRound := by
        rw [List.forall_mem_append]
        exact ⟨Polling.told_silent, fun exchange hmem => (waits.silent exchange hmem).1⟩
      have heard : Heard.after (queries.map .nothing)
            (transcript ++ ⟨.results polling.unsettled, answers⟩ :: ⟨.cancelled, false⟩ ::
              (later.told ++ rest)) =
          Heard.after (queries.map .nothing)
            (transcript ++ ⟨.results polling.unsettled, answers⟩ :: ⟨.cancelled, false⟩ ::
              later.told) := by
        have silent : ∀ exchange ∈ rest, ¬exchange.isRound :=
          fun exchange hmem => (waits.silent exchange hmem).1
        rw [← List.cons_append, ← List.cons_append, ← List.append_assoc, Heard.after_append,
          (Heard.after_of_not_isRound silent _).1]
      rw [heard, ← shown.settled_iff_ended]
      cases waits with
      | settled settled =>
        exact ⟨_, answers, false, _, rfl, rfl, quiet, by simp [report, settled]⟩
      | stopped ongoing =>
        exact ⟨_, answers, false, _, rfl, rfl, quiet, by simp [report, ongoing]⟩

end

variable {σ : Type} (execution : Execution) (service : Service σ)
    (logGroups : List RegionLogGroups)
  (columns : Columns) (seed? : Option (List String)) (queries : List StartedQuery)

theorem isSome_runFrom_polling (state : σ) {turns moment : Nat}
    (told : ToldFrom moment
      (execution.polled service logGroups columns seed? queries state turns).transcript)
    (begun : 0 < turns)
    (reached : (∀ region ∈
      heard queries (execution.polled service logGroups columns seed? queries state turns),
      region.ended = true) ∨ moment < turns) :
    (execution.runFrom service turns (.polling logGroups (.start columns seed? queries))
      state).isSome := by
  let standing := execution.polled service logGroups columns seed? queries state turns
  have polls : execution.Polls logGroups (.start columns seed? queries)
      standing.transcript standing.stage :=
    execution.polled_polls service columns seed? queries state turns
  rw [execution.runFrom_eq_after service turns ⟨_, state, []⟩]
  rcases polls.rests with ⟨outcome, ended⟩ | ⟨polling, ongoing⟩
  · rw [show (execution.after service turns _).stage = _ from ended]
    rfl
  · have long :=
      execution.turns_le_length service logGroups columns seed? queries state turns
        ⟨polling, ongoing⟩
    rw [ongoing] at polls
    rcases reached with ended | late
    · -- A query that goes on behind its first round has not settled.
      rcases polls.ongoing with none | unsettled
      · rw [none] at long
        exact absurd begun (Nat.not_lt.mpr long)
      · exact absurd (polls.stands.tracks.settled_iff_ended.mpr ended) unsettled
    · have short := polls.length_le told
      exact absurd (Nat.lt_of_lt_of_le late (Nat.le_trans long short)) (Nat.lt_irrefl moment)

/-- A query is completed exactly if all regions have settled and it is not told to stop before
the check behind their last answers. Otherwise it is said to be stopped. -/
theorem completed_iff_settled_untold (state : σ) (turns moment : Nat)
    (told : ToldFrom moment
      (execution.polled service logGroups columns seed? queries state turns).transcript)
    (answered : ∀ exchange ∈
      (execution.polled service logGroups columns seed? queries state turns).transcript,
      exchange.answered) :
    let standing := execution.polled service logGroups columns seed? queries state turns
    let run :=
      execution.runFrom service turns (.polling logGroups (.start columns seed? queries)) state
    let settled := ∀ region ∈ heard queries standing, region.ended = true
    (0 < turns → settled ∨ moment < turns → run.isSome) ∧
    ∀ outcome final, run = some (outcome, final) →
      ∃ report before asked answers heeded later, outcome = .ok report ∧
        standing.transcript =
          before ++ ⟨.results asked, answers⟩ :: ⟨.cancelled, heeded⟩ :: later ∧
        (∀ exchange ∈ later, ¬exchange.isRound) ∧
        (report.ending = .completed ↔ settled ∧ before.length + 1 < moment) ∧
        (report.ending = .canceled ↔ ¬settled ∨ moment ≤ before.length + 1) ∧
        ((report.ending = .completed ↔ settled) ↔ ¬(settled ∧ moment ≤ before.length + 1)) := by
  intro standing run settled
  have polls : execution.Polls logGroups (.start columns seed? queries) standing.transcript
      standing.stage := execution.polled_polls service columns seed? queries state turns
  constructor
  · exact execution.isSome_runFrom_polling service logGroups columns seed? queries state told
  · intro outcome final ran
    have ended : standing.stage = .ended outcome :=
      execution.ended_of_runFrom service turns ⟨_, state, []⟩ ran
    rw [ended] at polls
    obtain ⟨start, polling, exchanges, split, before, round⟩ := polls.last
    rw [split, List.forall_mem_append] at answered
    obtain ⟨report, answers, heeded, later, rfl, rfl, quiet, completed⟩ :=
      round.ends before.stands.tracks answered.2
    have check : standing.transcript =
        (start ++ [⟨.results polling.unsettled, answers⟩]) ++ ⟨.cancelled, heeded⟩ :: later := by
      simp [split]
    have heard : settled ↔
        ∀ region ∈ Heard.after (queries.map .nothing)
          (start ++ ⟨.results polling.unsettled, answers⟩ :: ⟨.cancelled, heeded⟩ :: later),
          region.ended = true := by
      rw [← split]
      rfl
    have timing : heeded = false ↔ start.length + 1 < moment := by
      have heeds := told.iff check
      rw [List.length_append, List.length_singleton] at heeds
      rw [← Nat.not_le, ← heeds, Bool.not_eq_true]
    rw [← heard, timing] at completed
    refine ⟨report, start, _, answers, heeded, later, rfl, split, quiet, ?_, ?_, ?_⟩
    · rw [completed, and_comm]
    · have either : report.ending = .canceled ↔ ¬report.ending = .completed := by
        cases report.ending <;> simp
      rw [either, completed, not_and_or, Nat.not_lt, or_comm]
    · rw [completed, ← Nat.not_le]
      tauto

/-- Where two regions are over in the second round, and the query is told to stop from a moment
on. The state counts the calls. -/
def overInSecondRound (moment : Nat) : Service Nat where
  answer calls
    | .results _ =>
      (fun _ => .ok {
        status := if calls = 0 then .running else .complete
        rows := []
        valueRows := []
        statistics? := none }, calls + 1)
    | .cancelled => (decide (moment ≤ calls), calls + 1)
    | c => (Unreachable.answer (m := Id) (fun _ => .ok ()) (fun _ => ()) c, calls + 1)

theorem completed_iff_settled_untold_behind :
    let queries : List StartedQuery := [⟨⟨"p", "a"⟩, "1"⟩, ⟨⟨"p", "b"⟩, "2"⟩]
    let query : Query := ⟨"", "p", ["a", "b"], "g", ⟨0, 0⟩, none, "", none, none⟩
    let standing := polled ⟨query, 0⟩ (overInSecondRound 6) [] (.ofQuery "") none queries 0 2
    let run :=
      runFrom ⟨query, 0⟩ (overInSecondRound 6) 2
        (.polling [] (.start (.ofQuery "") none queries)) 0
    ToldFrom 6 standing.transcript ∧ (∀ exchange ∈ standing.transcript, exchange.answered) ∧
      (∀ region ∈ heard queries standing, region.ended = true) ∧
      ∃ report final, run = some (.ok report, final) ∧ report.ending = .completed := by
  intro queries query standing run
  have told : ToldFrom 6 standing.transcript := by decide +kernel
  have answered : ∀ exchange ∈ standing.transcript, exchange.answered := by decide +kernel
  have settled : ∀ region ∈ heard queries standing, region.ended = true := by decide +kernel
  obtain ⟨returns, reports⟩ := completed_iff_settled_untold ⟨query, 0⟩ (overInSecondRound 6) []
    (.ofQuery "") none queries 0 2 6 told answered
  obtain ⟨⟨outcome, final⟩, ran⟩ :=
    Option.isSome_iff_exists.mp (returns (by decide) (.inl settled))
  obtain ⟨report, before, asked, answers, heeded, later, rfl, split, -, completed, -⟩ :=
    reports outcome final ran
  have short : before.length + 1 < 6 := by
    have length : standing.transcript.length = 6 := by decide +kernel
    rw [show standing.transcript = _ from split, List.length_append, List.length_cons,
      List.length_cons] at length
    omega
  exact ⟨told, answered, settled, report, final, ran, completed.mpr ⟨settled, short⟩⟩

/-- Told while the last answers come in: the query is said to be stopped, although every region
has settled. -/
theorem canceled_though_settled :
    let queries : List StartedQuery := [⟨⟨"p", "a"⟩, "1"⟩, ⟨⟨"p", "b"⟩, "2"⟩]
    let query : Query := ⟨"", "p", ["a", "b"], "g", ⟨0, 0⟩, none, "", none, none⟩
    let standing := polled ⟨query, 0⟩ (overInSecondRound 5) [] (.ofQuery "") none queries 0 2
    let run :=
      runFrom ⟨query, 0⟩ (overInSecondRound 5) 2
        (.polling [] (.start (.ofQuery "") none queries)) 0
    ToldFrom 5 standing.transcript ∧ (∀ exchange ∈ standing.transcript, exchange.answered) ∧
      (∀ region ∈ heard queries standing, region.ended = true) ∧
      ∃ report final, run = some (.ok report, final) ∧ report.ending = .canceled ∧
        ¬(report.ending = .completed ↔
          ∀ region ∈ heard queries standing, region.ended = true) := by
  intro queries query standing run
  have settled : ∀ region ∈ heard queries standing, region.ended = true := by decide +kernel
  exact ⟨by decide +kernel, by decide +kernel, settled, _, _, rfl, rfl, fun same =>
    nomatch same.mpr settled⟩

end Execution

end LogQuery
