import LogQuery.Proofs.Execution.Trace
import LogQuery.Service.Unreachable

namespace LogQuery

namespace Execution

variable {execution : Execution} {logGroups : List RegionLogGroups} {first polling : Polling}
  {transcript exchanges before later : List Exchange} {stage : Stage}

theorem Polls.fails (h : execution.Polls logGroups first transcript stage)
    {asked : List StartedQuery} {answers : Fin asked.length → Except CallFailure ResultsPage}
    (split : transcript = before ++ ⟨.results asked, answers⟩ :: later)
    (failing : ∃ i failure, answers i = .error failure) :
    later = [] ∧
      (∃ polling, execution.Polls logGroups first before (.polling logGroups polling) ∧
        asked = polling.unsettled) ∧
      ∃ i failure, answers i = .error failure ∧ (∀ j < i, (answers j).isOk) ∧
        stage = .ended
          (.error (.queryPoll (asked.get i).site.region (asked.get i).id failure.message)) := by
  obtain ⟨rest, more, polling, reached, rfl, polls, round, next⟩ := h.asks split
  obtain ⟨i, failure, fails⟩ := failing
  have failed := not_all_isOk fails
  cases round with
  | stopped answers later received => exact absurd (Polling.isOk_of_receive_ok received) failed
  | shown answers later received => exact absurd (Polling.isOk_of_receive_ok received) failed
  | failed answers e received =>
      rcases next with ⟨rfl, rfl⟩ | ⟨next, same⟩
      · obtain ⟨i, failure, fails, first, rfl⟩ := Polling.first_of_receive_error received
        exact ⟨rfl, ⟨polling, polls, rfl⟩, i, failure, fails, first, rfl⟩
      · cases same

variable {σ : Type} (execution : Execution) (service : Service σ)
    (logGroups : List RegionLogGroups)
  (columns : Columns) (seed? : Option (List String)) (queries : List StartedQuery)

theorem polled_next (state : σ) (turns : Nat) :
    let standing := execution.polled service logGroups columns seed? queries state turns
    let next := execution.polled service logGroups columns seed? queries state (turns + 1)
    (∃ outcome, standing.stage = .ended outcome ∧ next = standing) ∨
    ∃ polling answers rest, standing.stage = .polling logGroups polling ∧
      next.transcript = standing.transcript ++ ⟨.results polling.unsettled, answers⟩ :: rest ∧
      ∀ exchange ∈ rest, ¬exchange.isRound := by
  intro standing next
  have succ : next = execution.advance service standing := polled_succ ..
  rcases (execution.polled_polls service columns seed? queries state turns).rests with
    ⟨outcome, ended⟩ | ⟨polling, ongoing⟩
  · exact .inl ⟨outcome, ended, succ.trans (execution.advance_of_ended service ended)⟩
  · obtain ⟨answers, rest, exchanges, silent⟩ :=
      (execution.round_rounds service logGroups polling standing.state).asks_once
    refine .inr ⟨polling, answers, rest, ongoing, ?_, silent⟩
    rw [succ, execution.advance_of_polling service ongoing, exchanges]

theorem polled_grows (state : σ) {earlier turns : Nat} (before : earlier ≤ turns) :
    (execution.polled service logGroups columns seed? queries state earlier).transcript <+:
      (execution.polled service logGroups columns seed? queries state turns).transcript := by
  induction before with
  | refl => exact List.prefix_refl _
  | step before ih =>
      rw [polled_succ]
      exact ih.trans (List.prefix_append _ _)

theorem polled_begins (state : σ) {turns : Nat} (begun : 0 < turns) :
    ∃ answers later,
      (execution.polled service logGroups columns seed? queries state turns).transcript =
        ⟨.results queries, answers⟩ :: later := by
  have asked : (Polling.start columns seed? queries).unsettled = queries := by
    rw [(Tracks.start columns seed? queries).unsettled, Heard.after_nil, Heard.unfinished]
    have same : Heard.query ∘ Heard.nothing = id := rfl
    simp [List.filter_eq_self.mpr (by simp [Heard.nothing, Heard.ended] :
      ∀ region ∈ queries.map Heard.nothing, (!region.ended) = true), same]
  obtain ⟨later, grown⟩ :=
    execution.polled_grows service logGroups columns seed? queries state begun
  rcases execution.polled_next service logGroups columns seed? queries state 0 with
    ⟨outcome, ended, -⟩ | ⟨polling, answers, rest, ongoing, round, -⟩
  · cases ended
  · cases ongoing
    rw [← grown, round]
    generalize (Polling.start columns seed? queries).unsettled = first at asked answers
    subst asked
    exact ⟨answers, rest ++ later, rfl⟩

/-- Every round begins where the turns before it have left off. -/
theorem polled_split (state : σ) (turns : Nat) {asked : List StartedQuery}
    {answers : Fin asked.length → Except CallFailure ResultsPage}
    (split : (execution.polled service logGroups columns seed? queries state turns).transcript =
      before ++ ⟨.results asked, answers⟩ :: later) :
    ∃ rounds < turns,
      before = (execution.polled service logGroups columns seed? queries state
        rounds).transcript := by
  induction turns generalizing later with
  | zero => cases before <;> cases split
  | succ turns ih =>
      rcases execution.polled_next service logGroups columns seed? queries state turns with
        ⟨outcome, -, same⟩ | ⟨polling, answers', rest, -, round, silent⟩
      · rw [same] at split
        obtain ⟨rounds, less, hbefore⟩ := ih split
        exact ⟨rounds, Nat.lt_succ_of_lt less, hbefore⟩
      · rw [round] at split
        rcases append_eq_append_cons split with ⟨more, sooner⟩ | ⟨more, hbefore, begins⟩
        · obtain ⟨rounds, less, hbefore⟩ := ih sooner
          exact ⟨rounds, Nat.lt_succ_of_lt less, hbefore⟩
        · -- A turn asks for results only once, and does so first.
          cases more with
          | nil => exact ⟨turns, Nat.lt_succ_self turns, by simpa using hbefore⟩
          | cons first more =>
              obtain ⟨-, rfl⟩ := List.cons.inj begins
              exact absurd rfl (silent ⟨.results asked, answers⟩ (by simp))

theorem turns_le_length (state : σ) (turns : Nat) :
    let standing := execution.polled service logGroups columns seed? queries state turns
    (∃ polling, standing.stage = .polling logGroups polling) →
      turns ≤ standing.transcript.length := by
  induction turns with
  | zero => exact fun _ => Nat.zero_le _
  | succ turns ih =>
      intro standing
      rintro ⟨polling, ongoing⟩
      rcases execution.polled_next service logGroups columns seed? queries state turns with
        ⟨outcome, ended, same⟩ | ⟨polling', answers, rest, ongoing', round, -⟩
      · rw [show standing = _ from same, ended] at ongoing
        cases ongoing
      · have longer := ih ⟨polling', ongoing'⟩
        rw [show standing.transcript = _ from round, List.length_append, List.length_cons]
        omega

end Execution

/-- Which checks find the query told to stop: those from a moment on. The moment is the number of
calls that have been made by then, so that it falls into the last of them. -/
def ToldFrom (moment : Nat) (transcript : List Exchange) : Prop :=
  ∀ i (told : Bool), transcript[i]? = some ⟨.cancelled, told⟩ → told = decide (moment ≤ i)

def Exchange.told? : Exchange → Option Bool
  | ⟨.cancelled, told⟩ => some told
  | _ => none

theorem Exchange.told?_eq_some_iff {exchange : Exchange} {told : Bool} :
    exchange.told? = some told ↔ exchange = ⟨.cancelled, told⟩ := by
  constructor
  · obtain ⟨c, answer⟩ := exchange
    cases c <;> simp [told?]
  · rintro rfl
    rfl

instance (moment : Nat) (transcript : List Exchange) : Decidable (ToldFrom moment transcript) :=
  decidable_of_iff
    (∀ entry ∈ transcript.zipIdx, entry.1.told?.all fun told =>
      told == decide (moment ≤ entry.2)) <| by
      simp only [ToldFrom, Prod.forall, List.mem_zipIdx_iff_getElem?, Option.all_eq_true,
        Exchange.told?_eq_some_iff, beq_iff_eq]
      constructor
      · intro h i told found
        exact h _ i found told rfl
      · rintro h _ i found told rfl
        exact h i told found

theorem ToldFrom.iff {moment : Nat} {transcript before later : List Exchange} {told : Bool}
    (h : ToldFrom moment transcript)
    (split : transcript = before ++ ⟨.cancelled, told⟩ :: later) :
    told = true ↔ moment ≤ before.length := by
  rw [h before.length told (by simp [split]), decide_eq_true_eq]

namespace Execution

section

variable {execution : Execution} {logGroups : List RegionLogGroups} {first polling : Polling}
  {transcript before later : List Exchange} {stage : Stage} {moment : Nat}
  (told : ToldFrom moment transcript)

include told

/-- Rows are told behind a check that comes before the moment. -/
theorem Polls.update_unheeded (h : execution.Polls logGroups first transcript stage)
    {result : Aggregate} {changed : Bool}
    (split : transcript = before ++ ⟨.report (.results result changed), ()⟩ :: later) :
    ∃ earlier asked answers,
    before = earlier ++ [⟨.results asked, answers⟩, ⟨.cancelled, false⟩] ∧
      earlier.length + 1 < moment := by
  obtain ⟨earlier, polling, answers, -, rfl, -⟩ := h.tells split
  refine ⟨earlier, polling.unsettled, answers, rfl, ?_⟩
  have check : transcript = (earlier ++ [⟨.results polling.unsettled, answers⟩]) ++
      ⟨.cancelled, false⟩ :: ⟨.report (.results result changed), ()⟩ :: later := by
    simp [split]
  simpa using (told.iff check).not.mp Bool.false_ne_true

/-- A round but the first begins behind a check that comes before the moment. -/
theorem Polls.round_unheeded (h : execution.Polls logGroups first transcript stage)
    {asked : List StartedQuery} {answers : Fin asked.length → Except CallFailure ResultsPage}
    (split : transcript = before ++ ⟨.results asked, answers⟩ :: later) :
    before = [] ∨ before.length < moment ∨
      before.length = moment ∧ before.getLast? = some ⟨.cancelled, false⟩ := by
  obtain ⟨rest, more, polling, reached, rfl, polls, -⟩ := h.asks split
  refine polls.before_round.imp_right fun last => ?_
  obtain ⟨earlier, rfl⟩ := List.getLast?_eq_some_iff.mp last
  have check : transcript =
      earlier ++ ⟨.cancelled, false⟩ :: ⟨.results asked, answers⟩ :: (rest ++ more) := by
    simp [split]
  have unheeded := (told.iff check).not.mp Bool.false_ne_true
  rcases Nat.lt_or_eq_of_le (Nat.lt_of_not_le unheeded) with earlier' | now
  · exact .inl (by simpa using earlier')
  · exact .inr ⟨by simpa using now, last⟩

theorem Polls.length_le
    (h : execution.Polls logGroups first transcript (.polling logGroups polling)) :
    transcript.length ≤ moment := by
  rcases h.before_round with rfl | last
  · exact Nat.zero_le _
  · obtain ⟨earlier, split⟩ := List.getLast?_eq_some_iff.mp last
    have unheeded := (told.iff split).not.mp Bool.false_ne_true
    rw [split, List.length_append, List.length_singleton]
    omega

/-- A query that has ended without an error leaves the latest rows of all regions. -/
theorem Stands.leaves {columns : Columns} {seed? : Option (List String)}
    {queries : List StartedQuery} {report : Report}
    (h : Stands logGroups columns seed? queries transcript (.ended (.ok report))) :
    report.result = .ofSnapshots
      ((Heard.after (queries.map .nothing) transcript).map (Heard.snapshot columns)) ∧
    (report.ending = .canceled → moment < transcript.length) ∧
    (report.ending = .completed →
      ∀ region ∈ Heard.after (queries.map .nothing) transcript, region.ended) := by
  cases h with
  | completed polling tracks settled =>
      refine ⟨tracks.aggregate, nofun, fun _ => ?_⟩
      exact (settled_iff columns tracks.orderly tracks.regions).mp settled
  | canceled polling tracks last =>
      refine ⟨tracks.aggregate, fun _ => ?_, nofun⟩
      obtain ⟨before, split⟩ := List.getLast?_eq_some_iff.mp last
      have heeded := (told.iff split).mp rfl
      rw [split, List.length_append, List.length_singleton]
      omega

omit told in
theorem Stands.fails_last {columns : Columns} {seed? : Option (List String)}
    {queries : List StartedQuery} {e : QueryError}
    (h : Stands logGroups columns seed? queries transcript (.ended (.error e))) :
    ∃ before asked answers i failure,
      transcript = before ++ [⟨.results asked, answers⟩] ∧ answers i = .error failure := by
  cases h with
  | failed before asked answers i failure last fails =>
      exact ⟨before, asked, answers, i, failure, last, fails⟩

end

variable {σ : Type} (execution : Execution) (service : Service σ)
    (logGroups : List RegionLogGroups)
  (columns : Columns) (seed? : Option (List String)) (queries : List StartedQuery)

/-- Once a query is told to stop, no further round begins but for one whose check has just been
made, and no rows are told. It leaves the latest rows of all regions. -/
theorem stops_once_told (state : σ) (turns moment : Nat)
    (told : ToldFrom moment
      (execution.polled service logGroups columns seed? queries state turns).transcript) :
    let standing := execution.polled service logGroups columns seed? queries state turns
    let first := Stage.polling logGroups (.start columns seed? queries)
    (0 < turns → ∃ answers later, standing.transcript = ⟨.results queries, answers⟩ :: later) ∧
    (∀ before result changed later,
      standing.transcript = before ++ ⟨.report (.results result changed), ()⟩ :: later →
        ∃ earlier asked answers,
        before = earlier ++ [⟨.results asked, answers⟩, ⟨.cancelled, false⟩] ∧
          earlier.length + 1 < moment) ∧
    (∀ before asked answers later,
      standing.transcript = before ++ ⟨.results asked, answers⟩ :: later →
        before = [] ∨ before.length < moment ∨
          before.length = moment ∧ before.getLast? = some ⟨.cancelled, false⟩) ∧
    (moment < turns → (execution.runFrom service turns first state).isSome) ∧
    ∀ outcome final, execution.runFrom service turns first state = some (outcome, final) →
      match outcome with
      | .error _ => ∃ before asked answers i failure,
        standing.transcript = before ++ [⟨.results asked, answers⟩] ∧ answers i = .error failure
      | .ok report =>
        report.result = .ofSnapshots ((heard queries standing).map (Heard.snapshot columns)) ∧
        (report.ending = .canceled → moment < standing.transcript.length) ∧
        (report.ending = .completed → ∀ region ∈ heard queries standing, region.ended) := by
  intro standing first
  have polls : execution.Polls logGroups (.start columns seed? queries) standing.transcript
      standing.stage := execution.polled_polls service columns seed? queries state turns
  have hrun : execution.runFrom service turns first state =
      standing.stage.outcome?.map fun outcome => (outcome, standing.state) :=
    execution.runFrom_eq_after service turns ⟨first, state, []⟩
  refine ⟨execution.polled_begins service logGroups columns seed? queries state,
    fun before result changed later => polls.update_unheeded told,
    fun before asked answers later => polls.round_unheeded told, ?_, ?_⟩
  · intro late
    rw [hrun]
    rcases polls.rests with ⟨outcome, ended⟩ | ⟨polling, ongoing⟩
    · simp [ended, Stage.outcome?]
    · -- Every turn makes a call, and none is left to a query that goes on behind the moment.
      have long : turns ≤ standing.transcript.length :=
        execution.turns_le_length service logGroups columns seed? queries state turns
          ⟨polling, ongoing⟩
      rw [ongoing] at polls
      have short : standing.transcript.length ≤ moment := polls.length_le told
      omega
  · intro outcome final run
    have ended : standing.stage = .ended outcome :=
      execution.ended_of_runFrom service turns ⟨first, state, []⟩ run
    have stands := polls.stands
    rw [ended] at stands
    cases outcome with
    | error e => exact stands.fails_last
    | ok report => exact stands.leaves told

/-- Where the query has a row to show and is not over, and is told to stop while the row is
shown. The state counts the calls. -/
def toldAtFirstRow : Service Nat where
  answer calls
    | .results _ =>
      (fun _ => .ok {
        status := .running
        rows := [[⟨"@message", "a"⟩]]
        valueRows := []
        statistics? := none }, calls + 1)
    | .cancelled => (decide (3 ≤ calls), calls + 1)
    | c => (Unreachable.answer (m := Id) (fun _ => .ok ()) (fun _ => ()) c, calls + 1)

theorem stops_once_told_at_first_row :
    let queries : List StartedQuery := [⟨⟨"p", "a"⟩, "1"⟩, ⟨⟨"p", "b"⟩, "2"⟩]
    let query : Query := ⟨"", "p", ["a", "b"], "g", ⟨0, 0⟩, none, "", none, none⟩
    let first := Stage.polling [] (.start (.ofQuery "") none queries)
    ToldFrom 3 (polled ⟨query, 0⟩ toldAtFirstRow [] (.ofQuery "") none queries 0 4).transcript ∧
      (runFrom ⟨query, 0⟩ toldAtFirstRow 4 first 0).isSome := by
  intro queries query first
  have told : ToldFrom 3
      (polled ⟨query, 0⟩ toldAtFirstRow [] (.ofQuery "") none queries 0 4).transcript := by
    decide +kernel
  exact ⟨told, (stops_once_told ⟨query, 0⟩ toldAtFirstRow [] (.ofQuery "") none queries 0 4 3
    told).2.2.2.1 (by decide)⟩

end Execution

end LogQuery
