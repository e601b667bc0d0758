import LogQuery.Proofs.Execution.Stopping
import LogQuery.Proofs.Session.Conduct

namespace LogQuery

theorem exists_first_error {ε α : Type} {n : Nat} {answers : Fin n → Except ε α}
    (failing : ∃ i e, answers i = .error e) :
    ∃ i e, answers i = .error e ∧ ∀ j < i, (answers j).isOk := by
  obtain ⟨⟨i, bound⟩, e, fails⟩ := failing
  induction i using Nat.strongRecOn generalizing e with
  | ind i ih =>
      by_cases first : ∀ j < (⟨i, bound⟩ : Fin n), (answers j).isOk
      · exact ⟨⟨i, bound⟩, e, fails, first⟩
      · simp only [Classical.not_forall] at first
        obtain ⟨j, before, fails'⟩ := first
        cases answer : answers j with
        | ok value =>
            rw [answer] at fails'
            exact absurd rfl fails'
        | error e' => exact ih j before j.isLt e' answer

namespace Happening

/-- Whether an execution tells that it has run to its end, with so many rows. -/
def tellsEnd (count : Nat) : Happening → Bool
  | queued .execution (.finished .completed _ rowCount _) => rowCount == count
  | _ => false

theorem eq_finished_of_tellsEnd {count : Nat} {happening : Happening}
    (h : happening.tellsEnd count) :
    ∃ title statistics,
    happening = queued .execution (.finished .completed title count statistics) := by
  unfold tellsEnd at h
  split at h
  · cases beq_iff_eq.mp h
    exact ⟨_, _, rfl⟩
  · cases h

end Happening

namespace Session

variable {refusals : QueryError → Prop} {session final : Session}
    {past happenings : List Happening}

theorem attends_after (attends : session.Attends) (events : List Event) :
    (session.after events).Attends :=
  history_induction (fun _ session => session.Attends) events (fun h move =>
    move.attends h) attends
    attends

theorem eq_of_finished {earlier told behind : List Message} {last message : Message}
    (h : earlier ++ [last] = told ++ message :: behind)
    (unfinished : ∀ message ∈ earlier, ¬message.isFinished) (finished : message.isFinished) :
    told = earlier ∧ message = last := by
  rcases append_eq_append_cons h with ⟨more, rfl⟩ | ⟨more, rfl, rest⟩
  · exact absurd finished (unfinished message (by simp))
  · rcases List.singleton_eq_append_iff.mp rest with ⟨rfl, same⟩ | ⟨_, none⟩
    · exact ⟨List.append_nil _, (List.cons.inj same).1⟩
    · cases none

/-- An execution that has run to its end leaves its final rows. These were shown last exactly if
there are any, or if none were ever shown. -/
theorem finished_leaves_rows (opens : session.Opens) (events : List Event)
    (before later : List Happening) (title : String) (rowCount : Nat) (statistics : Statistics)
    (split : session.history events =
      before ++ .queued .execution (.finished .completed title rowCount statistics) :: later)
    (none : ∀ happening ∈ later, ¬happening.isAccepted) :
    ∃ result, (session.after events).latest? = some result ∧ rowCount = result.rowCount ∧
      ((lastRows? (spoken before)).getD ([], 0) = (result.rows, rowCount) ↔
        result.rows ≠ [] ∨ lastRows? (spoken before) = .none) := by
  have told : (session.after events).made (session.history events) = spoken before ++
      .finished .completed title rowCount statistics ::
        (later.filterMap Happening.told? ++ (session.after events).unsent?.toList) := by
    rw [made, split, spoken_append]
    · simp [Happening.told?]
    · exact List.forall_mem_cons.mpr ⟨Bool.false_ne_true, none⟩
  have conduct := conduct_after opens events
  cases conduct with
  | idle task unfinished =>
      exact absurd rfl (unfinished (.finished .completed title rowCount statistics)
        (by simp [told]))
  | working task current working =>
      exact absurd rfl (working.unfinished (.finished .completed title rowCount statistics)
        (by simp [told]))
  | finished task earlier ending title' statistics' result made unfinished latest
    substantial final =>
      obtain ⟨rfl, same⟩ := eq_of_finished (made.symm.trans told) unfinished rfl
      cases same
      refine ⟨result, latest, rfl, ?_, ?_⟩
      · intro same
        cases shown : lastRows? (spoken before) with
        | none => exact .inr rfl
        | some rows =>
            left
            rw [shown] at same
            have same : rows = (result.rows, result.rowCount) := same
            have some := substantial rows shown
            rwa [same] at some
      · rintro (some | none)
        · rw [(final rfl).resolve_left some]
          rfl
        · have empty : result.rows = [] := (final rfl).resolve_right (by simp [none])
          simp [none, empty, Aggregate.rowCount]

theorem emptying_finishes : ∃ title statistics later,
    (Session.new 0).history (emptying ++ [.delivered]) = (Session.new 0).history emptying ++
      .queued .execution (.finished .completed title 0 statistics) :: later ∧
    (∀ happening ∈ later, ¬happening.isAccepted) := by
  have told : (((Session.new 0).after emptying).history [.delivered]).head?.any
      (Happening.tellsEnd 0) = true := by decide +kernel
  have none : ∀ happening ∈ ((Session.new 0).after emptying).history [.delivered],
      ¬happening.isAccepted := by decide +kernel
  have split := history_append (.new 0) emptying [.delivered]
  generalize ((Session.new 0).after emptying).history [.delivered] = rest at told none split
  obtain ⟨happening, first, tells⟩ := (Option.any_eq_true _ _).mp told
  obtain ⟨title, statistics, rfl⟩ := Happening.eq_finished_of_tellsEnd tells
  obtain ⟨later, rfl⟩ := List.head?_eq_some_iff.mp first
  exact ⟨title, statistics, later, split, (List.forall_mem_cons.mp none).2⟩

theorem lastRows?_emptying :
    lastRows? (spoken ((Session.new 0).history emptying)) = some ([[⟨"@message", "a"⟩]], 1) := by
  decide +kernel

theorem finished_leaves_rows_emptied :
    Session.Opens (.new 0) ∧ ∃ title statistics later result,
      (Session.new 0).history (emptying ++ [.delivered]) = (Session.new 0).history emptying ++
        .queued .execution (.finished .completed title 0 statistics) :: later ∧
      (∀ happening ∈ later, ¬happening.isAccepted) ∧
      ((Session.new 0).after (emptying ++ [.delivered])).latest? = some result ∧
      0 = result.rowCount := by
  obtain ⟨title, statistics, later, split, none⟩ := emptying_finishes
  obtain ⟨result, latest, rowCount, -⟩ := finished_leaves_rows (.new 0) (emptying ++ [.delivered])
    ((Session.new 0).history emptying) later title 0 statistics split none
  exact ⟨.new 0, title, statistics, later, result, split, none, latest, rowCount⟩

/-- An execution that has run to its end may leave other rows than it has shown last. -/
theorem finished_leaves_other_rows :
    ∃ title statistics later result,
      (Session.new 0).history (emptying ++ [.delivered]) = (Session.new 0).history emptying ++
        .queued .execution (.finished .completed title 0 statistics) :: later ∧
      (∀ happening ∈ later, ¬happening.isAccepted) ∧
      ((Session.new 0).after (emptying ++ [.delivered])).latest? = some result ∧
      (lastRows? (spoken ((Session.new 0).history emptying))).getD ([], 0) ≠
        (result.rows, 0) := by
  have empty :
    (((Session.new 0).after (emptying ++ [.delivered])).latest?.map Aggregate.counted) =
      some ([], 0) := by decide +kernel
  obtain ⟨result, latest, counted⟩ := Option.map_eq_some_iff.mp empty
  obtain ⟨title, statistics, later, split, none⟩ := emptying_finishes
  have rows : result.rows = [] := (Prod.ext_iff.mp counted).1
  refine ⟨title, statistics, later, result, split, none, latest, ?_⟩
  simp [lastRows?_emptying, rows]

/-- How a session goes on from `start` once its execution is to end with an error, as long as no
other begins: it tells the error, and keeps all that it had. -/
structure Failing (e : QueryError) (start : Session) (past : List Happening) (session : Session) :
    Prop where
  latest : session.latest? = start.latest?
  query : session.query? = held start.query? past
  course : session.task? = some (.done (.ended (.error e))) ∧ session.made past = [] ∨
    session.task? = none ∧ session.made past = [.error e.message]

namespace Failing

variable {e : QueryError} {start : Session}

theorem advance (h : Failing e start past session) (advances : Advances session happenings final)
    (unaccepted : ∀ happening ∈ happenings, ¬happening.isAccepted) :
    Failing e start (past ++ happenings) final := by
  obtain ⟨latest, query, course⟩ := h
  cases advances with
  | begins block query => exact absurd rfl (unaccepted (.accepted block query) (by simp))
  | acts happenings final messages _ told act =>
      have now : final.made (past ++ happenings) = session.made past ++ messages :=
        made_append unaccepted told
      -- All that is left of the task is to tell its outcome; the moves that make a call do not
      -- fit.
      cases act with
      | rests task' latest' query' =>
          refine ⟨latest'.trans latest, by rw [query', query, held_append], ?_⟩
          rwa [task', now, List.append_nil]
      | concluded own outcome task ends latest' query' =>
          rcases course with ⟨pending, silent⟩ | ⟨none, -⟩
          · cases pending.symm.trans task
            refine ⟨latest'.trans latest, ?_, .inr ⟨ends, by rw [now, silent]; rfl⟩⟩
            rw [query', held_append, ← query]
            rfl
          · cases none.symm.trans task
      | answered c next answer task =>
          rcases course with ⟨pending, -⟩ | ⟨none, -⟩
          · cases pending.symm.trans task
          · cases none.symm.trans task
      | turned execution stage task ongoing =>
          rcases course with ⟨pending, -⟩ | ⟨none, -⟩
          · cases pending.symm.trans task
            exact absurd rfl (ongoing _)
          · cases none.symm.trans task
      | reported own progress next task =>
          rcases course with ⟨pending, -⟩ | ⟨none, -⟩
          · cases pending.symm.trans task
          · cases none.symm.trans task

end Failing

namespace Failing

variable {e : QueryError} {start : Session}

theorem after (h : Failing e start [] session) (attends : session.Attends) (events : List Event)
    (unaccepted : ∀ happening ∈ session.history events, ¬happening.isAccepted) :
    Failing e start (session.history events) (session.after events) := by
  refine history_induction (fun past final => (∀ happening ∈ past, ¬happening.isAccepted) →
    Failing e start past final) events ?_ attends (fun _ => h) unaccepted
  intro past happenings before final h move unaccepted
  obtain ⟨earlier, now⟩ := List.forall_mem_append.mp unaccepted
  exact (h earlier).advance move.advances now

variable (h : Failing e start past session)
    (unaccepted : ∀ happening ∈ past, ¬happening.isAccepted)

include h unaccepted

omit unaccepted in
theorem no_call (c : Call) (next : c.Answer → Task Stage) :
    session.task? ≠ some (.call c next) := by
  intro task
  rcases h.course with ⟨pending, -⟩ | ⟨none, -⟩
  · cases pending.symm.trans task
  · cases none.symm.trans task

theorem told :
    past.filterMap Happening.told? = if session.isRunning then [] else [.error e.message] := by
  have all : session.made past = past.filterMap Happening.told? ++ session.unsent?.toList := by
    rw [made, ← List.nil_append past, spoken_append unaccepted]
    rfl
  rw [isRunning_eq]
  rcases h.course with ⟨pending, silent⟩ | ⟨none, told⟩
  · rw [all, List.append_eq_nil_iff] at silent
    simp [pending, silent.1]
  · rw [all] at told
    cases unsent : session.unsent? with
    | none => simpa [none, unsent] using told
    | some message =>
        simp only [unsent, Option.toList_some] at told
        have alone := (List.append_eq_singleton_iff.mp told).resolve_right (by simp)
        simp [none, alone.1]

theorem shown {earlier : List Happening}
    (shown : lastRows? (spoken earlier) = start.latest?.map Aggregate.counted) :
    session.latest?.map Aggregate.counted = lastRows? (spoken (earlier ++ past)) := by
  rw [h.latest, spoken_append unaccepted, h.told unaccepted]
  split
  · rw [List.append_nil, shown]
  · rw [lastRows?_append_of_none rfl, shown]

theorem query_eq {earlier : List Happening} (query : start.query? = held none earlier)
    {accepted : Query} (begun : Begun earlier accepted) :
    ∃ before block behind, earlier ++ past = before ++ .accepted block accepted :: behind ∧
      (∀ happening ∈ behind, ¬happening.isAccepted) ∧
      session.query? = some (accepted.retitled behind) := by
  obtain ⟨before, block, behind, rfl, quiet⟩ := begun
  have none : ∀ happening ∈ behind ++ past, ¬happening.isAccepted :=
    List.forall_mem_append.mpr ⟨fun happening hmem => (quiet happening hmem).1, unaccepted⟩
  refine ⟨before, block, behind ++ past, by simp, none, ?_⟩
  rw [h.query, query, ← held_append, List.append_assoc]
  exact held_accepted _ before block accepted none

end Failing

theorem answered_goes {c : Call} {next : c.Answer → Task Stage}
    (task : session.task? = some (.call c next)) (silent : session.unsent? = none)
    (others : c.isOwn = false) (answers : (c : Call) → c.Answer) :
    let final := session.step (.answered answers)
    final.task? = some (next (answers c)) ∧ final.unsent? = none ∧
      final.latest? = session.latest? ∧
      final.query? = session.query? := by
  obtain ⟨running, current, htask⟩ := Option.bind_eq_some_iff.mp task
  have hsilent : running.unsent? = none := by simpa [unsent?, current] using silent
  have goes : session.step (.answered answers) = session.resume (next (answers c)) := by
    simp [step, current, hsilent, htask, others]
  rw [goes]
  simp [resume, current, task?, unsent?, hsilent]

theorem ends_after {outcome : Except QueryError Report}
    (task : session.task? = some (.done (.ended outcome))) (silent : session.unsent? = none) :
    (session.after [.proceeded, .delivered]).isRunning = false := by
  obtain ⟨running, current, htask⟩ := Option.bind_eq_some_iff.mp task
  have hsilent : running.unsent? = none := by simpa [unsent?, current] using silent
  simp [after, step, proceed, take, deliver, current, htask, hsilent, post,
    isRunning, Running.ended]

theorem answered_fails (conduct : Conduct past session) {asked : List StartedQuery}
    {next : (Fin asked.length → Except CallFailure ResultsPage) → Task Stage}
    (task : session.task? = some (.call (.results asked) next)) (silent : session.unsent? = none)
    {answers : (c : Call) → c.Answer}
    (failing : ∃ i failure, answers (.results asked) i = .error failure) :
    (∃ i failure, answers (.results asked) i = .error failure ∧
      (∀ j < i, (answers (.results asked) j).isOk) ∧
      Failing (.queryPoll (asked.get i).site.region (asked.get i).id failure.message) session []
        (session.step (.answered answers))) ∧
    (session.after [.answered answers, .proceeded, .delivered]).isRunning = false := by
  obtain ⟨i, failure, fails, first⟩ := exists_first_error failing
  have ended := ((conduct.at_work task).closes.2 (answers (.results asked))).1 _
    ⟨i, failure, fails, first, rfl⟩
  obtain ⟨goes, untold, latest, query⟩ := answered_goes task silent rfl answers
  rw [ended] at goes
  refine ⟨⟨i, failure, fails, first, latest, query, .inl ⟨goes, ?_⟩⟩, ends_after goes untold⟩
  simp [made, untold, spoken]

/-- The round of a call that fails is the last, and the error names the first region that has
failed. The session tells the error and keeps the rows that were shown last. -/
theorem failing_round_ends_execution {σ : Type} (service : Service σ) (execution : Execution)
    (logGroups : List RegionLogGroups) (columns : Columns) (seed? : Option (List String))
    (queries : List StartedQuery) (state : σ) (turns : Nat)
    (opens : session.Opens) (events later : List Event) :
    let standing := execution.polled service logGroups columns seed? queries state turns
    let reached := session.after events
    (∀ before asked answers behind,
      standing.transcript = before ++ ⟨.results asked, answers⟩ :: behind →
      (∃ i failure, answers i = .error failure) →
        behind = [] ∧ asked = Heard.unfinished (Heard.after (queries.map .nothing) before) ∧
        (∃ rounds < turns, before =
          (execution.polled service logGroups columns seed? queries state rounds).transcript) ∧
        standing.transcript.filterMap Exchange.update? = before.filterMap Exchange.update? ∧
        ∃ i failure, answers i = .error failure ∧ (∀ j < i, (answers j).isOk) ∧
          execution.runFrom service turns
            (.polling logGroups (.start columns seed? queries)) state =
            some (.error (.queryPoll (asked.get i).site.region (asked.get i).id failure.message),
              standing.state)) ∧
    ∀ asked next answers,
      reached.task? = some (.call (.results asked) next) → reached.unsent? = none →
      (∃ i failure, answers (.results asked) i = .error failure) →
      let since := reached.history (.answered answers :: later)
      let final := reached.after (.answered answers :: later)
      (∀ happening ∈ since, ¬happening.isAccepted) →
        (∃ i failure, answers (.results asked) i = .error failure ∧
          (∀ j < i, (answers (.results asked) j).isOk) ∧
          since.filterMap Happening.told? = if final.isRunning then [] else [.error
            (QueryError.queryPoll (asked.get i).site.region
              (asked.get i).id failure.message).message]) ∧
        (reached.after [.answered answers, .proceeded, .delivered]).isRunning = false ∧
        (∀ c next, final.task? ≠ some (.call c next)) ∧
        final.latest? = reached.latest? ∧
        final.latest?.map Aggregate.counted =
          lastRows? (spoken (session.history events ++ since)) ∧
        ∃ before block query behind,
          session.history events ++ since = before ++ .accepted block query :: behind ∧
          (∀ happening ∈ behind, ¬happening.isAccepted) ∧
          final.query? = some (query.retitled behind) := by
  intro standing reached
  constructor
  · intro before asked answers behind split failing
    have polls : execution.Polls logGroups (.start columns seed? queries) standing.transcript
        standing.stage := execution.polled_polls service columns seed? queries state turns
    have hrun : execution.runFrom service turns
      (.polling logGroups (.start columns seed? queries)) state =
        standing.stage.outcome?.map fun outcome => (outcome, standing.state) :=
      execution.runFrom_eq_after service turns ⟨_, state, []⟩
    obtain ⟨rfl, ⟨polling, earlier, rfl⟩, i, failure, fails, first, ended⟩ :=
      polls.fails split failing
    refine ⟨rfl, earlier.stands.tracks.unsettled,
      execution.polled_split service logGroups columns seed? queries state turns split, ?_, i,
      failure, fails, first, ?_⟩
    · rw [split, List.filterMap_append]
      exact List.append_nil _
    · rw [hrun, ended]
      rfl
  · intro asked next answers task silent failing since final unaccepted
    have conduct : Conduct (session.history events) reached := conduct_after opens events
    obtain ⟨⟨i, failure, fails, first, failed⟩, ends⟩ :=
      answered_fails conduct task silent failing
    have attends : (reached.step (.answered answers)).Attends := by
      have attends := attends_after opens.attends (events ++ [.answered answers])
      rwa [after_append] at attends
    have failed : Failing _ reached since final := failed.after attends later unaccepted
    have working := conduct.at_work task
    have shown := working.shown
    rw [made, silent, Option.toList_none, List.append_nil] at shown
    obtain ⟨running, current, htask⟩ := Option.bind_eq_some_iff.mp task
    have begun := (segmented_after opens events).begun current (running.live_of_task htask)
    obtain ⟨before, block, behind, split, none, hquery⟩ :=
      failed.query_eq unaccepted working.query begun
    exact ⟨⟨i, failure, fails, first, failed.told unaccepted⟩, ends, failed.no_call,
      failed.latest, failed.shown unaccepted shown, before, block, _, behind, split, none, hquery⟩

/-- Whether the execution asks so many regions for results. -/
def asks (session : Session) (count : Nat) : Bool :=
  match session.task? with
  | some (.call (.results asked) _) => asked.length == count
  | _ => false

theorem exists_of_asks {count : Nat} (h : session.asks count) :
    ∃ asked next, session.task? = some (.call (.results asked) next) ∧ asked.length = count := by
  unfold asks at h
  split at h
  · rename_i asked next task
    exact ⟨asked, next, task, beq_iff_eq.mp h⟩
  · cases h

theorem failing_round_ends_execution_unreachable :
    let service : Service Unit := ⟨fun state c => (welcome c, state)⟩
    let execution : Execution := ⟨⟨"", "p", ["r"], "g", ⟨0, 0⟩, none, "", none, none⟩, 0⟩
    let queries : List StartedQuery := [⟨⟨"p", "r"⟩, "1"⟩]
    let first := Stage.polling [] (.start (.ofQuery "") none queries)
    let reached := (Session.new 0).after (emptying.take 7)
    (∃ answers, (execution.polled service [] (.ofQuery "") none queries () 1).transcript =
        [] ++ ⟨.results queries, answers⟩ :: [] ∧ ∃ i failure, answers i = .error failure) ∧
      (execution.runFrom service 1 first ()).isSome ∧ Session.Opens (.new 0) ∧
      ∃ asked next, reached.task? = some (.call (.results asked) next) ∧ reached.unsent? = none ∧
        (∃ i failure, welcome (.results asked) i = .error failure) ∧
        (∀ happening ∈ reached.history [.answered welcome], ¬happening.isAccepted) ∧
        (reached.after [.answered welcome, .proceeded, .delivered]).isRunning = false := by
  intro service execution queries first reached
  have asks : reached.asks 1 = true := by decide +kernel
  obtain ⟨asked, next, task, one⟩ := exists_of_asks asks
  have silent : reached.unsent? = none := by
    have silent : reached.unsent?.isNone = true := by decide +kernel
    simpa using silent
  have failing : ∃ i failure, welcome (.results asked) i = .error failure :=
    ⟨⟨0, by omega⟩, _, rfl⟩
  have unaccepted : ∀ happening ∈ reached.history [.answered welcome], ¬happening.isAccepted := by
    simp [history, happenings]
  have transcript : (execution.polled service [] (.ofQuery "") none queries () 1).transcript =
      [] ++ ⟨.results queries, welcome (.results queries)⟩ :: [] := rfl
  have unreachable : ∃ i failure, welcome (.results queries) i = .error failure :=
    ⟨⟨0, Nat.one_pos⟩, _, rfl⟩
  obtain ⟨fails, ends⟩ :=
    failing_round_ends_execution service execution [] (.ofQuery "") none queries ()
    1 (.new 0) (emptying.take 7) []
  obtain ⟨-, -, -, -, i, failure, -, -, run⟩ := fails [] queries _ [] transcript unreachable
  exact ⟨⟨_, transcript, unreachable⟩,
    by rw [run]; rfl, .new 0, asked, next, task, silent, failing,
    unaccepted, (ends asked next welcome task silent failing unaccepted).2.1⟩

end Session

end LogQuery
