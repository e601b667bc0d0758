import LogQuery.Proofs.Execution.Rounds

/-!
Rounds of results, whatever the service answers and whenever it is told to stop: what a single
round may do, and what is known of the query after some of them.
-/

namespace LogQuery

def Exchange.update? : Exchange → Option (Aggregate × Bool)
  | ⟨.report (.results result changed), _⟩ => some (result, changed)
  | _ => none

/-- The field names for which a view has built its columns, if it does so only when it is told
that they have changed. -/
def rebuilt (seed? : Option (List String)) (transcript : List Exchange) : Option (List String) :=
  transcript.foldl (fun names? exchange =>
    match exchange.update? with
    | some (result, true) => some result.fieldNames
    | _ => names?) seed?

theorem rebuilt_append (seed? : Option (List String)) (earlier later : List Exchange) :
    rebuilt seed? (earlier ++ later) = rebuilt (rebuilt seed? earlier) later :=
  List.foldl_append

namespace Polling

/-- What a query tells of its rows. -/
def told (polling : Polling) : List Exchange :=
  if polling.hasRows then
    [⟨.report (.results polling.aggregate polling.fieldsChanged), ()⟩]
  else []

def showing (polling : Polling) : Polling :=
  if polling.hasRows then polling.afterShowing else polling

theorem told_silent {polling : Polling} :
    ∀ exchange ∈ polling.told, ¬exchange.isRound := by
  unfold told
  split
  · simp [Exchange.isRound]
  · simp

end Polling

namespace Execution

variable {σ : Type} (execution : Execution) (service : Service σ)

/-- What may come of the end of a round. -/
inductive Waits (logGroups : List RegionLogGroups) (polling : Polling) :
    List Exchange → Stage → Prop
  | settled (settled : polling.settled) :
      Waits logGroups polling [] (.ended (.ok (report logGroups polling .completed)))
  | stopped (ongoing : ¬polling.settled) :
      Waits logGroups polling [⟨.pause execution.interval, ()⟩, ⟨.cancelled, true⟩]
        (.ended (.ok (report logGroups polling .canceled)))
  | carriesOn (ongoing : ¬polling.settled) :
      Waits logGroups polling [⟨.pause execution.interval, ()⟩, ⟨.cancelled, false⟩]
        (.polling logGroups polling)

/-- What may come of a round: all its calls, and where it stops. -/
inductive Round (logGroups : List RegionLogGroups) (polling : Polling) :
    List Exchange → Stage → Prop
  | failed (answers : Fin polling.unsettled.length → Except CallFailure ResultsPage)
      (e : QueryError) (received : polling.receive (List.ofFn answers) = .error e) :
      Round logGroups polling [⟨.results polling.unsettled, answers⟩] (.ended (.error e))
  | stopped (answers : Fin polling.unsettled.length → Except CallFailure ResultsPage)
      (later : Polling) (received : polling.receive (List.ofFn answers) = .ok later) :
      Round logGroups polling [⟨.results polling.unsettled, answers⟩, ⟨.cancelled, true⟩]
        (.ended (.ok (report logGroups later .canceled)))
  | shown (answers : Fin polling.unsettled.length → Except CallFailure ResultsPage)
      (later : Polling) (received : polling.receive (List.ofFn answers) = .ok later)
      (exchanges : List Exchange) (stage : Stage)
      (waits : execution.Waits logGroups later.showing exchanges stage) :
      Round logGroups polling
        (⟨.results polling.unsettled, answers⟩ :: ⟨.cancelled, false⟩ ::
          (later.told ++ exchanges)) stage

theorem showRows_told (polling : Polling) (state : σ) :
    (showRows polling).exchanges service state = polling.told ∧
      ((showRows polling).run service state).1 = polling.showing := by
  unfold showRows Polling.told Polling.showing
  split
  · exact ⟨rfl, rfl⟩
  · exact ⟨rfl, rfl⟩

theorem wait_waits (logGroups : List RegionLogGroups) (polling : Polling) (state : σ) :
    execution.Waits logGroups polling ((execution.wait logGroups polling).exchanges service state)
      ((execution.wait logGroups polling).run service state).1 := by
  by_cases settled : polling.settled
  · rw [wait, if_pos settled]
    exact .settled settled
  · have tree : execution.wait logGroups polling =
        .call (.pause execution.interval) fun _ => .call .cancelled fun told =>
          if told then .done (.ended (.ok (report logGroups polling .canceled)))
          else .done (.polling logGroups polling) := by
      rw [wait, if_neg settled]
      rfl
    rw [tree]
    simp only [Task.exchanges_call, Task.run_call]
    generalize service.answer
      (service.answer state (.pause execution.interval)).2 .cancelled = reply
    obtain ⟨told, state⟩ := reply
    cases told with
    | true => exact .stopped settled
    | false => exact .carriesOn settled

theorem round_rounds (logGroups : List RegionLogGroups) (polling : Polling) (state : σ) :
    execution.Round logGroups polling
      ((execution.round logGroups polling).exchanges service state)
      ((execution.round logGroups polling).run service state).1 := by
  have tree (later : Polling) : execution.showAndWait logGroups later =
      .call .cancelled fun told =>
        if told then .done (.ended (.ok (report logGroups later .canceled)))
        else showRows later >>= execution.wait logGroups := rfl
  rw [round_eq, Task.exchanges_call, Task.run_call]
  generalize service.answer state (.results polling.unsettled) = reply
  obtain ⟨answers, state⟩ := reply
  dsimp only
  cases received : polling.receive (List.ofFn answers) with
  | error e => exact .failed answers e received
  | ok later =>
      simp only [tree, Task.exchanges_call, Task.run_call]
      generalize service.answer state .cancelled = reply
      obtain ⟨told, state⟩ := reply
      cases told with
      | true => exact .stopped answers later received
      | false =>
          obtain ⟨shows, shown⟩ := showRows_told service later state
          simp only [Bool.false_eq_true, if_false, Task.exchanges_bind,
            Task.run_bind_eq, shows, shown]
          exact .shown answers later received _ _ (execution.wait_waits service logGroups _ _)

/-- All calls of a query that is asked for results, round after round, and where it has
stopped. -/
inductive Polls (logGroups : List RegionLogGroups) (first : Polling) :
    List Exchange → Stage → Prop
  | start : Polls logGroups first [] (.polling logGroups first)
  | round (transcript exchanges : List Exchange) (polling : Polling) (stage : Stage)
      (polls : Polls logGroups first transcript (.polling logGroups polling))
      (round : execution.Round logGroups polling exchanges stage) :
      Polls logGroups first (transcript ++ exchanges) stage

variable {execution} {logGroups : List RegionLogGroups} {first polling : Polling}
  {transcript : List Exchange} {stage : Stage}

theorem Round.rests {exchanges : List Exchange}
    (h : execution.Round logGroups polling exchanges stage) :
    (∃ outcome, stage = .ended outcome) ∨ ∃ next, stage = .polling logGroups next := by
  cases h with
  | failed answers e received => exact .inl ⟨_, rfl⟩
  | stopped answers later received => exact .inl ⟨_, rfl⟩
  | shown answers later received exchanges stage waits =>
      cases waits with
      | settled => exact .inl ⟨_, rfl⟩
      | stopped => exact .inl ⟨_, rfl⟩
      | carriesOn => exact .inr ⟨_, rfl⟩

theorem Polls.rests (h : execution.Polls logGroups first transcript stage) :
    (∃ outcome, stage = .ended outcome) ∨ ∃ next, stage = .polling logGroups next := by
  cases h with
  | start => exact .inr ⟨first, rfl⟩
  | round transcript exchanges polling stage polls round => exact round.rests

theorem Polls.turn (h : execution.Polls logGroups first transcript stage) (state : σ) :
    execution.Polls logGroups first
      (transcript ++ (execution.turn stage).exchanges service state)
      ((execution.turn stage).run service state).1 := by
  rcases h.rests with ⟨outcome, rfl⟩ | ⟨next, rfl⟩
  · have silent : (execution.turn (.ended outcome)).exchanges service state = [] := rfl
    rw [silent, List.append_nil]
    exact h
  · exact .round _ _ next _ h (execution.round_rounds service logGroups next state)

variable (execution)

theorem polled_polls (columns : Columns) (seed? : Option (List String))
    (queries : List StartedQuery) (state : σ) (turns : Nat) :
    let standing := execution.polled service logGroups columns seed? queries state turns
    execution.Polls logGroups (.start columns seed? queries) standing.transcript standing.stage :=
  execution.after_induction service
    (p := fun standing => execution.Polls logGroups (.start columns seed? queries)
      standing.transcript standing.stage)
    .start (fun standing h => h.turn service standing.state) turns

variable {execution} {exchanges before later : List Exchange}

theorem Polls.within (h : execution.Polls logGroups first transcript stage) {exchange : Exchange}
    (split : transcript = before ++ exchange :: later) :
    ∃ (start earlier rest more : List Exchange) (polling : Polling) (reached : Stage),
      before = start ++ earlier ∧ later = rest ++ more ∧
      execution.Polls logGroups first start (.polling logGroups polling) ∧
      execution.Round logGroups polling (earlier ++ exchange :: rest) reached ∧
      (more = [] ∧ reached = stage ∨ ∃ next, reached = .polling logGroups next) := by
  induction h generalizing later with
  | start => simp at split
  | round transcript exchanges polling stage polls round ih =>
      rcases append_eq_append_cons split with ⟨more, hbefore⟩ | ⟨earlier, rfl, rfl⟩
      · rw [hbefore, List.append_assoc, List.append_cancel_left_eq, List.cons_append] at split
        obtain ⟨-, rfl⟩ := List.cons.inj split
        obtain ⟨start, earlier, rest, more', polling', reached, rfl, rfl, polls', round', next⟩ :=
          ih hbefore
        refine ⟨start, earlier, rest, more' ++ exchanges, polling', reached, rfl,
          List.append_assoc .., polls', round', .inr ?_⟩
        rcases next with ⟨-, reached⟩ | next
        · exact ⟨polling, reached⟩
        · exact next
      · exact ⟨transcript, earlier, later, [], polling, stage, rfl, (List.append_nil _).symm,
          polls, round, .inl ⟨rfl, rfl⟩⟩

theorem Waits.silent (h : execution.Waits logGroups polling exchanges stage) :
    ∀ exchange ∈ exchanges, ¬exchange.isRound ∧ exchange.update? = none := by
  cases h with
  | settled => simp
  | stopped => simp [Exchange.isRound, Exchange.update?]
  | carriesOn => simp [Exchange.isRound, Exchange.update?]

theorem Round.asks_once (h : execution.Round logGroups polling exchanges stage) :
    ∃ answers rest, exchanges = ⟨.results polling.unsettled, answers⟩ :: rest ∧
      ∀ exchange ∈ rest, ¬exchange.isRound := by
  cases h with
  | failed answers e received => exact ⟨answers, [], rfl, by simp⟩
  | stopped answers later received => exact ⟨answers, _, rfl, by simp [Exchange.isRound]⟩
  | shown answers later received exchanges stage waits =>
      refine ⟨answers, _, rfl, List.forall_mem_cons.mpr ⟨by simp [Exchange.isRound], ?_⟩⟩
      rw [List.forall_mem_append]
      exact ⟨Polling.told_silent, fun exchange hmem => (waits.silent exchange hmem).1⟩

theorem Polls.asks (h : execution.Polls logGroups first transcript stage)
    {asked : List StartedQuery} {answers : Fin asked.length → Except CallFailure ResultsPage}
    (split : transcript = before ++ ⟨.results asked, answers⟩ :: later) :
    ∃ (rest more : List Exchange) (polling : Polling) (reached : Stage),
      later = rest ++ more ∧ execution.Polls logGroups first before (.polling logGroups polling) ∧
      execution.Round logGroups polling (⟨.results asked, answers⟩ :: rest) reached ∧
      (more = [] ∧ reached = stage ∨ ∃ next, reached = .polling logGroups next) := by
  obtain ⟨start, earlier, rest, more, polling, reached, rfl, rfl, polls, round,
    next⟩ := h.within split
  obtain ⟨answers', others, all, silent⟩ := round.asks_once
  cases earlier with
  | nil =>
      rw [List.append_nil]
      exact ⟨rest, more, polling, reached, rfl, polls, round, next⟩
  | cons first earlier =>
      obtain ⟨-, rfl⟩ := List.cons.inj all
      exact absurd rfl (silent ⟨.results asked, answers⟩ (by simp))

/-- Every round but the first comes right behind a check that has not found the query told to
stop. -/
theorem Polls.before_round
    (h : execution.Polls logGroups first transcript (.polling logGroups polling)) :
    transcript = [] ∨ transcript.getLast? = some ⟨.cancelled, false⟩ := by
  generalize reached : Stage.polling logGroups polling = stage at h
  cases h with
  | start => exact .inl rfl
  | round transcript exchanges polling' stage polls round =>
      right
      cases round with
      | failed => cases reached
      | stopped => cases reached
      | shown answers later received rest stage waits =>
          cases waits with
          | settled => cases reached
          | stopped => cases reached
          | carriesOn =>
              rw [← List.cons_append, ← List.cons_append, ← List.append_assoc,
                List.getLast?_append]
              rfl

/-- What is told of the rows is told behind the check that follows the answers. -/
theorem Round.tells (h : execution.Round logGroups polling exchanges stage) {result : Aggregate}
    {changed : Bool}
    (split : exchanges = before ++ ⟨.report (.results result changed), ()⟩ :: later) :
    ∃ answers received, before = [⟨.results polling.unsettled, answers⟩, ⟨.cancelled, false⟩] ∧
      polling.receive (List.ofFn answers) = .ok received ∧ received.hasRows ∧
      result = received.aggregate ∧ changed = received.fieldsChanged := by
  have among : ⟨.report (.results result changed), ()⟩ ∈ exchanges := by simp [split]
  cases h with
  | failed => simp at among
  | stopped => simp at among
  | shown answers received hreceived exchanges stage waits =>
      rcases before with _ | ⟨asks, _ | ⟨check, before⟩⟩
      · cases split
      · cases split
      · rw [List.cons_append, List.cons_append, List.cons.injEq, List.cons.injEq] at split
        obtain ⟨rfl, rfl, rest⟩ := split
        rcases append_eq_append_cons rest with ⟨more, told⟩ | ⟨more, rfl, silent⟩
        · unfold Polling.told at told
          split at told
          · rename_i rows
            rcases List.singleton_eq_append_iff.mp told with ⟨rfl, same⟩ | ⟨_, none⟩
            · cases same
              exact ⟨answers, received, rfl, hreceived, rows, rfl, rfl⟩
            · cases none
          · simp at told
        · have quiet :=
            (waits.silent ⟨.report (.results result changed), ()⟩ (by simp [silent])).2
          cases quiet

theorem Polls.tells (h : execution.Polls logGroups first transcript stage) {result : Aggregate}
    {changed : Bool}
    (split : transcript = before ++ ⟨.report (.results result changed), ()⟩ :: later) :
    ∃ earlier polling answers received,
      before = earlier ++ [⟨.results polling.unsettled, answers⟩, ⟨.cancelled, false⟩] ∧
      execution.Polls logGroups first earlier (.polling logGroups polling) ∧
      polling.receive (List.ofFn answers) = .ok received ∧ received.hasRows ∧
      result = received.aggregate ∧ changed = received.fieldsChanged := by
  obtain ⟨start, earlier, rest, more, polling, reached, rfl, rfl, polls, round,
    next⟩ := h.within split
  obtain ⟨answers, received, rfl, told⟩ := round.tells rfl
  exact ⟨start, polling, answers, received, rfl, polls, told⟩

end Execution

theorem Heard.orderly_handOut {all : List Heard} (orderly : ∀ region ∈ all, region.Orderly)
    (pages : List ResultsPage) : ∀ region ∈ handOut all pages, region.Orderly := by
  fun_induction handOut all pages with
  | case1 => exact orderly
  | case3 => exact orderly
  | case2 region others pages ended ih =>
      obtain ⟨first, orderly⟩ := List.forall_mem_cons.mp orderly
      exact List.forall_mem_cons.mpr ⟨first, ih orderly⟩
  | case4 region others ended page pages ih =>
      obtain ⟨first, orderly⟩ := List.forall_mem_cons.mp orderly
      exact List.forall_mem_cons.mpr
        ⟨orderly_hear page ((Bool.not_eq_true _).mp ended), ih orderly⟩

namespace Execution

/-- What is known of a query after some calls: the pages that have been heard, and the field
names that were told. -/
structure Tracks (columns : Columns) (seed? : Option (List String)) (queries : List StartedQuery)
    (transcript : List Exchange) (polling : Polling) : Prop where
  declared : polling.columns = columns
  regions : polling.regions =
    (Heard.after (queries.map .nothing) transcript).map (Heard.poll columns)
  orderly : ∀ region ∈ Heard.after (queries.map .nothing) transcript, region.Orderly
  shown : polling.shown? = rebuilt seed? transcript

namespace Tracks

variable {columns : Columns} {seed? : Option (List String)} {queries : List StartedQuery}
  {transcript : List Exchange} {polling later : Polling}

theorem start (columns : Columns) (seed? : Option (List String)) (queries : List StartedQuery) :
    Tracks columns seed? queries [] (.start columns seed? queries) where
  declared := rfl
  regions := Heard.start_regions seed? queries
  orderly := fun region hmem => (Heard.rounded_nothing queries region hmem).orderly
  shown := rfl

theorem unsettled (h : Tracks columns seed? queries transcript polling) :
    polling.unsettled = Heard.unfinished (Heard.after (queries.map .nothing) transcript) := by
  rw [Polling.unsettled, h.regions]
  exact Heard.unsettled_poll h.orderly

theorem aggregate (h : Tracks columns seed? queries transcript polling) :
    polling.aggregate =
      .ofSnapshots
        ((Heard.after (queries.map .nothing) transcript).map (Heard.snapshot columns)) := by
  rw [Polling.aggregate, h.regions, List.map_map]
  rfl

theorem hasRows (h : Tracks columns seed? queries transcript polling) :
    polling.hasRows ↔
      ∃ region ∈ Heard.after (queries.map .nothing) transcript, region.rows columns ≠ [] := by
  simp [Polling.hasRows, h.regions, Heard.poll]

theorem append (h : Tracks columns seed? queries transcript polling) {exchanges : List Exchange}
    (silent : ∀ exchange ∈ exchanges, ¬exchange.isRound) {shown? : Option (List String)}
    (shown : shown? = rebuilt (rebuilt seed? transcript) exchanges) :
    Tracks columns seed? queries (transcript ++ exchanges) { polling with shown? } where
  declared := h.declared
  regions := by
    rw [Heard.after_append, (Heard.after_of_not_isRound silent _).1]
    exact h.regions
  orderly := by
    rw [Heard.after_append, (Heard.after_of_not_isRound silent _).1]
    exact h.orderly
  shown := by
    rw [rebuilt_append]
    exact shown

theorem quiet (h : Tracks columns seed? queries transcript polling) {exchanges : List Exchange}
    (silent : ∀ exchange ∈ exchanges, ¬exchange.isRound)
    (untold : rebuilt (rebuilt seed? transcript) exchanges = rebuilt seed? transcript) :
    Tracks columns seed? queries (transcript ++ exchanges) polling :=
  h.append silent (h.shown.trans untold.symm)

theorem told (h : Tracks columns seed? queries transcript polling) :
    Tracks columns seed? queries (transcript ++ polling.told) polling.showing := by
  unfold Polling.told Polling.showing Polling.afterShowing
  split
  · cases changed : polling.fieldsChanged with
    | true => exact h.append (by simp [Exchange.isRound]) rfl
    | false => exact h.quiet (by simp [Exchange.isRound]) rfl
  · exact h.quiet (by simp) rfl

theorem receive (h : Tracks columns seed? queries transcript polling)
    {answers : Fin polling.unsettled.length → Except CallFailure ResultsPage}
    (received : polling.receive (List.ofFn answers) = .ok later) :
    Tracks columns seed? queries
    (transcript ++ [⟨.results polling.unsettled, answers⟩]) later := by
  have pages := eq_map_ok (Polling.isOk_of_receive_ok received)
  obtain ⟨regions, hregions, next⟩ := bind_eq_ok received
  cases next
  rw [pages, h.regions, h.declared, Heard.receiveAll_poll h.orderly] at hregions
  cases hregions
  constructor
  · exact h.declared
  · rw [Heard.after_append]
    rfl
  · rw [Heard.after_append]
    exact Heard.orderly_handOut h.orderly _
  · rw [rebuilt_append]
    exact h.shown

theorem checked (h : Tracks columns seed? queries transcript polling)
    {answers : Fin polling.unsettled.length → Except CallFailure ResultsPage}
    (received : polling.receive (List.ofFn answers) = .ok later) (told : Bool) :
    Tracks columns seed? queries
      (transcript ++ [⟨.results polling.unsettled, answers⟩, ⟨.cancelled, told⟩]) later := by
  have heard : Tracks columns seed? queries
      (transcript ++ [⟨.results polling.unsettled, answers⟩] ++ [⟨.cancelled, told⟩]) later :=
    (h.receive received).quiet (by simp [Exchange.isRound]) rfl
  rwa [List.append_assoc] at heard

end Tracks

/-- Where a query has stopped after some calls, and what is known of it there. -/
inductive Stands (logGroups : List RegionLogGroups) (columns : Columns)
    (seed? : Option (List String)) (queries : List StartedQuery) (transcript : List Exchange) :
    Stage → Prop
  | polling (polling : Polling) (tracks : Tracks columns seed? queries transcript polling) :
      Stands logGroups columns seed? queries transcript (.polling logGroups polling)
  | completed (polling : Polling) (tracks : Tracks columns seed? queries transcript polling)
      (settled : polling.settled) :
      Stands logGroups columns seed? queries transcript
        (.ended (.ok (report logGroups polling .completed)))
  | canceled (polling : Polling) (tracks : Tracks columns seed? queries transcript polling)
      (told : transcript.getLast? = some ⟨.cancelled, true⟩) :
      Stands logGroups columns seed? queries transcript
        (.ended (.ok (report logGroups polling .canceled)))
  | failed (before : List Exchange) (asked : List StartedQuery)
      (answers : Fin asked.length → Except CallFailure ResultsPage) (i : Fin asked.length)
      (failure : CallFailure) (last : transcript = before ++ [⟨.results asked, answers⟩])
      (fails : answers i = .error failure) (first : ∀ j < i, (answers j).isOk) :
      Stands logGroups columns seed? queries transcript
        (.ended (.error (.queryPoll (asked.get i).site.region (asked.get i).id failure.message)))

variable {execution : Execution} {logGroups : List RegionLogGroups} {columns : Columns}
  {seed? : Option (List String)} {queries : List StartedQuery}
    {transcript exchanges : List Exchange}
  {polling : Polling} {stage : Stage}

theorem Round.stands (tracks : Tracks columns seed? queries transcript polling)
    (h : execution.Round logGroups polling exchanges stage) :
    Stands logGroups columns seed? queries (transcript ++ exchanges) stage := by
  cases h with
  | failed answers e received =>
      obtain ⟨i, failure, fails, first, rfl⟩ := Polling.first_of_receive_error received
      exact .failed transcript _ answers i failure rfl fails first
  | stopped answers later received =>
    exact .canceled later (tracks.checked received true) (by simp)
  | shown answers later received rest stage waits =>
      have tracks' := (tracks.checked received false).told
      have split : transcript ++ ⟨.results polling.unsettled, answers⟩ ::
          ⟨.cancelled, false⟩ :: (later.told ++ rest) =
          transcript ++ [⟨.results polling.unsettled, answers⟩, ⟨.cancelled, false⟩] ++
            later.told ++ rest := by simp
      rw [split]
      cases waits with
      | settled settled =>
          rw [List.append_nil]
          exact .completed _ tracks' settled
      | stopped ongoing =>
          refine .canceled _ (tracks'.quiet (by simp [Exchange.isRound]) rfl) ?_
          rw [List.getLast?_append]
          rfl
      | carriesOn ongoing => exact .polling _ (tracks'.quiet (by simp [Exchange.isRound]) rfl)

theorem Stands.tracks
    (h : Stands logGroups columns seed? queries transcript (.polling logGroups polling)) :
    Tracks columns seed? queries transcript polling := by
  cases h with
  | polling polling tracks => exact tracks

theorem Polls.stands
    (h : execution.Polls logGroups (.start columns seed? queries) transcript stage) :
    Stands logGroups columns seed? queries transcript stage := by
  induction h with
  | start => exact .polling _ (.start columns seed? queries)
  | round transcript exchanges polling stage polls round ih => exact round.stands ih.tracks

end Execution

end LogQuery
