import LogQuery.Proofs.Execution.Course
import LogQuery.Proofs.Execution.Heard
import LogQuery.Proofs.Execution.Turns
import LogQuery.Service.Unreachable

namespace LogQuery

namespace Execution

variable {σ : Type} (execution : Execution) (service : Service σ)

theorem showRows_run (polling : Polling) (state : σ) :
    (∀ exchange ∈ (showRows polling).exchanges service state, ¬exchange.isRound) ∧
    ∃ shown?, ((showRows polling).run service state).1 = { polling with shown? } := by
  cases rows : polling.hasRows with
  | false =>
      rw [showRows, if_neg (by simp [rows])]
      exact ⟨by simp, polling.shown?, rfl⟩
  | true =>
      have tree : showRows polling =
          .call (.report (.results polling.aggregate polling.fieldsChanged))
            fun _ => .done polling.afterShowing := by
        rw [showRows, if_pos rows]
        rfl
      have shown : ∃ shown?, polling.afterShowing = { polling with shown? } := by
        unfold Polling.afterShowing
        split
        · exact ⟨_, rfl⟩
        · exact ⟨polling.shown?, rfl⟩
      rw [tree]
      exact ⟨by simp [Exchange.isRound], shown⟩

def nextStage (logGroups : List RegionLogGroups) (polling : Polling) : Stage :=
  if polling.settled then .ended (.ok (report logGroups polling .completed))
  else .polling logGroups polling

theorem wait_calm (logGroups : List RegionLogGroups) (polling : Polling) (state : σ)
    (calm : ∀ exchange ∈ (execution.wait logGroups polling).exchanges service state,
      exchange.calm) :
    (∀ exchange ∈ (execution.wait logGroups polling).exchanges service state,
      ¬exchange.isRound) ∧
    ((execution.wait logGroups polling).run service state).1 = nextStage logGroups polling := by
  cases settled : polling.settled with
  | true => simp [wait, nextStage, settled]
  | false =>
      have tree : execution.wait logGroups polling =
          .call (.pause execution.interval) fun _ => .call .cancelled fun told =>
            if told then .done (.ended (.ok (report logGroups polling .canceled)))
            else .done (.polling logGroups polling) := by
        simp only [wait, settled]
        rfl
      rw [tree] at calm ⊢
      simp only [Task.exchanges_call, List.forall_mem_cons] at calm
      have carryOn : (service.answer (service.answer state (.pause execution.interval)).2
          .cancelled).1 = false := by simpa [Exchange.calm] using calm.2.1
      simp [nextStage, settled, carryOn, Exchange.isRound]

theorem showAndWait_calm (logGroups : List RegionLogGroups) (polling : Polling) (state : σ)
    (calm : ∀ exchange ∈ (execution.showAndWait logGroups polling).exchanges service state,
      exchange.calm) :
    (∀ exchange ∈ (execution.showAndWait logGroups polling).exchanges service state,
      ¬exchange.isRound) ∧
    ∃ shown?, ((execution.showAndWait logGroups polling).run service state).1 =
      nextStage logGroups { polling with shown? } := by
  have tree : execution.showAndWait logGroups polling =
      .call .cancelled fun told =>
        if told then .done (.ended (.ok (report logGroups polling .canceled)))
        else showRows polling >>= execution.wait logGroups := rfl
  rw [tree] at calm ⊢
  simp only [Task.exchanges_call, Task.run_call, List.forall_mem_cons] at calm ⊢
  have carryOn : (service.answer state .cancelled).1 = false := by
    simpa [Exchange.calm] using calm.1
  simp only [carryOn, Bool.false_eq_true, if_false, Task.exchanges_bind, Task.run_bind_eq,
    List.forall_mem_append] at calm ⊢
  obtain ⟨shows, shown?, shown⟩ :=
    showRows_run service polling (service.answer state .cancelled).2
  rw [shown] at calm ⊢
  have waits := execution.wait_calm service logGroups { polling with shown? } _ calm.2.2
  exact ⟨⟨by simp [Exchange.isRound], shows, waits.1⟩, shown?, waits.2⟩

/-- A round in which no call fails and nobody says to stop: it asks the queries that are not
over, and what it leaves of the regions is made of the pages that come in. -/
theorem round_calm {all : List Heard} (orderly : ∀ heard ∈ all, heard.Orderly)
    (logGroups : List RegionLogGroups) {polling : Polling}
    (regions : polling.regions = all.map (Heard.poll polling.columns)) (state : σ)
    (calm : ∀ exchange ∈ (execution.round logGroups polling).exchanges service state,
      exchange.calm) :
    ∃ (pages : List ResultsPage) (received : Polling),
      pages.length = (Heard.unfinished all).length ∧
      Heard.after all ((execution.round logGroups polling).exchanges service state) =
        Heard.handOut all pages ∧
      Heard.AsksUnfinished all ((execution.round logGroups polling).exchanges service state) ∧
      ((execution.round logGroups polling).exchanges service state).countP Exchange.isRound = 1 ∧
      received.columns = polling.columns ∧
      received.regions = (Heard.handOut all pages).map (Heard.poll polling.columns) ∧
      ((execution.round logGroups polling).run service state).1 =
        nextStage logGroups received := by
  have asked : polling.unsettled = Heard.unfinished all := by
    rw [Polling.unsettled, regions]
    exact Heard.unsettled_poll orderly
  rw [round_eq] at calm ⊢
  rw [Task.exchanges_call] at calm ⊢
  rw [Task.run_call]
  obtain ⟨first, later⟩ := List.forall_mem_cons.mp calm
  generalize service.answer state (.results polling.unsettled) = reply at first later ⊢
  obtain ⟨answers, state⟩ := reply
  dsimp only at first later ⊢
  let pages := (List.ofFn answers).filterMap Except.toOption
  have hpages : List.ofFn answers = pages.map .ok := eq_map_ok first
  let received : Polling := { polling with
    regions := (Heard.handOut all pages).map (Heard.poll polling.columns)
    rounds := polling.rounds + 1 }
  have hreceived : polling.receive (List.ofFn answers) = .ok received := by
    rw [Polling.receive, hpages, regions, Heard.receiveAll_poll orderly]
    rfl
  have length : pages.length = (Heard.unfinished all).length := by
    rw [← asked, ← List.length_map, ← hpages, List.length_ofFn]
  rw [hreceived] at later ⊢
  obtain ⟨quiet, shown?, stage⟩ := execution.showAndWait_calm service logGroups _ state later
  have hears : (⟨.results polling.unsettled, answers⟩ : Exchange).pages = pages := rfl
  obtain ⟨after, asks⟩ := Heard.after_of_not_isRound quiet (Heard.handOut all pages)
  refine ⟨pages, { received with shown? }, length, ?_, ?_, ?_, rfl, rfl, stage⟩
  · rw [Heard.after_cons, hears]
    exact after
  · rw [Heard.AsksUnfinished, hears]
    exact ⟨fun queries h => by cases h; exact asked, asks⟩
  · rw [List.countP_cons_of_pos rfl, List.countP_eq_zero.mpr quiet]

variable (logGroups : List RegionLogGroups) (columns : Columns) (shown? : Option (List String))
  (queries : List StartedQuery)

/-- A query that has been started, after a number of turns. -/
def polled (state : σ) (turns : Nat) : Standing σ :=
  execution.after service turns
    { stage := .polling logGroups (.start columns shown? queries), state, transcript := [] }

def heard (standing : Standing σ) : List Heard :=
  Heard.after (queries.map .nothing) standing.transcript

/-- How far a query has come that nobody has told to stop. -/
inductive Situation (turns : Nat) (standing : Standing σ) : Prop
  | running (polling : Polling) (stage : standing.stage = .polling logGroups polling)
      (declared : polling.columns = columns)
      (regions : polling.regions = (heard queries standing).map (Heard.poll columns))
      (rounds : standing.transcript.countP Exchange.isRound = turns)
      (running : turns = 0 ∨ ∃ region ∈ heard queries standing, region.ended = false)
  | ended (polling : Polling)
      (stage : standing.stage = .ended (.ok (report logGroups polling .completed)))
      (regions : polling.regions = (heard queries standing).map (Heard.poll columns))
      (begun : 0 < turns) (ended : ∀ region ∈ heard queries standing, region.ended = true)
      (last : standing.transcript.countP Exchange.isRound = 1 ∨
        ∃ region ∈ heard queries standing,
          region.pages.length = standing.transcript.countP Exchange.isRound)

/-- What is true of a query in every situation. -/
structure Polled (turns : Nat) (standing : Standing σ) : Prop where
  rounded : ∀ region ∈ heard queries standing,
    region.Rounded (standing.transcript.countP Exchange.isRound)
  asks : Heard.AsksUnfinished (queries.map .nothing) standing.transcript
  situation : Situation logGroups columns queries turns standing

theorem heard_append (stage : Stage) (state : σ) (earlier later : List Exchange) :
    heard queries (⟨stage, state, earlier ++ later⟩ : Standing σ) =
      Heard.after (Heard.after (queries.map .nothing) earlier) later :=
  Heard.after_append _ earlier later

theorem heard_query (standing : Standing σ) :
    (heard queries standing).map Heard.query = queries := by
  have same : Heard.query ∘ Heard.nothing = id := rfl
  rw [heard, Heard.after_query, List.map_map, same, List.map_id]

theorem polled_zero (state : σ) :
    Polled logGroups columns queries 0
      (execution.polled service logGroups columns shown? queries state 0) where
  rounded := Heard.rounded_nothing queries
  asks := trivial
  situation := .running _ rfl rfl (Heard.start_regions shown? queries) rfl (.inl rfl)

theorem settled_iff {polling : Polling} {all : List Heard}
    (orderly : ∀ region ∈ all, region.Orderly)
    (regions : polling.regions = all.map (Heard.poll columns)) :
    polling.settled = true ↔ ∀ region ∈ all, region.ended = true := by
  rw [Polling.settled, regions, List.all_map, List.all_eq_true]
  refine forall₂_congr fun region hmem => ?_
  rw [Function.comp_apply, (orderly region hmem).settled_poll]

theorem Polled.advance {turns : Nat} {standing : Standing σ}
    (h : Polled logGroups columns queries turns standing)
    (calm : ∀ exchange ∈ (execution.advance service standing).transcript, exchange.calm) :
    Polled logGroups columns queries (turns + 1) (execution.advance service standing) := by
  obtain ⟨rounded, asks, situation⟩ := h
  cases situation with
  | ended polling stage regions begun ended last =>
      rw [execution.advance_of_ended service stage]
      exact ⟨rounded, asks, .ended polling stage regions (Nat.succ_pos turns) ended last⟩
  | running polling stage declared regions rounds running =>
      subst declared rounds
      rw [execution.advance_of_polling service stage] at calm ⊢
      have orderly := fun region hmem => (rounded region hmem).orderly
      obtain ⟨pages, received, length, after, asked, count, declared, regions', next⟩ :=
        execution.round_calm service orderly logGroups regions standing.state
          (List.forall_mem_append.mp calm).2
      have hears := Heard.handOut_hears length
      have rounded' := Heard.rounded_of_hears hears rounded
      have settled := settled_iff _ (fun region hmem => (rounded' region hmem).orderly) regions'
      have last : standing.transcript.countP Exchange.isRound = 0 ∨
          ∃ region ∈ Heard.handOut (heard queries standing) pages,
            region.pages.length = standing.transcript.countP Exchange.isRound + 1 :=
        running.imp_right (Heard.exists_length_of_hears hears rounded)
      generalize (execution.round logGroups polling).exchanges service standing.state = exchanges
        at after asked count ⊢
      generalize (execution.round logGroups polling).run service standing.state = reply at next ⊢
      have heard' : heard queries
        (⟨reply.1, reply.2, standing.transcript ++ exchanges⟩ : Standing σ) =
          Heard.handOut (heard queries standing) pages :=
        (heard_append queries _ _ _ _).trans after
      have count' : (standing.transcript ++ exchanges).countP Exchange.isRound =
          standing.transcript.countP Exchange.isRound + 1 := by
        rw [List.countP_append, count]
      rw [← heard'] at rounded' regions' settled last
      rw [← count'] at rounded' last
      refine ⟨rounded', Heard.asksUnfinished_append.mpr ⟨asks, asked⟩, ?_⟩
      unfold nextStage at next
      split at next
      case isTrue ended =>
        exact .ended received next regions' (Nat.succ_pos _) (settled.mp ended)
          (last.imp_left fun first => by rw [count', first])
      case isFalse ongoing =>
        refine .running received next declared regions' count' (.inr ?_)
        rw [settled] at ongoing
        simpa using ongoing

theorem polled_succ (state : σ) (turns : Nat) :
    execution.polled service logGroups columns shown? queries state (turns + 1) =
      execution.advance service
        (execution.polled service logGroups columns shown? queries state turns) :=
  execution.after_succ service turns _

theorem polled_of_calm (state : σ) (turns : Nat)
    (calm : ∀ exchange ∈
      (execution.polled service logGroups columns shown? queries state turns).transcript,
      exchange.calm) :
    Polled logGroups columns queries turns
      (execution.polled service logGroups columns shown? queries state turns) := by
  induction turns with
  | zero => exact execution.polled_zero service logGroups columns shown? queries state
  | succ turns ih =>
      rw [polled_succ] at calm ⊢
      exact (ih (List.forall_mem_append.mp calm).1).advance execution service logGroups columns
        queries calm

theorem heard_of_ended (state : σ) (earlier turns : Nat) (before : earlier ≤ turns) (i : Nat)
    (region : Heard)
    (h : (heard queries
      (execution.polled service logGroups columns shown? queries state earlier))[i]? =
        some region)
    (ended : region.ended = true) :
    (heard queries
      (execution.polled service logGroups columns shown? queries state turns))[i]? =
        some region := by
  induction before with
  | refl => exact h
  | step before ih =>
      rw [polled_succ]
      have longer : ∀ standing : Standing σ, heard queries (execution.advance service standing) =
          Heard.after (heard queries standing)
            ((execution.turn standing.stage).exchanges service standing.state) :=
        fun standing => heard_append queries _ _ _ _
      rw [longer]
      exact Heard.after_of_ended ih ended _

/-- The largest of some numbers of rounds; there is always a first round. -/
def mostRounds (rounds : List Nat) : Nat :=
  rounds.foldr max 1

theorem le_mostRounds {rounds : List Nat} {n : Nat} (h : n = 1 ∨ n ∈ rounds) :
    n ≤ mostRounds rounds := by
  induction rounds with
  | nil => simpa [mostRounds] using Nat.le_of_eq (h.resolve_right List.not_mem_nil)
  | cons m rounds ih =>
      rcases h with first | hmem
      · exact Nat.le_trans (ih (.inl first)) (Nat.le_max_right _ _)
      · rcases List.mem_cons.mp hmem with rfl | hmem
        · exact Nat.le_max_left _ _
        · exact Nat.le_trans (ih (.inr hmem)) (Nat.le_max_right _ _)

theorem mostRounds_le {rounds : List Nat} {n : Nat} (begun : 1 ≤ n) (h : ∀ m ∈ rounds, m ≤ n) :
    mostRounds rounds ≤ n := by
  induction rounds with
  | nil => exact begun
  | cons m rounds ih =>
      obtain ⟨first, others⟩ := List.forall_mem_cons.mp h
      exact Nat.max_le.mpr ⟨first, ih others⟩

theorem rounds_eq_mostRounds {all : List Heard} {rounds : Nat}
    (rounded : ∀ region ∈ all, region.Rounded rounds)
    (ended : ∀ region ∈ all, region.ended = true)
    (last : rounds = 1 ∨ ∃ region ∈ all, region.pages.length = rounds) :
    rounds = mostRounds (all.map Heard.rounds) := by
  have taken : ∀ region ∈ all, region.pages.length = region.rounds := fun region hmem =>
    ((rounded region hmem).orderly.rounds_eq (ended region hmem)).symm
  apply Nat.le_antisymm
  · refine le_mostRounds (last.imp_right fun ⟨region, hmem, length⟩ => ?_)
    exact List.mem_map.mpr ⟨region, hmem, (taken region hmem).symm.trans length⟩
  · refine mostRounds_le ?_ (List.forall_mem_map.mpr fun region hmem => ?_)
    · rcases last with first | ⟨region, hmem, length⟩
      · exact Nat.le_of_eq first.symm
      · rw [← length, taken region hmem]
        exact Nat.succ_pos _
    · rw [← taken region hmem]
      exact (rounded region hmem).length_le

theorem report_eq {polling : Polling} {all : List Heard}
    (orderly : ∀ region ∈ all, region.Orderly)
    (regions : polling.regions = all.map (Heard.poll columns)) (ending : Ending) :
    report logGroups polling ending = {
      ending
      result := .ofSnapshots (all.map (Heard.snapshot columns))
      logGroups
      failedRegions := (all.filter Heard.failed).map Heard.region
      fieldNames? := polling.shown?
      statistics := .sum (all.filterMap Heard.statistics?) } := by
  have result : polling.aggregate = .ofSnapshots (all.map (Heard.snapshot columns)) := by
    rw [Polling.aggregate, regions, List.map_map]
    rfl
  have failed : polling.failedRegions = (all.filter Heard.failed).map Heard.region := by
    have same : all.filter ((fun poll : RegionPoll => decide (poll.state = .failed)) ∘
        Heard.poll columns) = all.filter Heard.failed :=
      List.filter_congr fun region hmem => (orderly region hmem).failed_eq.symm
    rw [Polling.failedRegions, regions, List.filter_map, List.map_map, same]
    rfl
  have statistics : polling.statistics = .sum (all.filterMap Heard.statistics?) := by
    rw [Polling.statistics, regions, List.filterMap_map]
    rfl
  rw [report, result, failed, statistics]

/-- Where the query is over in the region `a` after a round and elsewhere after two. The state
counts the rounds. -/
def slowerElsewhere : Service Nat where
  answer rounds
    | .results queries =>
      (fun i => .ok {
        status := if (queries.get i).site.region = "a" ∨ 0 < rounds then .complete else .running
        rows := []
        valueRows := []
        statistics? := none }, rounds + 1)
    | c => (Unreachable.answer (m := Id) (fun _ => .ok ()) (fun _ => ()) c, rounds)

end Execution

end LogQuery
