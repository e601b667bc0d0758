import LogQuery.Proofs.Execution.InTurn
import LogQuery.Proofs.Execution.Together
import LogQuery.Service.Unreachable
import Mathlib.Algebra.Order.Floor.Ring
import Mathlib.Data.Rat.Floor

/-!
The barriers between the phases of an execution. Whatever the calls are answered, and in
whichever order the regions take their steps: no catalog is listed before all regions have
granted access, the query is started nowhere before its log groups are known in all regions, and
no results are asked for before it has been started in all of them.
-/

namespace LogQuery

open LogGroups

/-- Whether a region is asked to start a query in these log groups: with its text and its row
limit, and with the ends of its time range in whole seconds, rounded down. -/
structure Query.Carries (query : Query) (logGroups : List String) (request : StartRequest) :
    Prop where
  body : request.body = query.body
  logGroups : request.logGroups = logGroups
  start : request.startSeconds = ⌊(query.timeRange.start : ℚ) / 1000⌋
  stop : request.stopSeconds = ⌊(query.timeRange.stop : ℚ) / 1000⌋
  limit : request.limit? = query.limit?

namespace Execution

theorem startRequest_carries (query : Query) (logGroups : List String) :
    query.Carries logGroups (startRequest query logGroups) where
  body := rfl
  logGroups := rfl
  start := (Rat.floor_intCast_div_natCast query.timeRange.start 1000).symm
  stop := (Rat.floor_intCast_div_natCast query.timeRange.stop 1000).symm
  limit := rfl

theorem logGroupsOf_mem {found : List RegionLogGroups} {region : String}
    (h : region ∈ found.map RegionLogGroups.region) :
    ∃ entry ∈ found, entry.region = region ∧ logGroupsOf found region = entry.logGroups := by
  obtain ⟨entry, hmem, same⟩ := List.mem_map.mp h
  have some : (found.find? fun entry => entry.region == region).isSome :=
    List.find?_isSome.mpr ⟨entry, hmem, beq_iff_eq.mpr same⟩
  obtain ⟨first, hfirst⟩ := Option.isSome_iff_exists.mp some
  have here := List.find?_some hfirst
  refine ⟨first, List.mem_of_find?_eq_some hfirst, by simpa using here, ?_⟩
  rw [logGroupsOf, hfirst]
  rfl

variable (execution : Execution)

/-- Whether all regions have granted access. -/
def Connected (past : List Signal) : Prop :=
  ∀ region ∈ execution.query.regions,
    .answered ⟨.connect (execution.site region), (.ok () : Except QueryError Unit)⟩ ∈ past

/-- Whether these are the log groups of all regions, each found at its site once access was
granted. -/
structure Resolved (past : List Signal) (found : List RegionLogGroups) : Prop where
  regions : found.map RegionLogGroups.region = execution.query.regions
  each : ∀ entry ∈ found, ∃ (kept? : Option (List String)) (calls : List Exchange),
    preparations (execution.site entry.region) past =
        ⟨.connect (execution.site entry.region), (.ok () : Except QueryError Unit)⟩ :: calls ∧
      Lookup (execution.site entry.region) execution.query.logGroups kept? calls
        (some (.ok entry.logGroups))

def Started (past : List Signal) (query : StartedQuery) : Prop :=
  ∃ request : StartRequest,
    .answered ⟨.startQuery query.site request, (.ok query.id : Except CallFailure String)⟩ ∈ past

structure StartedAll (past : List Signal) (queries : List StartedQuery) : Prop where
  sites : queries.map StartedQuery.site = execution.query.regions.map execution.site
  each : ∀ query ∈ queries, Started past query

/-- What has to be done before a call is made. -/
def Due (before : List Signal) : Call → Prop
  | .connect _ => True
  | .catalogPage .. | .keptCatalog _ | .keepCatalog .. => execution.Connected before
  | .report (.logGroups found) => execution.Resolved before found
  | .startQuery site request => ∃ found, announcements before = [found] ∧
      execution.Resolved before found ∧
      ∃ entry ∈ found, site = execution.site entry.region ∧
        execution.query.Carries entry.logGroups request
  | .stopQuery _ => ∃ found, announcements before = [found]
  | .report (.started _) | .report (.results ..) | .results _ | .cancelled | .pause _ =>
      ∃ queries, execution.StartedAll before queries
  | .logRecord .. | .history _ => False

def InOrder (past : List Signal) : Prop :=
  ∀ before c after, past = before ++ .made c :: after → execution.Due before c

/-- Whether all calls are made in order, and none but preparing ones once access has been refused
or a catalog could not be listed. -/
structure Orderly (past : List Signal) : Prop where
  inOrder : execution.InOrder past
  barred : (∃ signal ∈ past, signal.fails) → ∀ c, .made c ∈ past → c.prepares

variable {execution} {past : List Signal}

theorem due_of_prepares (connected : execution.Connected past) {c : Call} (h : c.prepares) :
    execution.Due past c := by
  cases c with
  | connect => trivial
  | catalogPage | keptCatalog | keepCatalog => exact connected
  | _ => cases h

theorem due_of_polls {queries : List StartedQuery} (started : execution.StartedAll past queries)
    {c : Call} (h : c.polls) : execution.Due past c := by
  cases c with
  | results | cancelled | pause => exact ⟨queries, started⟩
  | report progress =>
      cases progress with
      | results => exact ⟨queries, started⟩
      | _ => cases h
  | _ => cases h

theorem InOrder.snoc (h : execution.InOrder past) {signal? : Option Signal}
    (due : ∀ c, signal? = some (.made c) → execution.Due past c) :
    execution.InOrder (past ++ signal?.toList) := by
  intro before c after order
  rcases append_eq_append_cons order with ⟨more, earlier⟩ | ⟨more, rfl, now⟩
  · exact h before c more earlier
  · cases signal? with
    | none => simp at now
    | some signal =>
        cases more with
        | nil =>
            cases now
            rw [List.append_nil]
            exact due c rfl
        | cons => simp at now

/-! ### Once there is one task again -/

variable (execution) in
/-- Whether these log groups were announced, and nothing has failed before. -/
structure Submitted (past : List Signal) (found : List RegionLogGroups) : Prop where
  resolved : execution.Resolved past found
  announced : announcements past = [found]
  unfailed : ∀ signal ∈ past, ¬signal.fails

section Exchange

variable {found : List RegionLogGroups} {exchange : Exchange}

theorem Resolved.later (h : execution.Resolved past found) (other : ¬exchange.call.prepares) :
    execution.Resolved (past ++ exchange.signals) found where
  regions := h.regions
  each := by
    intro entry hmem
    have elsewhere : ¬exchange.call.preparesAt (execution.site entry.region) :=
      fun there => other (Call.prepares_of_preparesAt there)
    rw [preparations_exchange elsewhere]
    exact h.each entry hmem

theorem not_fails_later (h : ∀ signal ∈ past, ¬signal.fails) (other : ¬exchange.call.prepares) :
    ∀ signal ∈ past ++ exchange.signals, ¬signal.fails := by
  refine List.forall_mem_append.mpr ⟨h, List.forall_mem_cons.mpr ⟨Bool.false_ne_true, ?_⟩⟩
  exact List.forall_mem_singleton.mpr fun fails => other (Exchange.prepares_of_fails fails)

theorem Submitted.later (h : execution.Submitted past found) (follows : exchange.call.follows) :
    execution.Submitted (past ++ exchange.signals) found where
  resolved := h.resolved.later (Call.not_prepares_of_follows follows)
  announced := (announcements_exchange follows).trans h.announced
  unfailed := not_fails_later h.unfailed (Call.not_prepares_of_follows follows)

end Exchange

theorem Started.append {query : StartedQuery} (h : Started past query) (later : List Signal) :
    Started (past ++ later) query :=
  h.imp fun _ there => List.mem_append_left later there

theorem StartedAll.append {queries : List StartedQuery} (h : execution.StartedAll past queries)
    (later : List Signal) : execution.StartedAll (past ++ later) queries where
  sites := h.sites
  each := fun query hmem => (h.each query hmem).append later

variable (execution) in
/-- Whether a call of the one task is due. None of them prepares anything. -/
def DueAlone (past : List Signal) (c : Call) : Prop :=
  execution.Due past c ∧ ¬c.prepares

variable (execution) in
/-- Where the one task can stop. -/
def StopsAt (past : List Signal) : Stage → Prop
  | .draining .. => False
  | .polling _ polling => (∃ found, execution.Submitted past found) ∧
      execution.StartedAll past (polling.regions.map RegionPoll.query)
  | .ended _ => True

theorem stopAll_stops (queries : List StartedQuery) :
    (stopAll queries).Ensures (fun c => ∃ query, c = .stopQuery query) fun _ => True := by
  induction queries with
  | nil => trivial
  | cons query rest ih => exact ⟨⟨query, rfl⟩, fun _ => ih⟩

theorem stopAll_holds {α : Type} {found : List RegionLogGroups}
    (submitted : execution.Submitted past found) (queries : List StartedQuery)
    {f : Unit → Task α} {post : List Signal → α → Prop}
    (hf : ∀ later, execution.Submitted later found → (f ()).Holds execution.DueAlone post later) :
    (stopAll queries >>= f).Holds execution.DueAlone post past := by
  have stops : (stopAll queries).Holds execution.DueAlone
      (fun later _ => execution.Submitted later found) past := by
    refine .of_ensures (stopAll_stops queries) ?_ ?_ (fun _ _ later _ => later) submitted
    · rintro past _ submitted ⟨query, rfl⟩
      exact ⟨⟨found, submitted.announced⟩, by simp [Call.prepares]⟩
    · rintro past exchange submitted ⟨query, stops⟩
      exact submitted.later (by simp [stops, Call.follows])
  exact stops.bind fun later _ => hf later

theorem startAll_holds {found : List RegionLogGroups} {regions : List String}
    (asked : ∀ region ∈ regions, region ∈ execution.query.regions) (already : List StartedQuery)
    (submitted : execution.Submitted past found)
    (started : ∀ query ∈ already, Started past query) :
    (execution.startAll found regions already).Holds execution.DueAlone
      (fun past outcome => ∀ queries, outcome = .ok queries → execution.Submitted past found ∧
        queries.map StartedQuery.site =
          already.map StartedQuery.site ++ regions.map execution.site ∧
        ∀ query ∈ queries, Started past query) past := by
  induction regions generalizing already past with
  | nil =>
      rintro queries ⟨⟩
      exact ⟨submitted, by simp, started⟩
  | cons region rest ih =>
      obtain ⟨here, others⟩ := List.forall_mem_cons.mp asked
      rw [startAll_cons]
      refine ⟨⟨⟨found, submitted.announced, submitted.resolved, ?_⟩, by simp [Call.prepares]⟩, ?_⟩
      · obtain ⟨entry, hmem, rfl, groups⟩ := logGroupsOf_mem (submitted.resolved.regions ▸ here)
        exact ⟨entry, hmem, rfl, groups ▸ startRequest_carries execution.query _⟩
      · intro answer
        have heard : execution.Submitted
          (past ++ Exchange.signals ⟨.startQuery (execution.site region)
            (startRequest execution.query (logGroupsOf found region)), answer⟩) found :=
          submitted.later rfl
        cases answer with
        | error failure =>
            refine stopAll_holds heard already ?_
            rintro _ _ queries ⟨⟩
        | ok id =>
            have later := ih others (already ++ [⟨execution.site region, id⟩]) heard ?_
            · simpa using later
            · refine List.forall_mem_append.mpr ⟨?_, List.forall_mem_singleton.mpr ?_⟩
              · exact fun query hmem => (started query hmem).append _
              · exact ⟨_, List.mem_append_right _ (List.mem_pair.mpr (.inr rfl))⟩

theorem submit_holds {found : List RegionLogGroups} (resolved : execution.Resolved past found)
    (silent : announcements past = []) (unfailed : ∀ signal ∈ past, ¬signal.fails) :
    (execution.submit found).Holds execution.DueAlone execution.StopsAt past := by
  have reports : ¬(Call.report (.logGroups found)).prepares := by simp [Call.prepares]
  rw [submit_eq]
  refine ⟨⟨resolved, reports⟩, fun answer => ?_⟩
  have submitted : execution.Submitted
      (past ++ Exchange.signals ⟨.report (.logGroups found), answer⟩) found := by
    refine ⟨resolved.later reports, ?_, not_fails_later unfailed reports⟩
    rw [announcements, List.filterMap_append, ← announcements, silent]
    rfl
  refine .bind (startAll_holds (fun _ => id) [] submitted (by simp)) ?_
  intro later outcome accepted
  cases outcome with
  | error e => trivial
  | ok queries =>
      obtain ⟨submitted, sites, each⟩ := accepted queries rfl
      have started : execution.StartedAll later queries := ⟨by simpa using sites, each⟩
      refine ⟨⟨⟨queries, started⟩, by simp [Call.prepares]⟩, fun answer => ⟨⟨found, ?_⟩, ?_⟩⟩
      · exact submitted.later rfl
      · rw [Polling.start_query]
        exact started.append _

theorem round_holds {found : List RegionLogGroups} (submitted : execution.Submitted past found)
    (logGroups : List RegionLogGroups) (polling : Polling)
    (started : execution.StartedAll past (polling.regions.map RegionPoll.query)) :
    (execution.round logGroups polling).Holds execution.DueAlone execution.StopsAt past := by
  refine .of_ensures (execution.round_polls logGroups polling)
    (i := fun past => execution.Submitted past found ∧
      execution.StartedAll past (polling.regions.map RegionPoll.query)) ?_ ?_ ?_
      ⟨submitted, started⟩
  · rintro past c ⟨submitted, started⟩ polls
    exact ⟨due_of_polls started polls, Call.not_prepares_of_follows (Call.follows_of_polls polls)⟩
  · rintro past exchange ⟨submitted, started⟩ polls
    exact ⟨submitted.later (Call.follows_of_polls polls), started.append _⟩
  · rintro later stage ⟨submitted, started⟩ asks
    cases stage with
    | draining => exact asks.elim
    | ended => trivial
    | polling _ next => exact ⟨⟨found, submitted⟩, (show _ = _ from asks) ▸ started⟩

theorem turn_holds {stage : Stage} (stops : execution.StopsAt past stage) :
    (execution.turn stage).Holds execution.DueAlone execution.StopsAt past := by
  cases stage with
  | draining => exact stops.elim
  | ended outcome => trivial
  | polling logGroups polling =>
      obtain ⟨⟨found, submitted⟩, started⟩ := stops
      exact round_holds submitted logGroups polling started

/-! ### What every step keeps -/

variable (execution) in
/-- What is known of each moment from the calls before it. -/
def Fits (past : List Signal) : Moment → Prop
  | .connecting work => execution.Together Accessing past work
  | .expanding work => execution.Together (Searching execution.query.logGroups) past work
  | .alone strand =>
    (execution.Preparing past ∧ ∃ e, strand = .ready (.done (.ended (.error e)))) ∨
      ((∀ signal ∈ past, ¬signal.fails) ∧ strand.Holds execution.DueAlone execution.StopsAt past)

theorem fits_firstMoment : execution.Fits [] execution.firstMoment where
  preparing := by simp [Preparing]
  each := fun _ _ => .asks

theorem due_of_accessing {site : Site} {calls : List Exchange}
    {strand next : Strand (Except QueryError Unit)} {c : Call}
    (h : Accessing site calls strand.task)
    (step : Strand.Step .done strand (some (.made c)) next) : execution.Due past c := by
  cases step with
  | makes c next =>
      cases h with
      | asks => trivial

theorem connected_of_together {work : String → Strand Expansion}
    (h : execution.Together (Searching execution.query.logGroups) past work) :
    execution.Connected past := by
  intro region asked
  have present := h.each region asked
  generalize calls : preparations (execution.site region) past = prepared at present
  cases present with
  | granted rest task finding =>
      have granted : ⟨.connect (execution.site region), (.ok () : Except QueryError Unit)⟩ ∈
          preparations (execution.site region) past := calls ▸ List.mem_cons_self
      exact (mem_preparations.mp granted).1

theorem preparations_of_connected {work : String → Strand (Except QueryError Unit)}
    (h : execution.Together Accessing past work) {region : String}
    (asked : region ∈ execution.query.regions) (granted : work region = .ready (.done (.ok ()))) :
    preparations (execution.site region) past =
      [⟨.connect (execution.site region), (.ok () : Except QueryError Unit)⟩] := by
  have present := h.each region asked
  rw [granted] at present
  generalize preparations (execution.site region) past = prepared at present ⊢
  cases present with
  | told => rfl

theorem resolved_of_expanded {work : String → Strand Expansion} {names : String → List String}
    (h : execution.Together (Searching execution.query.logGroups) past work)
    (all : ∀ region ∈ execution.query.regions,
      work region = .ready (.done (.ended (.ok (names region))))) :
    execution.Resolved past (execution.query.regions.map fun region =>
      ⟨region, names region⟩) where
  regions := by
    rw [List.map_map]
    exact List.map_id _
  each := by
    refine List.forall_mem_map.mpr fun region asked => ?_
    have present := h.each region asked
    rw [all region asked] at present
    generalize preparations (execution.site region) past = prepared at present ⊢
    cases present with
    | granted calls _ finding =>
        rcases finding.of_done with ⟨kept?, _, ⟨⟩, lookup⟩ | ⟨_, _, _, ⟨⟩, _⟩
        exact ⟨kept?, calls, rfl, lookup⟩

theorem unfailed_of_resolved {found : List RegionLogGroups} (preparing : execution.Preparing past)
    (resolved : execution.Resolved past found) : ∀ signal ∈ past, ¬signal.fails := by
  intro signal hmem
  cases signal with
  | made c => exact Bool.false_ne_true
  | answered exchange =>
      obtain ⟨region, asked, there⟩ := preparing _ hmem
      rw [← resolved.regions] at asked
      obtain ⟨entry, hentry, rfl⟩ := List.mem_map.mp asked
      obtain ⟨kept?, calls, prepared, lookup⟩ := resolved.each entry hentry
      have among := mem_preparations.mpr ⟨hmem, there⟩
      rw [prepared] at among
      rcases List.mem_cons.mp among with rfl | hcalls
      · exact Bool.false_ne_true
      · exact lookup.not_fails exchange hcalls

theorem announcements_of_preparing (preparing : execution.Preparing past) :
    announcements past = [] := by
  refine List.filterMap_eq_nil_iff.mpr fun signal hmem => ?_
  obtain ⟨region, _, there⟩ := preparing signal hmem
  exact Signal.announcement?_of_prepares (Call.prepares_of_preparesAt there)

theorem Fits.step {moment next : Moment} {signal? : Option Signal}
    (h : execution.Fits past moment) (move : execution.Moves moment signal? next) :
    execution.Fits (past ++ signal?.toList) next ∧
      ∀ c, signal? = some (.made c) → execution.Due past c := by
  cases move with
  | connects work region asked _ strand step =>
      refine ⟨(Together.step accessing_traces h asked step).1, ?_⟩
      rintro c rfl
      exact due_of_accessing (h.each region asked) step
  | refused work region asked e ends => exact ⟨.inl ⟨by simpa using h.preparing, e, rfl⟩, by simp⟩
  | connected work all =>
      refine ⟨⟨by simpa using h.preparing, fun region asked => ?_⟩, by simp⟩
      rw [Option.toList_none, List.append_nil,
        preparations_of_connected h asked (all region asked)]
      exact .granted [] _ (Finding.start _ _)
  | expands work region asked _ strand step =>
      obtain ⟨together, own⟩ := Together.step (searching_traces _) h asked step
      refine ⟨together, ?_⟩
      rintro c rfl
      exact due_of_prepares (connected_of_together h) (Call.prepares_of_preparesAt (own _ rfl))
  | unlisted work region asked e ends =>
    exact ⟨.inl ⟨by simpa using h.preparing, e, rfl⟩, by simp⟩
  | expanded work names all =>
      have resolved := resolved_of_expanded h all
      have unfailed := unfailed_of_resolved h.preparing resolved
      have silent := announcements_of_preparing h.preparing
      rw [Option.toList_none, List.append_nil]
      exact ⟨.inr ⟨unfailed, submit_holds resolved silent unfailed⟩, by simp⟩
  | goes strand _ next step =>
      rcases h with ⟨preparing, e, rfl⟩ | ⟨unfailed, holds⟩
      · cases step with
        | goesOn => exact ⟨.inl ⟨by simpa using preparing, e, rfl⟩, by simp⟩
      · obtain ⟨later, due, other⟩ := holds.step (fun _ stops => turn_holds stops) step
        refine ⟨.inr ⟨?_, later⟩, fun c made => (due c made).1⟩
        refine List.forall_mem_append.mpr ⟨unfailed, fun signal hmem => ?_⟩
        obtain ⟨before, due⟩ := other signal (Option.mem_toList.mp hmem)
        exact fun fails => due.2 (Signal.prepares_of_fails fails)

theorem Course.fits {moment : Moment} (course : execution.Course past moment) :
    execution.Fits past moment ∧ execution.InOrder past := by
  induction course with
  | begins => exact ⟨fits_firstMoment, by simp [InOrder]⟩
  | moves course move ih =>
      obtain ⟨fits, order⟩ := ih
      obtain ⟨later, due⟩ := fits.step move
      exact ⟨later, order.snoc due⟩

theorem made_prepares (preparing : execution.Preparing past) :
    ∀ c, .made c ∈ past → c.prepares := by
  intro c hmem
  obtain ⟨region, _, there⟩ := preparing _ hmem
  exact Call.prepares_of_preparesAt there

theorem Course.orderly {moment : Moment} (course : execution.Course past moment) :
    execution.Orderly past := by
  obtain ⟨fits, order⟩ := course.fits
  refine ⟨order, ?_⟩
  rintro ⟨signal, hmem, fails⟩
  cases moment with
  | connecting work => exact made_prepares fits.preparing
  | expanding work => exact made_prepares fits.preparing
  | alone strand =>
      rcases fits with ⟨preparing, _⟩ | ⟨unfailed, _⟩
      · exact made_prepares preparing
      · exact absurd fails (unfailed signal hmem)

variable (execution) in
/-- However its regions take their steps, an execution makes its calls in the order of its
phases. One that takes the regions one after the other goes one of these ways. -/
theorem phases_in_order (distinct : execution.query.regions.Nodup) :
    (∀ past moment, execution.Course past moment → execution.Orderly past) ∧
      ∀ {σ : Type} (service : Service σ) (turns : Nat) (state : σ),
        let standing := execution.after service turns (execution.opening service state)
        ∃ moment, execution.Course (standing.transcript.flatMap Exchange.signals) moment :=
  ⟨fun _ _ course => course.orderly,
    fun service turns state => (inTurn_after service distinct turns state).course⟩

/-- Where the region `b` does not list its log groups. -/
def unlistedElsewhere : Service Unit where
  answer state
    | .catalogPage site _ =>
      (if site.region = "b" then .error ["denied"] else .ok ⟨["/a/1"], none⟩, state)
    | c => (Unreachable.answer (m := Id) (fun _ => .ok ()) (fun _ => ()) c, state)

theorem phases_in_order_unlisted_elsewhere :
    let query : Query := ⟨"", "p", ["a", "b"], "*", ⟨0, 0⟩, none, "", none, none⟩
    let execution : Execution := ⟨query, 0⟩
    let standing := execution.after unlistedElsewhere 2 (execution.opening unlistedElsewhere ())
    query.regions.Nodup ∧ standing.transcript.length = 7 ∧
      (∃ exchange ∈ standing.transcript, exchange.fails) ∧
      ∀ exchange ∈ standing.transcript, exchange.call.prepares := by
  intro query execution standing
  have distinct : query.regions.Nodup := by decide
  have fails : ∃ exchange ∈ standing.transcript, exchange.fails := by decide +kernel
  obtain ⟨orderly, courses⟩ := phases_in_order execution distinct
  obtain ⟨moment, course⟩ := courses unlistedElsewhere 2 ()
  refine ⟨distinct, by decide +kernel, fails, fun exchange hmem => ?_⟩
  obtain ⟨failing, among, fails⟩ := fails
  refine (orderly _ _ course).barred ⟨.answered failing, ?_, fails⟩ _ ?_
  · exact List.mem_flatMap.mpr ⟨failing, among, by simp [Exchange.signals]⟩
  · exact List.mem_flatMap.mpr ⟨exchange, hmem, by simp [Exchange.signals]⟩

end Execution

end LogQuery
