import LogQuery.Proofs.Execution.Course
import LogQuery.Proofs.Execution.Strands
import LogQuery.Proofs.LogGroups.Lookup

namespace LogQuery

open LogGroups

namespace Call

/-- Whether it is made to prepare the query at a site. -/
def preparesAt (site : Site) : Call → Bool
  | connect s | catalogPage s _ | keptCatalog s | keepCatalog s _ => s = site
  | _ => false

theorem prepares_of_preparesAt {c : Call} {site : Site} (h : c.preparesAt site) : c.prepares := by
  cases c <;> first | rfl | cases h

theorem eq_of_preparesAt {c : Call} {s t : Site} (hs : c.preparesAt s) (ht : c.preparesAt t) :
    s = t := by
  cases c <;> simp_all [preparesAt]

/-- Whether it is made once the log groups of all regions are announced. -/
def follows : Call → Bool
  | connect _ | catalogPage .. | keptCatalog _ | keepCatalog .. | report (.logGroups _) => false
  | _ => true

theorem not_prepares_of_follows {c : Call} (h : c.follows) : ¬c.prepares := by
  cases c <;> first | exact Bool.false_ne_true | cases h

theorem follows_of_polls {c : Call} (h : c.polls) : c.follows := by
  unfold polls at h
  split at h <;> first | rfl | cases h

end Call

/-- Whether access was refused or a page of a catalog could not be had. -/
def Exchange.fails : Exchange → Bool
  | ⟨.connect _, .error _⟩ | ⟨.catalogPage .., .error _⟩ => true
  | _ => false

theorem Exchange.prepares_of_fails {exchange : Exchange} (h : exchange.fails) :
    exchange.call.prepares := by
  obtain ⟨c, answer⟩ := exchange
  cases c <;> first | rfl | cases h

namespace Signal

def fails : Signal → Bool
  | made _ => false
  | answered exchange => exchange.fails

def announcement? : Signal → Option (List RegionLogGroups)
  | made (.report (.logGroups found)) => some found
  | _ => none

def preparation? (site : Site) : Signal → Option Exchange
  | made _ => none
  | answered exchange => if exchange.call.preparesAt site then some exchange else none

theorem prepares_of_fails {signal : Signal} (h : signal.fails) : signal.call.prepares := by
  cases signal with
  | made c => cases h
  | answered exchange => exact Exchange.prepares_of_fails h

theorem preparation?_of_not {signal : Signal} {site : Site} (h : ¬signal.call.preparesAt site) :
    signal.preparation? site = none := by
  cases signal with
  | made c => rfl
  | answered exchange => exact if_neg h

theorem announcement?_of_prepares {signal : Signal} (h : signal.call.prepares) :
    signal.announcement? = none := by
  cases signal with
  | answered exchange => rfl
  | made c => cases c <;> first | rfl | cases h

theorem announcement?_of_follows {signal : Signal} (h : signal.call.follows) :
    signal.announcement? = none := by
  unfold announcement?
  split
  · cases h
  · rfl

end Signal

def announcements (past : List Signal) : List (List RegionLogGroups) :=
  past.filterMap Signal.announcement?

/-- The answered calls that prepare the query at a site. -/
def preparations (site : Site) (past : List Signal) : List Exchange :=
  past.filterMap (Signal.preparation? site)

section Preparations

variable {site : Site} {past : List Signal}

theorem mem_preparations {exchange : Exchange} :
    exchange ∈ preparations site past ↔
      .answered exchange ∈ past ∧ exchange.call.preparesAt site := by
  rw [preparations, List.mem_filterMap]
  constructor
  · rintro ⟨signal, hmem, ends⟩
    cases signal with
    | made c => cases ends
    | answered other =>
        obtain ⟨hat, same⟩ := Option.ite_none_right_eq_some.mp ends
        cases same
        exact ⟨hmem, hat⟩
  · rintro ⟨hmem, hat⟩
    exact ⟨_, hmem, if_pos hat⟩

theorem preparations_snoc_of_not {signal : Signal} (h : ¬signal.call.preparesAt site) :
    preparations site (past ++ [signal]) = preparations site past := by
  simp [preparations, Signal.preparation?_of_not h]

theorem preparations_exchange {exchange : Exchange} (h : ¬exchange.call.preparesAt site) :
    preparations site (past ++ exchange.signals) = preparations site past := by
  simp [preparations, Exchange.signals, Signal.preparation?, h]

theorem announcements_exchange {exchange : Exchange} (h : exchange.call.follows) :
    announcements (past ++ exchange.signals) = announcements past := by
  have silent : (Signal.made exchange.call).announcement? = none :=
    Signal.announcement?_of_follows h
  rw [announcements, List.filterMap_append, Exchange.signals, List.filterMap_cons_none silent]
  exact List.append_nil _

theorem preparations_made (c : Call) :
    preparations site (past ++ [.made c]) = preparations site past := by
  simp [preparations, Signal.preparation?]

theorem preparations_answered {exchange : Exchange} (h : exchange.call.preparesAt site) :
    preparations site (past ++ [.answered exchange]) = preparations site past ++ [exchange] := by
  simp [preparations, Signal.preparation?, h]

end Preparations

namespace LogGroups

theorem preparesAt_of_finding {site : Site} {pattern : String} {calls : List Exchange} {c : Call}
    {next : c.Answer → Task Expansion} (h : Finding site pattern calls (.call c next)) :
    c.preparesAt site := by
  generalize task : Task.call c next = present at h
  cases h with
  | begins wild =>
      rw [Expansion.start_of_wild site wild] at task
      cases task
      simp [Call.preparesAt]
  | drains => cases task
  | fetches wild pages more =>
      rw [Expansion.turn_draining] at task
      cases task
      simp [Call.preparesAt, Drain.start]
  | keeps =>
      cases task
      simp [Call.preparesAt]
  | ends => cases task

theorem not_fails_of_mem_pageCalls {site : Site} {token? : Option String}
    {pages : List CatalogPage} :
    ∀ exchange ∈ pageCalls site token? (pages.map .ok), ¬exchange.fails := by
  induction pages generalizing token? with
  | nil => simp [pageCalls]
  | cons page pages ih => exact List.forall_mem_cons.mpr ⟨by simp [Exchange.fails], ih⟩

theorem Lookup.not_fails {site : Site} {pattern : String} {kept? : Option (List String)}
    {calls : List Exchange} {names : List String}
    (h : Lookup site pattern kept? calls (some (.ok names))) :
    ∀ exchange ∈ calls, ¬exchange.fails := by
  cases h with
  | literal => simp
  | known => simp [Exchange.fails]
  | fetched wild unkept pages last =>
      refine List.forall_mem_append.mpr ⟨List.forall_mem_cons.mpr ⟨?_, ?_⟩, ?_⟩
      · simp [Exchange.fails]
      · exact not_fails_of_mem_pageCalls
      · simp [Exchange.fails]

end LogGroups

namespace Execution

variable {execution : Execution} {past : List Signal}

variable (execution) in
/-- Whether all calls so far prepare the query at its sites. -/
def Preparing (past : List Signal) : Prop :=
  ∀ signal ∈ past, ∃ region ∈ execution.query.regions,
  signal.call.preparesAt (execution.site region)

/-- How a site is asked for access: the calls that were made, with their answers, and what is
left. -/
inductive Accessing (site : Site) : List Exchange → Task (Except QueryError Unit) → Prop
  | asks : Accessing site [] (Task.ask (.connect site))
  | told (answer : Except QueryError Unit) :
      Accessing site [⟨.connect site, answer⟩] (.done answer)

/-- How the log groups are looked for at a site that has granted access. -/
inductive Searching (pattern : String) (site : Site) : List Exchange → Task Expansion → Prop
  | granted (calls : List Exchange) (task : Task Expansion)
      (finding : Finding site pattern calls task) :
      Searching pattern site (⟨.connect site, (.ok () : Except QueryError Unit)⟩ :: calls) task

/-- A relation between a site, the calls that prepare the query there, and what is left to do,
that every step of the task keeps. -/
structure Traces {α : Type} (further : α → Task α) (r : Site → List Exchange → Task α → Prop) :
    Prop where
  call {site : Site} {calls : List Exchange} {c : Call} {next : c.Answer → Task α} :
    r site calls (.call c next) →
      c.preparesAt site ∧ ∀ answer, r site (calls ++ [⟨c, answer⟩]) (next answer)
  further {site : Site} {calls : List Exchange} {value : α} :
    r site calls (.done value) → r site calls (further value)

theorem accessing_traces : Traces .done Accessing where
  call := by
    intro site calls c next h
    generalize task : Task.call c next = present at h
    cases h with
    | asks =>
        cases task
        exact ⟨by simp [Call.preparesAt], fun answer => .told answer⟩
    | told => cases task
  further := id

theorem searching_traces (pattern : String) :
    Traces (Expansion.turn pattern) (Searching pattern) where
  call := by
    rintro site _ c next ⟨calls, _, finding⟩
    exact ⟨preparesAt_of_finding finding, fun answer => .granted _ _ (finding.answered answer)⟩
  further := by
    rintro site _ expansion ⟨calls, _, finding⟩
    cases expansion with
    | draining drain => exact .granted _ _ finding.turned
    | ended outcome => exact .granted _ _ finding

variable (execution) in
/-- Whether all regions prepare the query, each in the way that `r` tells. -/
structure Together {α : Type} (r : Site → List Exchange → Task α → Prop) (past : List Signal)
    (work : String → Strand α) : Prop where
  preparing : execution.Preparing past
  each : ∀ region ∈ execution.query.regions,
    r (execution.site region) (preparations (execution.site region) past) (work region).task

section Together

variable {α : Type} {further : α → Task α} {r : Site → List Exchange → Task α → Prop}
  {work : String → Strand α}

theorem Together.other (h : execution.Together r past work) {region other : String}
    (hother : other ∈ execution.query.regions) (ne : other ≠ region) {signal? : Option Signal}
    (own : ∀ signal ∈ signal?, signal.call.preparesAt (execution.site region))
    (strand : Strand α) :
    r (execution.site other) (preparations (execution.site other) (past ++ signal?.toList))
      (Function.update work region strand other).task := by
  rw [Function.update_of_ne ne]
  cases signal? with
  | none => simpa using h.each other hother
  | some signal =>
      rw [Option.toList_some, preparations_snoc_of_not]
      · exact h.each other hother
      · intro there
        have same := Call.eq_of_preparesAt there (own signal rfl)
        exact ne (congrArg Site.region same)

theorem Together.step (traces : Traces further r) (h : execution.Together r past work)
    {region : String} (asked : region ∈ execution.query.regions) {signal? : Option Signal}
    {strand : Strand α} (step : Strand.Step further (work region) signal? strand) :
    execution.Together r (past ++ signal?.toList) (Function.update work region strand) ∧
      ∀ signal ∈ signal?, signal.call.preparesAt (execution.site region) := by
  have present := h.each region asked
  have moved : r (execution.site region)
        (preparations (execution.site region) (past ++ signal?.toList)) strand.task ∧
      ∀ signal ∈ signal?, signal.call.preparesAt (execution.site region) := by
    generalize work region = current at step present
    cases step with
    | makes c next =>
        rw [Option.toList_some, preparations_made]
        exact ⟨present, by simpa [Signal.call] using (traces.call present).1⟩
    | hears c next answer =>
        obtain ⟨own, heard⟩ := traces.call present
        rw [Option.toList_some, preparations_answered own]
        exact ⟨heard answer, by simpa [Signal.call] using own⟩
    | goesOn value =>
        rw [Option.toList_none, List.append_nil]
        exact ⟨traces.further present, by simp⟩
  refine ⟨⟨?_, ?_⟩, moved.2⟩
  · intro signal hmem
    rcases List.mem_append.mp hmem with earlier | now
    · exact h.preparing signal earlier
    · exact ⟨region, asked, moved.2 signal (Option.mem_toList.mp now)⟩
  · intro other hother
    by_cases same : other = region
    · subst same
      rw [Function.update_self]
      exact moved.1
    · exact h.other hother same moved.2 strand

end Together

end Execution

end LogQuery
