import LogQuery.Proofs.Execution.Strands
import LogQuery.Proofs.Execution.Turns
import Mathlib.Tactic.Choose

namespace LogQuery

namespace LogGroups

theorem Drain.site_of_more {drain next : Drain} {answer : Except CallFailure CatalogPage}
    (h : drain.absorb answer = .more next) : next.site = drain.site := by
  cases answer with
  | error failure => cases h
  | ok page =>
      simp only [Drain.absorb] at h
      split at h
      · cases h
        rfl
      · cases h

theorem Expansion.start_eq (site : Site) (pattern : String) :
    start site pattern = lookUp site pattern >>= fun names? => match names? with
      | some names => .done (.ended (.ok names))
      | none => .done (.draining (.start site)) := by
  refine congrArg (Bind.bind _) (funext fun names? => ?_)
  cases names? <;> rfl

theorem Expansion.turn_eq (pattern : String) (drain : Drain) :
    turn pattern (.draining drain) = drain.fetch >>= fun step => match step with
      | .more drain => .done (.draining drain)
      | .complete names => keep drain.site pattern names >>= fun logGroups =>
          .done (.ended (.ok logGroups))
      | .failed failure => .done (.ended (.error (fetchError drain.site failure))) := by
  refine congrArg (Bind.bind _) (funext fun step => ?_)
  cases step <;> rfl

end LogGroups

open LogGroups

namespace Execution

variable {execution : Execution} {past : List Signal} {σ : Type} (service : Service σ)

theorem Course.silent {moment next : Moment} (course : execution.Course past moment)
    (move : execution.Moves moment none next) : execution.Course past next := by
  simpa using course.moves move

theorem Course.runs {α : Type} (further : α → Task α) (moment : (String → Strand α) → Moment)
    {region : String}
    (moves : ∀ work signal? strand, Strand.Step further (work region) signal? strand →
      execution.Moves (moment work) signal? (moment (Function.update work region strand)))
    {work : String → Strand α} {task : Task α} (course : execution.Course past (moment work))
    (present : work region = .ready task) (state : σ) :
    execution.Course (past ++ (task.exchanges service state).flatMap Exchange.signals)
      (moment (Function.update work region (.ready (.done (task.run service state).1)))) := by
  refine Strand.run_of_step further
    (p := fun past strand => execution.Course past (moment (Function.update work region strand)))
    ?_ service ?_ state
  · intro past strand signal? next course step
    rw [← Function.update_self region strand work] at step
    have moved := course.moves (moves _ signal? next step)
    rwa [Function.update_idem] at moved
  · rwa [← present, Function.update_eq_self]

theorem Course.connects {work : String → Strand (Except QueryError Unit)} {region : String}
    {task : Task (Except QueryError Unit)} (course : execution.Course past (.connecting work))
    (asked : region ∈ execution.query.regions) (present : work region = .ready task) (state : σ) :
    execution.Course (past ++ (task.exchanges service state).flatMap Exchange.signals)
      (.connecting (Function.update work region (.ready (.done (task.run service state).1)))) :=
  course.runs service .done .connecting (fun work => .connects work region asked) present state

theorem Course.expands {work : String → Strand Expansion} {region : String}
    {task : Task Expansion} (course : execution.Course past (.expanding work))
    (asked : region ∈ execution.query.regions) (present : work region = .ready task) (state : σ) :
    execution.Course (past ++ (task.exchanges service state).flatMap Exchange.signals)
      (.expanding (Function.update work region (.ready (.done (task.run service state).1)))) :=
  course.runs service (Expansion.turn execution.query.logGroups) .expanding
    (fun work => .expands work region asked) present state

theorem Course.goes {task : Task Stage} (course : execution.Course past (.alone (.ready task)))
    (state : σ) :
    execution.Course (past ++ (task.exchanges service state).flatMap Exchange.signals)
      (.alone (.ready (.done (task.run service state).1))) :=
  Strand.run_of_step execution.turn (p := fun past strand =>
    execution.Course past (.alone strand))
    (fun course step => course.moves (.goes _ _ _ step)) service course state

variable (execution) in
/-- What comes of asking all regions for access. -/
def accessed : Except QueryError Unit → Moment
  | .ok () => .expanding fun region =>
      .ready (Expansion.start (execution.site region) execution.query.logGroups)
  | .error e => .alone (.ready (.done (.ended (.error e))))

theorem connectAll_cons (region : String) (rest : List String) :
    execution.connectAll (region :: rest) =
      Task.ask (.connect (execution.site region)) >>= fun answer : Except QueryError Unit =>
        match answer with
        | .error e => .done (.error e)
        | .ok () => execution.connectAll rest := by
  refine congrArg (Task.call _) (funext fun answer => ?_)
  cases answer <;> rfl

theorem Course.connectAll {work : String → Strand (Except QueryError Unit)} {rest : List String}
    (course : execution.Course past (.connecting work)) (distinct : rest.Nodup)
    (asked : ∀ region ∈ rest, region ∈ execution.query.regions)
    (fresh : ∀ region ∈ rest, work region = .ready (Task.ask (.connect (execution.site region))))
    (granted : ∀ region ∈ execution.query.regions, region ∉ rest →
      work region = .ready (.done (.ok ()))) (state : σ) :
    execution.Course
      (past ++ ((execution.connectAll rest).exchanges service state).flatMap Exchange.signals)
      (execution.accessed ((execution.connectAll rest).run service state).1) := by
  induction rest generalizing work past state with
  | nil =>
      have all := fun region asked => granted region asked List.not_mem_nil
      simpa [Execution.connectAll, accessed] using course.silent (.connected work all)
  | cons region rest ih =>
      obtain ⟨here, others⟩ := List.forall_mem_cons.mp asked
      obtain ⟨unlike, distinct⟩ := List.nodup_cons.mp distinct
      have told := course.connects service here (fresh region List.mem_cons_self) state
      rw [connectAll_cons, Task.exchanges_bind, Task.run_bind_eq, List.flatMap_append,
        ← List.append_assoc]
      cases answer : ((Task.ask (.connect (execution.site region))).run service state).1 with
      | error e =>
          rw [answer] at told
          simpa [accessed] using told.silent
            (.refused _ region here e (Function.update_self _ _ _))
      | ok =>
          rw [answer] at told
          refine ih told distinct others ?_ ?_ _
          · intro other hmem
            have ne : other ≠ region := fun same => unlike (same ▸ hmem)
            rw [Function.update_of_ne ne]
            exact fresh other (List.mem_cons_of_mem _ hmem)
          · intro other hmem new
            by_cases same : other = region
            · rw [same, Function.update_self]
            · rw [Function.update_of_ne same]
              exact granted other hmem (by simp [same, new])

variable (execution) in
/-- Whether the log groups of some regions are found while the others have not begun. -/
structure Halfway (work : String → Strand Expansion) (found : List RegionLogGroups)
    (rest : List String) : Prop where
  order : found.map RegionLogGroups.region ++ rest = execution.query.regions
  known : ∀ entry ∈ found, work entry.region = .ready (.done (.ended (.ok entry.logGroups)))
  fresh : ∀ region ∈ rest,
    work region = .ready (Expansion.start (execution.site region) execution.query.logGroups)

variable (execution) in
/-- Where an execution that takes the regions one after the other stops. -/
inductive InTurn (past : List Signal) : Stage → Prop
  | alone (stage : Stage) (course : execution.Course past (.alone (.ready (.done stage)))) :
      InTurn past stage
  | draining (found : List RegionLogGroups) (drain : Drain) (rest : List String) (region : String)
      (work : String → Strand Expansion) (site : drain.site = execution.site region)
      (halfway : execution.Halfway work found (region :: rest))
      (course : execution.Course past (.expanding
        (Function.update work region (.ready (.done (.draining drain)))))) :
      InTurn past (.draining found drain rest)

section Halfway

variable {work : String → Strand Expansion} {found : List RegionLogGroups} {region : String}
  {rest : List String}

theorem Halfway.asked (h : execution.Halfway work found (region :: rest)) :
    region ∈ execution.query.regions := by
  rw [← h.order]
  exact List.mem_append_right _ List.mem_cons_self

theorem Halfway.next (h : execution.Halfway work found (region :: rest))
    (distinct : execution.query.regions.Nodup) (names : List String) :
    execution.Halfway (Function.update work region (.ready (.done (.ended (.ok names)))))
      (found ++ [⟨region, names⟩]) rest := by
  rw [← h.order, List.nodup_append] at distinct
  obtain ⟨_, later, apart⟩ := distinct
  refine ⟨by simp [← h.order], ?_, fun other hmem => ?_⟩
  · refine List.forall_mem_append.mpr ⟨fun entry hmem => ?_, List.forall_mem_singleton.mpr ?_⟩
    · have ne : entry.region ≠ region := apart _ (List.mem_map_of_mem hmem) _ List.mem_cons_self
      rw [Function.update_of_ne ne]
      exact h.known entry hmem
    · exact Function.update_self _ _ _
  · have ne : other ≠ region := fun same => (List.nodup_cons.mp later).1 (same ▸ hmem)
    rw [Function.update_of_ne ne]
    exact h.fresh other (List.mem_cons_of_mem _ hmem)

theorem Halfway.submits (h : execution.Halfway work found [])
    (course : execution.Course past (.expanding work)) :
    execution.Course past (.alone (.ready (execution.submit found))) := by
  have order : found.map RegionLogGroups.region = execution.query.regions := by
    simpa using h.order
  have all : ∀ region ∈ execution.query.regions, ∃ names,
      work region = .ready (.done (.ended (.ok names))) := by
    rw [← order]
    exact List.forall_mem_map.mpr fun entry hmem => ⟨_, h.known entry hmem⟩
  choose! names all using all
  have whole : execution.query.regions.map (fun region => ⟨region, names region⟩) = found := by
    rw [← order, List.map_map]
    refine (List.map_congr_left fun entry hmem => ?_).trans (List.map_id found)
    have named := all entry.region (order ▸ List.mem_map_of_mem hmem)
    rw [h.known entry hmem] at named
    cases entry
    simp_all
  exact whole ▸ course.silent (.expanded work names all)

end Halfway

theorem expand_cons (found : List RegionLogGroups) (region : String) (rest : List String) :
    execution.expand found (region :: rest) =
      lookUp (execution.site region) execution.query.logGroups >>= fun names? =>
        match names? with
        | some names => execution.expand (found ++ [⟨region, names⟩]) rest
        | none => .done (.draining found (.start (execution.site region)) rest) := by
  refine congrArg (Bind.bind _) (funext fun names? => ?_)
  cases names? <;> rfl

theorem Course.expand {work : String → Strand Expansion} {found : List RegionLogGroups}
    {rest : List String} (distinct : execution.query.regions.Nodup)
    (halfway : execution.Halfway work found rest)
    (course : execution.Course past (.expanding work)) (state : σ) :
    execution.InTurn
      (past ++ ((execution.expand found rest).exchanges service state).flatMap Exchange.signals)
      ((execution.expand found rest).run service state).1 := by
  induction rest generalizing work found past state with
  | nil => exact .alone _ ((halfway.submits course).goes service state)
  | cons region rest ih =>
      have told :=
        course.expands service halfway.asked (halfway.fresh region List.mem_cons_self) state
      rw [Expansion.start_eq, Task.exchanges_bind, Task.run_bind_eq] at told
      rw [expand_cons, Task.exchanges_bind, Task.run_bind_eq, List.flatMap_append,
        ← List.append_assoc]
      cases looked :
        ((lookUp (execution.site region) execution.query.logGroups).run service state).1 with
      | none =>
          rw [looked] at told
          refine .draining found _ rest region work rfl halfway ?_
          simpa using told
      | some names =>
          rw [looked] at told
          exact ih (halfway.next distinct names) (by simpa using told) _

theorem start_eq :
    execution.start = execution.connectAll execution.query.regions >>= fun outcome =>
      match outcome with
      | .error e => .done (.ended (.error e))
      | .ok () => execution.expand [] execution.query.regions := by
  refine congrArg (Bind.bind _) (funext fun outcome => ?_)
  cases outcome <;> rfl

theorem opening_course (distinct : execution.query.regions.Nodup) (state : σ) :
    execution.InTurn ((execution.opening service state).transcript.flatMap Exchange.signals)
      (execution.opening service state).stage := by
  have told := Course.begins.connectAll service distinct (fun _ => id) (fun _ _ => rfl)
    (fun region asked new => absurd asked new) state
  rw [List.nil_append] at told
  rw [opening, start_eq, Task.exchanges_bind, Task.run_bind_eq, List.flatMap_append]
  cases outcome : ((execution.connectAll execution.query.regions).run service state).1 with
  | error e =>
      rw [outcome] at told
      exact .alone _ (by simpa [accessed] using told)
  | ok =>
      rw [outcome] at told
      refine Course.expand service distinct ⟨rfl, ?_, fun _ _ => rfl⟩ told _
      simp

theorem turn_draining (found : List RegionLogGroups) (drain : Drain) (rest : List String) :
    execution.turn (.draining found drain rest) = drain.fetch >>= fun step =>
      match step with
      | .more drain => .done (.draining found drain rest)
      | .failed failure => .done (.ended (.error (fetchError drain.site failure)))
      | .complete names => keep drain.site execution.query.logGroups names >>= fun logGroups =>
          execution.expand (found ++ [⟨drain.site.region, logGroups⟩]) rest := by
  refine congrArg (Bind.bind _) (funext fun step => ?_)
  cases step <;> rfl

theorem advance_course (distinct : execution.query.regions.Nodup) {standing : Standing σ}
    (h : execution.InTurn (standing.transcript.flatMap Exchange.signals) standing.stage) :
    execution.InTurn ((execution.advance service standing).transcript.flatMap Exchange.signals)
      (execution.advance service standing).stage := by
  obtain ⟨stage, state, transcript⟩ := standing
  dsimp only [advance] at h ⊢
  rw [List.flatMap_append]
  cases h with
  | alone _ course =>
      have turned := course.silent (.goes _ _ _ (.goesOn stage))
      exact .alone _ (turned.goes service state)
  | draining found drain rest region work site halfway course =>
      have goesOn : Strand.Step (Expansion.turn execution.query.logGroups)
          (.ready (.done (.draining drain))) none _ := .goesOn _
      rw [← Function.update_self region (.ready (.done (.draining drain))) work] at goesOn
      have turned := course.silent (.expands _ region halfway.asked _ _ goesOn)
      rw [Function.update_idem] at turned
      have told := turned.expands service halfway.asked (Function.update_self _ _ _) state
      rw [Function.update_idem, Expansion.turn_eq, Task.exchanges_bind, Task.run_bind_eq,
        List.flatMap_append, ← List.append_assoc] at told
      rw [turn_draining, Task.exchanges_bind, Task.run_bind_eq, List.flatMap_append,
        ← List.append_assoc]
      cases step : (drain.fetch.run service state).1 with
      | more next =>
          rw [step] at told
          have same : next.site = drain.site := Drain.site_of_more step
          refine .draining found next rest region work (same.trans site) halfway ?_
          simpa using told
      | failed failure =>
          rw [step] at told
          have refused :=
            told.silent (.unlisted _ region halfway.asked _ (Function.update_self _ _ _))
          exact .alone _ (by simpa using refused)
      | complete names =>
          rw [step] at told
          simp only [Task.exchanges_bind, Task.run_bind_eq, List.flatMap_append,
            ← List.append_assoc]
            at told ⊢
          have same : drain.site.region = region := congrArg Site.region site
          rw [same]
          exact Course.expand service distinct (halfway.next distinct _) (by simpa using told) _

theorem InTurn.course {stage : Stage} (h : execution.InTurn past stage) :
    ∃ moment, execution.Course past moment := by
  cases h with
  | alone _ course => exact ⟨_, course⟩
  | draining _ _ _ _ _ _ _ course => exact ⟨_, course⟩

theorem inTurn_after (distinct : execution.query.regions.Nodup) (turns : Nat) (state : σ) :
    let standing := execution.after service turns (execution.opening service state)
    execution.InTurn (standing.transcript.flatMap Exchange.signals) standing.stage :=
  execution.after_induction service
    (p := fun standing =>
      execution.InTurn (standing.transcript.flatMap Exchange.signals) standing.stage)
    (opening_course service distinct state) (fun _ => advance_course service distinct) turns

end Execution

end LogQuery
