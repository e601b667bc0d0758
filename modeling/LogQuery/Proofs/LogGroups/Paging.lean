import LogQuery.Proofs.LogGroups.Searches
import Mathlib.Logic.Function.Iterate

/-!
Catalogs fetched page by page. How many pages there are is up to the service: a fetch goes along
the chain of calls each of which is made with the token that the page before it gives, and it
comes to an end if and only if that chain does.
-/

namespace LogQuery

open LogGroups

variable {σ : Type}

/-- Whether a page has none behind it: it gives no token for one, or an empty token. -/
def CatalogPage.IsLast (page : CatalogPage) : Prop :=
  page.nextToken? = none ∨ page.nextToken? = some ""

theorem CatalogPage.isLast_iff {page : CatalogPage} : page.IsLast ↔ page.following? = none := by
  rw [IsLast, following?]
  cases page.nextToken? <;> simp

namespace LogGroups

theorem Drain.site_of_absorb {drain further : Drain} {answer : Except CallFailure CatalogPage}
    (absorbed : drain.absorb answer = .more further) : further.site = drain.site := by
  cases answer with
  | error failure => cases absorbed
  | ok page =>
      cases following : page.following? with
      | none =>
          rw [absorb_of_last following] at absorbed
          cases absorbed
      | some token =>
          rw [absorb_of_following (by rw [following]; rfl)] at absorbed
          cases absorbed
          rfl

/-- A call for a page: the state of the service before it, and the token that it is made with. -/
structure PageCall (σ : Type) where
  state : σ
  token? : Option String

namespace PageCall

variable (service : Service σ) (site : Site)

def answer (call : PageCall σ) : Except CallFailure CatalogPage :=
  (service.answer call.state (.catalogPage site call.token?)).1

def endState (call : PageCall σ) : σ :=
  (service.answer call.state (.catalogPage site call.token?)).2

def exchange (call : PageCall σ) : Exchange :=
  ⟨.catalogPage site call.token?, call.answer service site⟩

/-- The call for the page behind the one that a call gives. There is none if that page is the
last, or if the call fails. -/
def next? (call : PageCall σ) : Option (PageCall σ) :=
  match call.answer service site with
  | .error _ => none
  | .ok page => page.nextToken?.bind fun token =>
      if token = "" then none else some ⟨call.endState service site, some token⟩

/-- The calls for the pages of a catalog, numbered from zero, where the first finds the service
in `state`. -/
def chain (state : σ) : ℕ → Option (PageCall σ)
  | 0 => some ⟨state, none⟩
  | n + 1 => (chain state n).bind (next? service site)

/-- The first calls of the chain, with their answers. -/
def chainExchanges (state : σ) (count : ℕ) : List Exchange :=
  (List.range count).filterMap fun n => (chain service site state n).map (exchange service site)

variable {service site} {call : PageCall σ} {state : σ} {n : ℕ}

theorem next?_of_error {failure : CallFailure}
    (fails : call.answer service site = .error failure) :
    call.next? service site = none := by
  simp only [next?, fails]

theorem next?_of_ok {page : CatalogPage} (gives : call.answer service site = .ok page) :
    call.next? service site =
      page.following?.map fun token => ⟨call.endState service site, some token⟩ := by
  simp only [next?, gives, CatalogPage.following?]
  cases page.nextToken? with
  | none => rfl
  | some token => by_cases empty : token = "" <;> simp [Option.filter, empty]

theorem next?_eq_none_iff :
    call.next? service site = none ↔
      (∃ page, call.answer service site = .ok page ∧ page.IsLast) ∨
        ∃ failure, call.answer service site = .error failure := by
  cases answered : call.answer service site with
  | error failure => simp [next?_of_error answered]
  | ok page => simp [next?_of_ok answered, CatalogPage.isLast_iff]

theorem exists_page_of_next? {next : PageCall σ} (goes : call.next? service site = some next) :
    ∃ page, call.answer service site = .ok page ∧ page.following?.isSome ∧
      next = ⟨call.endState service site, page.following?⟩ := by
  cases answered : call.answer service site with
  | error failure =>
      rw [next?_of_error answered] at goes
      cases goes
  | ok page =>
      rw [next?_of_ok answered] at goes
      obtain ⟨token, following, rfl⟩ := Option.map_eq_some_iff.mp goes
      exact ⟨page, rfl, by rw [following]; rfl, by rw [following]⟩

theorem chain_succ (call_mem : call ∈ chain service site state n) :
    chain service site state (n + 1) = call.next? service site := by
  rw [chain, call_mem, Option.bind_some]

theorem exists_last_of_chain_eq_none (ended : chain service site state n = none) :
    ∃ m < n, ∃ call ∈ chain service site state m, call.next? service site = none := by
  induction n with
  | zero => cases ended
  | succ n ih =>
      cases before : chain service site state n with
      | some call => exact ⟨n, n.lt_succ_self, call, before, (chain_succ before).symm.trans ended⟩
      | none =>
          obtain ⟨m, below, last⟩ := ih before
          exact ⟨m, Nat.lt_succ_of_lt below, last⟩

theorem chainExchanges_succ (state : σ) (n : ℕ) :
    chainExchanges service site state (n + 1) =
      chainExchanges service site state n ++
        ((chain service site state n).map (exchange service site)).toList := by
  rw [chainExchanges, List.range_succ, List.filterMap_append, chainExchanges]
  cases reached : chain service site state n <;> simp [reached]

theorem length_chainExchanges (call_mem : call ∈ chain service site state n) :
    (chainExchanges service site state (n + 1)).length = n + 1 := by
  induction n generalizing call with
  | zero => rfl
  | succ n ih =>
      obtain ⟨before, before_mem, -⟩ := Option.bind_eq_some_iff.mp call_mem
      rw [chainExchanges_succ, call_mem, List.length_append, ih before_mem]
      rfl

theorem flatMap_listedNames_succ (call_mem : call ∈ chain service site state n)
    {page : CatalogPage} (gives : call.answer service site = .ok page) :
    (chainExchanges service site state (n + 1)).flatMap Exchange.listedNames =
      (chainExchanges service site state n).flatMap Exchange.listedNames ++ page.names := by
  have listed : (call.exchange service site).listedNames = page.names := by
    rw [exchange, gives]
    rfl
  rw [chainExchanges_succ, call_mem, List.flatMap_append]
  simp [listed]

end PageCall

/-- How far a fetch has come: what the pages make of the catalog, the state of the service, and
all calls so far with their answers. -/
structure Fetch (σ : Type) where
  step : DrainStep
  state : σ
  calls : List Exchange

namespace Fetch

open PageCall

def opening (site : Site) (state : σ) : Fetch σ where
  step := .more (.start site)
  state := state
  calls := []

variable (service : Service σ)

/-- The fetch after another page. -/
def advance (fetch : Fetch σ) : Fetch σ :=
  match fetch.step with
  | .more drain =>
    { step := (drain.fetch.run service fetch.state).1
      state := (drain.fetch.run service fetch.state).2
      calls := fetch.calls ++ drain.fetch.exchanges service fetch.state }
  | _ => fetch

def after (pages : ℕ) (fetch : Fetch σ) : Fetch σ :=
  (advance service)^[pages] fetch

/-- What the fetch returns, if it is over. -/
def outcome? (fetch : Fetch σ) : Option (Except CallFailure (List String)) :=
  match fetch.step with
  | .more _ => none
  | .complete names => some (.ok names)
  | .failed failure => some (.error failure)

theorem after_succ (pages : ℕ) (fetch : Fetch σ) :
    after service (pages + 1) fetch = advance service (after service pages fetch) :=
  Function.iterate_succ_apply' _ _ _

theorem after_advance (pages : ℕ) (fetch : Fetch σ) :
    after service pages (advance service fetch) = after service (pages + 1) fetch :=
  (Function.iterate_succ_apply _ _ _).symm

theorem advance_of_ended {fetch : Fetch σ} (ended : fetch.outcome?.isSome) :
    advance service fetch = fetch := by
  obtain ⟨step, state, calls⟩ := fetch
  cases step with
  | more drain => cases ended
  | complete names => rfl
  | failed failure => rfl

theorem after_of_ended {fetch : Fetch σ} (ended : fetch.outcome?.isSome) (pages : ℕ) :
    after service pages fetch = fetch :=
  Function.iterate_fixed (advance_of_ended service ended) pages

variable {service} {site : Site} {state : σ} {call : PageCall σ} {n : ℕ}

/-- What has been fetched before a call of the chain. -/
def drainAt (service : Service σ) (site : Site) (state : σ) (n : ℕ) (call : PageCall σ) :
    Drain where
  site := site
  names := (chainExchanges service site state n).flatMap Exchange.listedNames
  token? := call.token?
  pages := n

/-- A fetch that is about to make a call of the chain. -/
def upTo (service : Service σ) (site : Site) (state : σ) (n : ℕ) (call : PageCall σ) :
    Fetch σ where
  step := .more (drainAt service site state n call)
  state := call.state
  calls := chainExchanges service site state n

/-- A fetch that has just made a call of the chain. -/
def past (service : Service σ) (site : Site) (state : σ) (n : ℕ) (call : PageCall σ) :
    Fetch σ where
  step := (drainAt service site state n call).absorb (call.answer service site)
  state := call.endState service site
  calls := chainExchanges service site state (n + 1)

theorem advance_upTo (call_mem : call ∈ chain service site state n) :
    advance service (upTo service site state n call) = past service site state n call := by
  rw [past, chainExchanges_succ, call_mem]
  rfl

theorem past_of_next? {next : PageCall σ} (call_mem : call ∈ chain service site state n)
    (goes : call.next? service site = some next) :
    past service site state n call = upTo service site state (n + 1) next := by
  obtain ⟨page, gives, more, rfl⟩ := exists_page_of_next? goes
  rw [past, upTo, gives, Drain.absorb_of_following more, drainAt, drainAt,
    flatMap_listedNames_succ call_mem gives]
  rfl

theorem outcome?_past_of_last (call_mem : call ∈ chain service site state n) {page : CatalogPage}
    (gives : call.answer service site = .ok page) (last : page.IsLast) :
    (past service site state n call).outcome? =
      some (.ok ((chainExchanges service site state (n + 1)).flatMap Exchange.listedNames)) := by
  rw [past, gives, Drain.absorb_of_last (CatalogPage.isLast_iff.mp last),
    flatMap_listedNames_succ call_mem gives]
  rfl

theorem outcome?_past_of_failure {failure : CallFailure}
    (fails : call.answer service site = .error failure) :
    (past service site state n call).outcome? =
      some (.error (s!"Failed to fetch log group page {n + 1}" :: failure)) := by
  rw [past, fails]
  rfl

theorem isSome_outcome?_past (call_mem : call ∈ chain service site state n)
    (last : call.next? service site = none) :
    (past service site state n call).outcome?.isSome := by
  rcases next?_eq_none_iff.mp last with ⟨page, gives, is_last⟩ | ⟨failure, fails⟩
  · rw [outcome?_past_of_last call_mem gives is_last]
    rfl
  · rw [outcome?_past_of_failure fails]
    rfl

/-- A fetch goes along the chain: with each page it has made one more of its calls. -/
theorem after_of_chain (call_mem : call ∈ chain service site state n) :
    after service n (opening site state) = upTo service site state n call := by
  induction n generalizing call with
  | zero =>
      cases call_mem
      rfl
  | succ n ih =>
      -- the call before this one has given a page with a token, and the fetch goes on with that
      obtain ⟨before, before_mem, goes⟩ := Option.bind_eq_some_iff.mp call_mem
      rw [after_succ, ih before_mem, advance_upTo before_mem, past_of_next? before_mem goes]

theorem after_of_last (call_mem : call ∈ chain service site state n)
    (last : call.next? service site = none) {turns : ℕ} (later : n < turns) :
    after service turns (opening site state) = past service site state n call := by
  obtain ⟨further, rfl⟩ := Nat.exists_eq_add_of_le' later
  have split : after service (further + (n + 1)) (opening site state) =
      after service further (after service (n + 1) (opening site state)) :=
    Function.iterate_add_apply _ _ _ _
  rw [split, after_succ, after_of_chain call_mem, advance_upTo call_mem,
    after_of_ended service (isSome_outcome?_past call_mem last)]

theorem isSome_outcome?_iff (turns : ℕ) :
    (after service turns (opening site state)).outcome?.isSome ↔
    chain service site state turns = none := by
  cases reached : chain service site state turns with
  | some call => simp [after_of_chain reached, upTo, outcome?]
  | none =>
      obtain ⟨n, before, call, call_mem, last⟩ := exists_last_of_chain_eq_none reached
      simp [after_of_last call_mem last before, isSome_outcome?_past call_mem last]

theorem calls_after (turns : ℕ) :
    (after service turns (opening site state)).calls =
      chainExchanges service site state turns := by
  induction turns with
  | zero => rfl
  | succ turns ih =>
      rw [after_succ, chainExchanges_succ]
      cases reached : chain service site state turns with
      | some call =>
          rw [after_of_chain reached, advance_upTo reached, past, chainExchanges_succ, reached]
      | none =>
          rw [advance_of_ended service ((isSome_outcome?_iff turns).mpr reached), ih]
          exact (List.append_nil _).symm

variable (service)

/-- What the log groups of a pattern turn out to be once a fetch is over. A catalog that has been
fetched is kept. -/
def expansion? (pattern : String) (site : Site) (fetch : Fetch σ) :
    Option (Except QueryError (List String) × σ) :=
  fetch.outcome?.map fun
    | .ok names => (.ok (matchCatalog (segments pattern) names),
        (service.answer fetch.state (.keepCatalog site names)).2)
    | .error failure => (.error (fetchError site failure), fetch.state)

theorem run_draining (pattern : String) (turns : ℕ) (drain : Drain) (state : σ)
    (calls : List Exchange) :
    Expansion.run service pattern turns (.draining drain) state =
      (after service turns ⟨.more drain, state, calls⟩).expansion? service pattern
        drain.site := by
  induction turns generalizing drain state calls with
  | zero => rfl
  | succ turns ih =>
      rw [Expansion.run, Expansion.turn_draining, Task.run_call, ← after_advance]
      have advanced : advance service ⟨.more drain, state, calls⟩ =
          { step := drain.absorb (service.answer state (.catalogPage drain.site drain.token?)).1
            state := (service.answer state (.catalogPage drain.site drain.token?)).2
            calls := calls ++ drain.fetch.exchanges service state } := rfl
      rw [advanced]
      cases absorbed : drain.absorb
        (service.answer state (.catalogPage drain.site drain.token?)).1 with
      | more further =>
          rw [← Drain.site_of_absorb absorbed]
          exact ih further _ _
      -- the search is over and so is the fetch, whatever turns are left
      | complete names =>
          rw [after_of_ended service rfl]
          cases turns <;> rfl
      | failed failure =>
          rw [after_of_ended service rfl]
          cases turns <;> rfl

end Fetch

/-- The calls of a fetch are those of the chain of pages, each made once. It returns if and only
if the chain comes to a last page or to a call that fails. -/
theorem fetch_follows_chain (service : Service σ) (site : Site) (state : σ) :
    let chain := PageCall.chain service site state
    let fetched := fun turns => (Fetch.opening site state).after service turns
    (∀ turns, (fetched turns).calls =
      (List.range turns).filterMap fun n => (chain n).map (PageCall.exchange service site)) ∧
    ((∃ turns, (fetched turns).outcome?.isSome) ↔ ∃ n, ∃ call ∈ chain n,
      (∃ page, call.answer service site = .ok page ∧ page.IsLast) ∨
        ∃ failure, call.answer service site = .error failure) ∧
    (∀ n, ∀ call ∈ chain n, ∀ page, call.answer service site = .ok page → page.IsLast →
      ∀ turns > n, (fetched turns).calls.length = n + 1 ∧
        (fetched turns).outcome? =
          some (.ok ((fetched turns).calls.flatMap Exchange.listedNames))) ∧
    (∀ n, ∀ call ∈ chain n, ∀ failure, call.answer service site = .error failure →
      ∀ turns > n, (fetched turns).calls.length = n + 1 ∧
        (fetched turns).outcome? =
          some (.error (s!"Failed to fetch log group page {n + 1}" :: failure))) ∧
    ∀ pattern turns, Expansion.run service pattern turns (.draining (.start site)) state =
      (fetched turns).expansion? service pattern site := by
  intro chain fetched
  refine ⟨Fetch.calls_after, ?_, ?_, ?_, fun pattern turns =>
    Fetch.run_draining service pattern turns ..⟩
  · simp only [← PageCall.next?_eq_none_iff]
    constructor
    · rintro ⟨turns, returns⟩
      obtain ⟨n, -, ends⟩ :=
        PageCall.exists_last_of_chain_eq_none ((Fetch.isSome_outcome?_iff turns).mp returns)
      exact ⟨n, ends⟩
    · rintro ⟨n, call, call_mem, last⟩
      exact ⟨n + 1,
        (Fetch.isSome_outcome?_iff (n + 1)).mpr ((PageCall.chain_succ call_mem).trans last)⟩
  · intro n call call_mem page gives is_last turns later
    have last : call.next? service site = none :=
      PageCall.next?_eq_none_iff.mpr (.inl ⟨page, gives, is_last⟩)
    have settled : fetched turns = .past service site state n call :=
      Fetch.after_of_last call_mem last later
    rw [settled]
    exact ⟨PageCall.length_chainExchanges call_mem,
      Fetch.outcome?_past_of_last call_mem gives is_last⟩
  · intro n call call_mem failure fails turns later
    have last : call.next? service site = none :=
      PageCall.next?_eq_none_iff.mpr (.inr ⟨failure, fails⟩)
    have settled : fetched turns = .past service site state n call :=
      Fetch.after_of_last call_mem last later
    rw [settled]
    exact ⟨PageCall.length_chainExchanges call_mem, Fetch.outcome?_past_of_failure fails⟩

end LogGroups

namespace Simulation.World

open LogGroups

/-- Two regions: one lists a page without names and ends with an empty token, the other fails. -/
def pager : World :=
  start
    [("r", listing
        [⟨⟨["/b"], some "1"⟩, none⟩, ⟨⟨[], some "2"⟩, none⟩, ⟨⟨["/a"], some ""⟩, none⟩]),
      ("q", listing [⟨⟨["/b"], some "1"⟩, none⟩, ⟨⟨["/a"], none⟩, some ["denied"]⟩])]
    []

theorem fetch_follows_chain_pager :
    let chain (region : String) := PageCall.chain service ⟨"p", region⟩ pager
    let fetched (region : String) (turns : ℕ) :=
      (Fetch.opening ⟨"p", region⟩ pager).after service turns
    (∃ call ∈ chain "r" 2, ∃ page, call.answer service ⟨"p", "r"⟩ = .ok page ∧ page.IsLast) ∧
    (fetched "r" 7).calls.length = 3 ∧ (fetched "r" 7).outcome? = some (.ok ["/b", "/a"]) ∧
    (∃ call ∈ chain "q" 1, call.answer service ⟨"p", "q"⟩ = .error ["denied"]) ∧
    (fetched "q" 2).calls.length = 2 ∧
    (fetched "q" 2).outcome? = some (.error ["Failed to fetch log group page 2", "denied"]) := by
  intro chain fetched
  obtain ⟨call, call_mem, page, gives, is_last⟩ :
      ∃ call ∈ chain "r" 2, ∃ page, call.answer service ⟨"p", "r"⟩ = .ok page ∧ page.IsLast :=
    ⟨_, rfl, _, rfl, .inr rfl⟩
  obtain ⟨failed, failed_mem, fails⟩ :
      ∃ call ∈ chain "q" 1, call.answer service ⟨"p", "q"⟩ = .error ["denied"] :=
    ⟨_, rfl, rfl⟩
  obtain ⟨_, _, ends, _⟩ := fetch_follows_chain service ⟨"p", "r"⟩ pager
  obtain ⟨_, _, _, stops, _⟩ := fetch_follows_chain service ⟨"p", "q"⟩ pager
  obtain ⟨asked, returned⟩ := ends 2 call call_mem page gives is_last 7 (by decide)
  obtain ⟨tried, refused⟩ := stops 1 failed failed_mem ["denied"] fails 2 (by decide)
  exact ⟨⟨call, call_mem, page, gives, is_last⟩, asked, returned.trans rfl,
    ⟨failed, failed_mem, fails⟩, tried, refused⟩

end Simulation.World

end LogQuery
