import LogQuery.Proofs.LogGroups.Keeping
import LogQuery.Simulation.World
import Mathlib.Logic.Function.Iterate

namespace LogQuery

open LogGroups

variable {σ : Type}

namespace LogGroups

/-- What is to be found: the log groups of a pattern at a site. -/
structure Request where
  site : Site
  pattern : String
  /-- How many pages it may take. -/
  pages : Nat
deriving DecidableEq, Repr

/-- How far a search has come: the state of the service, and all calls so far with their
answers. -/
structure Search (σ : Type) where
  request : Request
  expansion : Expansion
  state : σ
  calls : List Exchange

def Expansion.outcome? : Expansion → Option (Except QueryError (List String))
  | .ended outcome => some outcome
  | .draining _ => none

namespace Search

variable (service : Service σ)

def opening (request : Request) (state : σ) : Search σ where
  request := request
  expansion := ((Expansion.start request.site request.pattern).run service state).1
  state := ((Expansion.start request.site request.pattern).run service state).2
  calls := (Expansion.start request.site request.pattern).exchanges service state

/-- The search after another page. -/
def advance (search : Search σ) : Search σ where
  request := search.request
  expansion := ((search.expansion.turn search.request.pattern).run service search.state).1
  state := ((search.expansion.turn search.request.pattern).run service search.state).2
  calls := search.calls ++
    (search.expansion.turn search.request.pattern).exchanges service search.state

def after (pages : Nat) (search : Search σ) : Search σ :=
  (advance service)^[pages] search

def outcome? (search : Search σ) : Option (Except QueryError (List String)) :=
  search.expansion.outcome?

theorem after_succ (pages : Nat) (search : Search σ) :
    after service (pages + 1) search = advance service (after service pages search) :=
  Function.iterate_succ_apply' _ _ _

theorem after_advance (pages : Nat) (search : Search σ) :
    after service pages (advance service search) = after service (pages + 1) search :=
  (Function.iterate_succ_apply _ _ _).symm

theorem advance_of_ended {search : Search σ} {outcome : Except QueryError (List String)}
    (h : search.expansion = .ended outcome) : advance service search = search := by
  obtain ⟨request, expansion, state, calls⟩ := search
  subst h
  simp [advance, Expansion.turn]

theorem request_after (pages : Nat) (search : Search σ) :
    (after service pages search).request = search.request := by
  induction pages with
  | zero => rfl
  | succ pages ih =>
      rw [after_succ]
      exact ih

theorem run_eq_after (pages : Nat) (search : Search σ) :
    search.expansion.run service search.request.pattern pages search.state =
      (after service pages search).outcome?.map fun outcome =>
        (outcome, (after service pages search).state) := by
  induction pages generalizing search with
  | zero =>
      obtain ⟨request, expansion, state, calls⟩ := search
      cases expansion <;> rfl
  | succ pages ih =>
      rw [← after_advance, ← ih]
      obtain ⟨request, expansion, state, calls⟩ := search
      cases expansion with
      | draining drain => rfl
      | ended outcome => cases pages <;> rfl

end Search

def find (service : Service σ) (request : Request) (state : σ) :
    Option (Except QueryError (List String) × σ) :=
  let (expansion, state) := (Expansion.start request.site request.pattern).run service state
  expansion.run service request.pattern request.pages state

/-- The search for what is requested, as far as it comes. -/
def search (service : Service σ) (request : Request) (state : σ) : Search σ :=
  .after service request.pages (.opening service request state)

/-- Searches one after the other. One that has not ended is the last. -/
def searches (service : Service σ) : List Request → σ → List (Search σ)
  | [], _ => []
  | request :: rest, state =>
    let first := search service request state
    first :: if first.outcome?.isSome then searches service rest first.state else []

/-- The first whole catalog that the service has listed of a site. -/
def firstListing? (site : Site) (past : List (Search σ)) : Option (List String) :=
  (past.filter fun search => search.request.site == site).findSome? fun search =>
    listing? search.calls

theorem firstListing?_append (site : Site) (past : List (Search σ)) (search : Search σ) :
    firstListing? site (past ++ [search]) =
      (firstListing? site past).or
        (if search.request.site = site then listing? search.calls else none) := by
  rw [firstListing?, List.filter_append, List.findSome?_append]
  by_cases same : search.request.site = site
  · rw [List.filter_cons_of_pos (by simpa using same), if_pos same]
    refine congrArg (Option.or _) ?_
    cases listed : listing? search.calls <;> simp [List.findSome?, listed]
  · rw [List.filter_cons_of_neg (by simpa using same), if_neg same]
    rfl

namespace Expansion

theorem length_start (service : Service σ) (site : Site) (pattern : String) (state : σ)
    (unended : ((start site pattern).run service state).1.outcome? = none) :
    ((start site pattern).exchanges service state).length = 1 := by
  cases wild : hasWildcard pattern with
  | false =>
      rw [start_of_plain site wild] at unended
      cases unended
  | true =>
      rw [start_of_wild site wild, Task.exchanges_call]
      generalize service.answer state (.keptCatalog site) = reply
      obtain ⟨kept?, state⟩ := reply
      cases (kept? : Option (List String)) <;> rfl

theorem length_turn (service : Service σ) (pattern : String) (drain : Drain) (state : σ)
    (unended : ((turn pattern (.draining drain)).run service state).1.outcome? = none) :
    ((turn pattern (.draining drain)).exchanges service state).length = 1 := by
  rw [turn_draining, Task.run_call] at unended
  rw [turn_draining, Task.exchanges_call]
  generalize service.answer state (.catalogPage drain.site drain.token?) = reply at unended ⊢
  cases absorbed : drain.absorb reply.1 with
  | more drain => rfl
  | complete names => simp [absorbed, outcome?] at unended
  | failed failure => simp [absorbed, outcome?] at unended

end Expansion

namespace Search

variable {service : Service σ} {catalogs : σ → Store}

/-- What a search has done when its turn is over, where the store was `store` before it. -/
structure Told (catalogs : σ → Store) (store : Store) (pages : Nat) (search : Search σ) :
    Prop where
  finding : Finding search.request.site search.request.pattern search.calls
    (.done search.expansion)
  answers : store.AnswersAll search.calls
  kept : catalogs search.state = store.after search.calls
  length (unended : search.outcome? = none) : search.calls.length = pages + 1

theorem told_opening (keeps : service.Keeps catalogs) (request : Request) (state : σ) :
    Told catalogs (catalogs state) 0 (opening service request state) where
  finding := (Finding.start request.site request.pattern).run service state
  answers := (keeps.exchanges _ state).1
  kept := (keeps.exchanges _ state).2
  length := Expansion.length_start service request.site request.pattern state

theorem Told.advance {store : Store} {pages : Nat} {search : Search σ}
    (h : Told catalogs store pages search) (keeps : service.Keeps catalogs) :
    Told catalogs store (pages + 1) (search.advance service) := by
  obtain ⟨request, expansion, state, calls⟩ := search
  cases expansion with
  | ended outcome =>
      rw [advance_of_ended service rfl]
      exact ⟨h.finding, h.answers, h.kept, nofun⟩
  | draining drain =>
      obtain ⟨answers, kept⟩ :=
        keeps.exchanges (Expansion.turn request.pattern (.draining drain)) state
      have kept_eq : catalogs state = store.after calls := h.kept
      rw [kept_eq] at answers kept
      refine ⟨h.finding.turned.run service state, ?_, ?_, fun unended => ?_⟩
      · exact (store.answersAll_append _ _).mpr ⟨h.answers, answers⟩
      · exact kept.trans (store.after_append _ _).symm
      · have before : calls.length = pages + 1 := h.length rfl
        have turn := Expansion.length_turn service request.pattern drain state unended
        rw [Search.advance, List.length_append, before, turn]

theorem told_after (keeps : service.Keeps catalogs) (request : Request) (state : σ)
    (pages : Nat) :
    Told catalogs (catalogs state) pages
      (after service pages (opening service request state)) := by
  induction pages with
  | zero => exact told_opening keeps request state
  | succ pages ih =>
      rw [after_succ]
      exact ih.advance keeps

theorem Told.lookup {store : Store} {pages : Nat} {search : Search σ}
    (h : Told catalogs store pages search) :
    Lookup search.request.site search.request.pattern (store.get? search.request.site)
      search.calls search.outcome? := by
  rcases h.finding.of_done with
    ⟨kept?, outcome, ended, lookup⟩ | ⟨fetched, wild, more, draining, calls⟩
  · rw [outcome?, ended]
    exact lookup.of_answersAll h.answers
  · have unfinished : Lookup search.request.site search.request.pattern none search.calls
        search.outcome? := by
      rw [outcome?, draining, calls]
      exact .unfinished wild rfl fetched more
    exact unfinished.of_answersAll h.answers

end Search

section

variable {service : Service σ} {catalogs : σ → Store}

/-- The state of the service after some searches. -/
def endOf (state : σ) (past : List (Search σ)) : σ :=
  (past.getLast?.map Search.state).getD state

theorem endOf_append (state : σ) (past : List (Search σ)) (search : Search σ) :
    endOf state (past ++ [search]) = search.state := by
  simp [endOf]

theorem find_eq (request : Request) (state : σ) :
    find service request state = (search service request state).outcome?.map fun outcome =>
      (outcome, (search service request state).state) :=
  Search.run_eq_after service request.pages (.opening service request state)

theorem request_search (request : Request) (state : σ) :
    (search service request state).request = request :=
  Search.request_after service request.pages _

/-- Whether the store holds for each site what it held first, or else the first whole catalog
that the service has listed of the site since. -/
def Known (catalogs : σ → Store) (first : σ) (past : List (Search σ)) : Prop :=
  ∀ site, (catalogs (endOf first past)).get? site =
    ((catalogs first).get? site).or (firstListing? site past)

/-- How a search goes when other searches are over, the first of which began in the state
`first`. -/
structure Search.Follows (service : Service σ) (catalogs : σ → Store) (first : σ)
    (past : List (Search σ)) (search : Search σ) : Prop where
  found : find service search.request (endOf first past) =
    search.outcome?.map fun outcome => (outcome, search.state)
  known : Known catalogs first past
  lookup : Lookup search.request.site search.request.pattern
    ((catalogs (endOf first past)).get? search.request.site) search.calls search.outcome?
  /-- A search that has not ended has asked for as many pages as it may. -/
  length (unended : search.outcome? = none) : search.calls.length = search.request.pages + 1
  kept : catalogs search.state = match listing? search.calls with
    | some names => (catalogs (endOf first past)).insert search.request.site names
    | none => catalogs (endOf first past)
  failed (e : QueryError) (fails : search.outcome? = some (.error e)) :
    e.region? = some search.request.site.region ∧
      catalogs search.state = catalogs (endOf first past)

theorem Search.Follows.known_next {first : σ} {past : List (Search σ)} {search : Search σ}
    (h : search.Follows service catalogs first past) :
    Known catalogs first (past ++ [search]) := by
  intro site
  rw [endOf_append, firstListing?_append, ← Option.or_assoc, ← h.known site, h.kept]
  cases listed : listing? search.calls with
  | none => simp
  | some names =>
      by_cases same : search.request.site = site
      · -- Nothing was kept for the site, or else its catalog had not been fetched.
        have unkept : (catalogs (endOf first past)).get? search.request.site = none := by
          cases kept : (catalogs (endOf first past)).get? search.request.site with
          | none => rfl
          | some _ =>
              have none := h.lookup.listing?_of_kept (by rw [kept]; rfl)
              rw [listed] at none
              cases none
        subst same
        simp [unkept, Store.get?_insert_self]
      · simp [same, Store.get?_insert_of_ne (Ne.symm same)]

theorem search_follows (keeps : service.Keeps catalogs) (request : Request) {first : σ}
    {past : List (Search σ)} (known : Known catalogs first past) :
    (search service request (endOf first past)).Follows service catalogs first past := by
  have told : Search.Told catalogs (catalogs (endOf first past)) request.pages
      (search service request (endOf first past)) :=
        Search.told_after keeps request _ request.pages
  have same : (search service request (endOf first past)).request = request :=
    request_search request (endOf first past)
  have lookup := told.lookup
  have kept := told.kept.trans (lookup.store_after _)
  refine ⟨?_, known, lookup, ?_, kept, fun e fails => ?_⟩
  · rw [same]
    exact find_eq request _
  · rw [same]
    exact told.length
  · obtain ⟨region, unlisted⟩ := lookup.of_error fails
    exact ⟨region, by rw [kept, unlisted]⟩

theorem searches_follow (keeps : service.Keeps catalogs) (requests : List Request) {first : σ}
    {past : List (Search σ)} (known : Known catalogs first past) (before : List (Search σ))
    (present : Search σ) (behind : List (Search σ))
    (split : searches service requests (endOf first past) = before ++ present :: behind) :
    present.Follows service catalogs first (past ++ before) := by
  induction requests generalizing past before with
  | nil => simp [searches] at split
  | cons request rest ih =>
      have follows := search_follows keeps request known
      rw [searches] at split
      generalize search service request (endOf first past) = head at follows split
      cases before with
      | nil =>
          obtain ⟨rfl, -⟩ := List.cons.inj split
          rwa [List.append_nil]
      | cons head' before =>
          obtain ⟨rfl, later⟩ := List.cons.inj split
          split at later
          · rw [← endOf_append first past head] at later
            have goes := ih follows.known_next before later
            rwa [List.append_assoc] at goes
          · cases before <;> cases later

theorem searches_requests (requests : List Request) (state : σ) :
    (searches service requests state).map Search.request <+: requests ∧
      ((∀ search ∈ searches service requests state, search.outcome?.isSome) →
        (searches service requests state).map Search.request = requests) := by
  induction requests generalizing state with
  | nil => exact ⟨List.prefix_rfl, fun _ => rfl⟩
  | cons request rest ih =>
      rw [searches]
      have same : (search service request state).request = request := request_search request state
      generalize search service request state = head at same
      subst same
      obtain ⟨among, all⟩ := ih head.state
      split
      · refine ⟨by simpa using among, fun ended => ?_⟩
        rw [List.map_cons, all (List.forall_mem_cons.mp ended).2]
      · refine ⟨by simp, fun ended => ?_⟩
        have := (List.forall_mem_cons.mp ended).1
        contradiction

/-- Where nothing is kept for its site, a search with wildcards fetches the whole catalog or
fails. From then on no search for the site asks for a page. -/
theorem catalogs_fetched_once (keeps : service.Keeps catalogs) (requests : List Request)
    (state : σ) :
    let past := searches service requests state
    past.map Search.request <+: requests ∧
    ((∀ search ∈ past, search.outcome?.isSome) → past.map Search.request = requests) ∧
    ∀ before search behind, past = before ++ search :: behind →
      search.Follows service catalogs state before := by
  intro past
  obtain ⟨among, all⟩ := searches_requests requests state
  refine ⟨among, all, fun before search behind split => ?_⟩
  have known : Known catalogs state [] := fun site => by simp [endOf, firstListing?]
  have follows := searches_follow keeps requests known before search behind split
  rwa [List.nil_append] at follows

end

end LogGroups

namespace Simulation.World

open LogGroups

theorem pollAll_catalogs (world : World) (queries : List StartedQuery) :
    (world.pollAll queries).2.catalogs = world.catalogs := by
  induction queries generalizing world with
  | nil => rfl
  | cons query queries ih => exact ih (world.pollOne query).2

theorem keeps : service.Keeps World.catalogs where
  answers state site := rfl
  next state c := by
    cases c with
    | results queries => exact state.pollAll_catalogs queries
    | _ => rfl

/-- A region that lists its log groups on these pages and has nothing else. -/
def listing (pages : List ScriptedPage) : ScriptedRegion where
  catalog := pages
  startFailures := []
  stopFailure? := none
  runs := []
  records := []
  history := []

/-- Two regions, one of which fails to list its log groups. -/
def lister : World :=
  start [("r", listing [⟨⟨["/a/1"], some "1"⟩, none⟩, ⟨⟨["/a/2"], none⟩, none⟩]),
    ("q", listing [⟨⟨["/a/1"], none⟩, some ["denied"]⟩])] []

def enquiries : List Request :=
  [⟨⟨"p", "r"⟩, "/A/*", 2⟩, ⟨⟨"p", "q"⟩, "*", 1⟩, ⟨⟨"p", "r"⟩, "*2,*", 0⟩, ⟨⟨"p", "q"⟩, "x,x", 0⟩]

theorem catalogs_fetched_once_lister :
    service.Keeps World.catalogs ∧
    ((searches service enquiries lister).map fun search => search.outcome?.bind Except.toOption) =
      [some ["/a/1", "/a/2"], none, some ["/a/2", "/a/1"], some ["x"]] ∧
    (searches service enquiries lister).map Search.request = enquiries :=
  ⟨keeps, by decide +kernel,
    (catalogs_fetched_once keeps enquiries lister).2.1 (by decide +kernel)⟩

end Simulation.World

end LogQuery
