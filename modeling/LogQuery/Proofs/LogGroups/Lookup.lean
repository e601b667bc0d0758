import LogQuery.LogGroups.Catalog
import LogQuery.Proofs.Transcript

namespace LogQuery.LogGroups

open Text

/-- The token that an answer gives for the page behind it. -/
def following? : Except CallFailure CatalogPage → Option String
  | .ok page => page.following?
  | .error _ => none

/-- The calls for the pages of a catalog, each with the token that the page before it gives. -/
def pageCalls (site : Site) :
    (token? : Option String) → (answers : List (Except CallFailure CatalogPage)) → List Exchange
  | _, [] => []
  | token?, answer :: answers =>
    ⟨.catalogPage site token?, answer⟩ :: pageCalls site (following? answer) answers

/-- The calls of a fetch: nothing is kept for the site, and so its pages are asked for from the
first. -/
def fetchCalls (site : Site) (answers : List (Except CallFailure CatalogPage)) : List Exchange :=
  ⟨.keptCatalog site, none⟩ :: pageCalls site none answers

def failureAt (pages : List CatalogPage) (failure : CallFailure) : CallFailure :=
  s!"Failed to fetch log group page {pages.length + 1}" :: failure

/-- The calls by which the log groups of a pattern are found at a site, where `kept?` is the
catalog that is kept for the site, and what comes of them. -/
inductive Lookup (site : Site) (pattern : String) (kept? : Option (List String)) :
    List Exchange → Option (Except QueryError (List String)) → Prop
  | literal (plain : hasWildcard pattern = false) :
      Lookup site pattern kept? [] (some (.ok (distinct (segments pattern))))
  | known (wild : hasWildcard pattern = true) (names : List String) (kept : kept? = some names) :
      Lookup site pattern kept? [⟨.keptCatalog site, some names⟩]
        (some (.ok (matchCatalog (segments pattern) names)))
  | fetched (wild : hasWildcard pattern = true) (unkept : kept? = none) (pages : List CatalogPage)
      (last : CatalogPage) (more : ∀ page ∈ pages, page.following?.isSome)
      (complete : last.following? = none) (names : List String)
      (all : names = (pages ++ [last]).flatMap CatalogPage.names) :
      Lookup site pattern kept?
        (fetchCalls site ((pages ++ [last]).map .ok) ++ [⟨.keepCatalog site names, ()⟩])
        (some (.ok (matchCatalog (segments pattern) names)))
  | failed (wild : hasWildcard pattern = true) (unkept : kept? = none) (pages : List CatalogPage)
      (more : ∀ page ∈ pages, page.following?.isSome) (failure : CallFailure) :
      Lookup site pattern kept? (fetchCalls site (pages.map .ok ++ [.error failure]))
        (some (.error (fetchError site (failureAt pages failure))))
  /-- All pages so far announce another one. -/
  | unfinished (wild : hasWildcard pattern = true) (unkept : kept? = none)
      (pages : List CatalogPage) (more : ∀ page ∈ pages, page.following?.isSome) :
      Lookup site pattern kept? (fetchCalls site (pages.map .ok)) none

/-- How far a fetch has come after a page that announces another one. -/
def Drain.next (drain : Drain) (page : CatalogPage) : Drain :=
  { drain with
    names := drain.names ++ page.names
    token? := page.following?
    pages := drain.pages + 1 }

def Drain.after (drain : Drain) (pages : List CatalogPage) : Drain :=
  pages.foldl Drain.next drain

namespace Drain

@[simp] theorem after_nil (drain : Drain) : drain.after [] = drain := rfl

@[simp] theorem after_cons (drain : Drain) (page : CatalogPage) (pages : List CatalogPage) :
    drain.after (page :: pages) = (drain.next page).after pages := rfl

theorem after_append (drain : Drain) (pages : List CatalogPage) (last : CatalogPage) :
    drain.after (pages ++ [last]) = (drain.after pages).next last :=
  List.foldl_append

@[simp] theorem site_after (drain : Drain) (pages : List CatalogPage) :
    (drain.after pages).site = drain.site := by
  induction pages generalizing drain with
  | nil => rfl
  | cons page pages ih => exact ih _

theorem names_after (drain : Drain) (pages : List CatalogPage) :
    (drain.after pages).names = drain.names ++ pages.flatMap CatalogPage.names := by
  induction pages generalizing drain with
  | nil => simp
  | cons page pages ih => simp [ih, next]

theorem pages_after (drain : Drain) (pages : List CatalogPage) :
    (drain.after pages).pages = drain.pages + pages.length := by
  induction pages generalizing drain with
  | nil => rfl
  | cons page pages ih =>
      rw [after_cons, ih, List.length_cons]
      simp only [next]
      omega

theorem absorb_of_following {drain : Drain} {page : CatalogPage} (more : page.following?.isSome) :
    drain.absorb (.ok page) = .more (drain.next page) := by
  obtain ⟨token, following⟩ := Option.isSome_iff_exists.mp more
  simp only [absorb, next, following]

theorem absorb_of_last {drain : Drain} {page : CatalogPage} (complete : page.following? = none) :
    drain.absorb (.ok page) = .complete (drain.names ++ page.names) := by
  simp only [absorb, complete]

end Drain

theorem pageCalls_append (drain : Drain) (pages : List CatalogPage)
    (answers : List (Except CallFailure CatalogPage)) :
    pageCalls drain.site drain.token? (pages.map .ok ++ answers) =
      pageCalls drain.site drain.token? (pages.map .ok) ++
        pageCalls drain.site (drain.after pages).token? answers := by
  induction pages generalizing drain with
  | nil => rfl
  | cons page pages ih => exact congrArg (List.cons _) (ih (drain.next page))

theorem fetchCalls_append (site : Site) (pages : List CatalogPage)
    (answer : Except CallFailure CatalogPage) :
    fetchCalls site (pages.map .ok ++ [answer]) =
      fetchCalls site (pages.map .ok) ++
        [⟨.catalogPage site ((Drain.start site).after pages).token?, answer⟩] :=
  congrArg (List.cons _) (pageCalls_append (.start site) pages [answer])

theorem fetchError_after (site : Site) (pages : List CatalogPage) (failure : CallFailure) :
    ((Drain.start site).after pages).absorb (.error failure) =
      .failed (failureAt pages failure) := by
  simp [Drain.absorb, failureAt, Drain.pages_after, Drain.start]

namespace Expansion

theorem start_of_wild (site : Site) {pattern : String} (wild : hasWildcard pattern = true) :
    start site pattern = .call (.keptCatalog site) fun kept? : Option (List String) =>
      match kept? with
      | some names => .done (.ended (.ok (matchCatalog (segments pattern) names)))
      | none => .done (.draining (.start site)) := by
  unfold start lookUp
  rw [if_pos wild]
  refine congrArg (Task.call _) (funext fun kept? => ?_)
  cases kept? <;> rfl

theorem start_of_plain (site : Site) {pattern : String} (plain : hasWildcard pattern = false) :
    start site pattern = .done (.ended (.ok (distinct (segments pattern)))) := by
  unfold start lookUp
  rw [plain]
  rfl

theorem turn_draining (pattern : String) (drain : Drain) :
    turn pattern (.draining drain) = .call (.catalogPage drain.site drain.token?) fun answer =>
      match drain.absorb answer with
      | .more drain => .done (.draining drain)
      | .complete names => .call (.keepCatalog drain.site names) fun _ =>
          .done (.ended (.ok (matchCatalog (segments pattern) names)))
      | .failed failure => .done (.ended (.error (fetchError drain.site failure))) := by
  refine congrArg (Task.call _) (funext fun answer => ?_)
  simp only [Task.bind]
  cases drain.absorb answer <;> rfl

end Expansion

/-- How far the log groups of a pattern have been found at a site: the calls that were made, with
their answers, and what is left to do. -/
inductive Finding (site : Site) (pattern : String) : List Exchange → Task Expansion → Prop
  | begins (wild : hasWildcard pattern = true) :
      Finding site pattern [] (Expansion.start site pattern)
  | drains (wild : hasWildcard pattern = true) (pages : List CatalogPage)
      (more : ∀ page ∈ pages, page.following?.isSome) :
      Finding site pattern (fetchCalls site (pages.map .ok))
        (.done (.draining ((Drain.start site).after pages)))
  | fetches (wild : hasWildcard pattern = true) (pages : List CatalogPage)
      (more : ∀ page ∈ pages, page.following?.isSome) :
      Finding site pattern (fetchCalls site (pages.map .ok))
        (Expansion.turn pattern (.draining ((Drain.start site).after pages)))
  | keeps (wild : hasWildcard pattern = true) (pages : List CatalogPage) (last : CatalogPage)
      (more : ∀ page ∈ pages, page.following?.isSome) (complete : last.following? = none)
      (names : List String) (all : names = (pages ++ [last]).flatMap CatalogPage.names) :
      Finding site pattern (fetchCalls site ((pages ++ [last]).map .ok))
        (.call (.keepCatalog site names) fun _ =>
          .done (.ended (.ok (matchCatalog (segments pattern) names))))
  | ends (kept? : Option (List String)) (calls : List Exchange)
      (outcome : Except QueryError (List String))
      (lookup : Lookup site pattern kept? calls (some outcome)) :
      Finding site pattern calls (.done (.ended outcome))

namespace Finding

variable {site : Site} {pattern : String} {calls : List Exchange}

theorem start (site : Site) (pattern : String) :
    Finding site pattern [] (Expansion.start site pattern) := by
  cases wild : hasWildcard pattern with
  | true => exact .begins wild
  | false =>
      rw [Expansion.start_of_plain site wild]
      exact .ends none [] _ (.literal wild)

theorem fetched (wild : hasWildcard pattern = true) {pages : List CatalogPage}
    (more : ∀ page ∈ pages, page.following?.isSome) (answer : Except CallFailure CatalogPage) :
    Finding site pattern (fetchCalls site (pages.map .ok ++ [answer]))
      (match ((Drain.start site).after pages).absorb answer with
      | .more drain => .done (.draining drain)
      | .complete names => .call (.keepCatalog site names) fun _ =>
          .done (.ended (.ok (matchCatalog (segments pattern) names)))
      | .failed failure => .done (.ended (.error (fetchError site failure)))) := by
  cases answer with
  | error failure =>
      rw [fetchError_after]
      exact .ends none _ _ (.failed wild rfl pages more failure)
  | ok page =>
      have answers : pages.map .ok ++ [.ok page] =
          ((pages ++ [page]).map .ok : List (Except CallFailure CatalogPage)) := by simp
      rw [answers]
      cases following : page.following? with
      | none =>
          rw [Drain.absorb_of_last following]
          refine .keeps wild pages page more following _ ?_
          simp [Drain.names_after, Drain.start]
      | some token =>
          have another : page.following?.isSome := by rw [following]; rfl
          rw [Drain.absorb_of_following another, ← Drain.after_append]
          exact .drains wild (pages ++ [page])
            (List.forall_mem_append.mpr ⟨more, by simpa using another⟩)

theorem answered {c : Call} {next : c.Answer → Task Expansion}
    (h : Finding site pattern calls (.call c next)) (answer : c.Answer) :
    Finding site pattern (calls ++ [⟨c, answer⟩]) (next answer) := by
  generalize task : Task.call c next = present at h
  cases h with
  | begins wild =>
      rw [Expansion.start_of_wild site wild] at task
      cases task
      cases answer with
      | none => exact .drains wild [] (by simp)
      | some names => exact .ends (some names) _ _ (.known wild names rfl)
  | drains => cases task
  | fetches wild pages more =>
      rw [Expansion.turn_draining] at task
      have site_eq : ((Drain.start site).after pages).site = site := Drain.site_after _ _
      rw [site_eq] at task
      cases task
      rw [← fetchCalls_append]
      exact fetched wild more answer
  | keeps wild pages last more complete names all =>
      cases task
      exact .ends none _ _ (.fetched wild rfl pages last more complete names all)
  | ends => cases task

theorem of_done {expansion : Expansion} (h : Finding site pattern calls (.done expansion)) :
    (∃ kept? outcome, expansion = .ended outcome ∧
      Lookup site pattern kept? calls (some outcome)) ∨
      ∃ pages : List CatalogPage, hasWildcard pattern = true ∧
      (∀ page ∈ pages, page.following?.isSome) ∧
        expansion = .draining ((Drain.start site).after pages) ∧
        calls = fetchCalls site (pages.map .ok) := by
  generalize task : Task.done expansion = present at h
  cases h with
  | begins wild =>
      rw [Expansion.start_of_wild site wild] at task
      cases task
  | drains wild pages more =>
      cases task
      exact .inr ⟨pages, wild, more, rfl, rfl⟩
  | fetches wild pages more =>
      rw [Expansion.turn_draining] at task
      cases task
  | keeps => cases task
  | ends kept? calls outcome lookup =>
      cases task
      exact .inl ⟨kept?, outcome, rfl, lookup⟩

theorem turned {drain : Drain} (h : Finding site pattern calls (.done (.draining drain))) :
    Finding site pattern calls (Expansion.turn pattern (.draining drain)) := by
  rcases h.of_done with ⟨_, _, ended, _⟩ | ⟨pages, wild, more, drains, rfl⟩
  · cases ended
  · rw [drains]
    exact .fetches wild pages more

/-- Whoever answers the calls of a task, the search is brought on to its end. -/
theorem run {σ : Type} {task : Task Expansion} (h : Finding site pattern calls task)
    (service : Service σ) (state : σ) :
    Finding site pattern (calls ++ task.exchanges service state)
      (.done (task.run service state).1) := by
  induction task generalizing calls state with
  | done expansion => simpa using h
  | call c next ih =>
      rw [Task.exchanges_call, Task.run_call, ← List.singleton_append, ← List.append_assoc]
      exact ih _ (h.answered _) _

end Finding

end LogQuery.LogGroups
