import LogQuery.LogGroups.Store
import LogQuery.Proofs.LogGroups.Lookup

namespace LogQuery

open LogGroups

variable {σ : Type}

namespace LogGroups.Store

def next (store : Store) : Call → Store
  | .keepCatalog site names => store.insert site names
  | _ => store

def after (store : Store) (calls : List Exchange) : Store :=
  calls.foldl (fun store exchange => store.next exchange.call) store

/-- Whether an answer tells what is kept. -/
def Answers (store : Store) : Exchange → Prop
  | ⟨.keptCatalog site, (kept? : Option (List String))⟩ => kept? = store.get? site
  | _ => True

def AnswersAll : Store → List Exchange → Prop
  | _, [] => True
  | store, exchange :: later => store.Answers exchange ∧
    (store.next exchange.call).AnswersAll later

@[simp] theorem after_nil (store : Store) : store.after [] = store := rfl

@[simp] theorem after_cons (store : Store) (exchange : Exchange) (later : List Exchange) :
    store.after (exchange :: later) = (store.next exchange.call).after later := rfl

theorem after_append (store : Store) (earlier later : List Exchange) :
    store.after (earlier ++ later) = (store.after earlier).after later :=
  List.foldl_append

theorem answersAll_append (store : Store) (earlier later : List Exchange) :
    store.AnswersAll (earlier ++ later) ↔
      store.AnswersAll earlier ∧ (store.after earlier).AnswersAll later := by
  induction earlier generalizing store with
  | nil => simp [AnswersAll]
  | cons exchange earlier ih => simp [AnswersAll, ih, and_assoc]

theorem after_pageCalls (store : Store) (site : Site) (token? : Option String)
    (answers : List (Except CallFailure CatalogPage)) :
    store.after (pageCalls site token? answers) = store := by
  induction answers generalizing token? with
  | nil => rfl
  | cons answer answers ih => exact ih _

theorem after_fetchCalls (store : Store) (site : Site)
    (answers : List (Except CallFailure CatalogPage)) :
    store.after (fetchCalls site answers) = store :=
  store.after_pageCalls site none answers

end LogGroups.Store

/-- Whether a service keeps catalogs: it answers with what was put into the store, and no other
call changes the store. -/
structure Service.Keeps (service : Service σ) (catalogs : σ → Store) : Prop where
  answers (state : σ) (site : Site) :
    (service.answer state (.keptCatalog site)).1 = (catalogs state).get? site
  next (state : σ) (c : Call) : catalogs (service.answer state c).2 = (catalogs state).next c

namespace Service.Keeps

variable {service : Service σ} {catalogs : σ → Store}

theorem answers_exchange (keeps : service.Keeps catalogs) (state : σ) (c : Call) :
    (catalogs state).Answers ⟨c, (service.answer state c).1⟩ := by
  cases c with
  | keptCatalog site => exact keeps.answers state site
  | _ => trivial

theorem exchanges {α : Type} (keeps : service.Keeps catalogs) (task : Task α) (state : σ) :
    (catalogs state).AnswersAll (task.exchanges service state) ∧
      catalogs (task.run service state).2 =
        (catalogs state).after (task.exchanges service state) := by
  induction task generalizing state with
  | done value => exact ⟨trivial, rfl⟩
  | call c next ih =>
      obtain ⟨answered, kept⟩ := ih (service.answer state c).1 (service.answer state c).2
      rw [keeps.next] at answered kept
      exact ⟨⟨keeps.answers_exchange state c, answered⟩, kept⟩

end Service.Keeps

namespace Exchange

def listedNames : Exchange → List String
  | ⟨.catalogPage .., (.ok page : Except CallFailure CatalogPage)⟩ => page.names
  | _ => []

/-- Whether it is the last page of a catalog. -/
def completesCatalog : Exchange → Bool
  | ⟨.catalogPage .., (.ok page : Except CallFailure CatalogPage)⟩ => page.following?.isNone
  | _ => false

end Exchange

namespace LogGroups

/-- The whole catalog, if its last page is among the answers. -/
def listing? (calls : List Exchange) : Option (List String) :=
  if calls.any Exchange.completesCatalog then some (calls.flatMap Exchange.listedNames) else none

theorem listedNames_pageCalls (site : Site) (token? : Option String) (pages : List CatalogPage) :
    (pageCalls site token? (pages.map .ok)).flatMap Exchange.listedNames =
      pages.flatMap CatalogPage.names := by
  induction pages generalizing token? with
  | nil => rfl
  | cons page pages ih => exact congrArg (page.names ++ ·) (ih _)

theorem any_completesCatalog_pageCalls (site : Site) (token? : Option String)
    (answers : List (Except CallFailure CatalogPage)) :
    (pageCalls site token? answers).any Exchange.completesCatalog =
      answers.any fun answer => answer.toOption.any fun page => page.following?.isNone := by
  induction answers generalizing token? with
  | nil => rfl
  | cons answer answers ih =>
      rw [pageCalls, List.any_cons, List.any_cons, ih]
      cases answer <;> rfl

theorem listing?_pages (site : Site) {pages : List CatalogPage} {last : CatalogPage}
    (complete : last.following? = none) (names : List String) :
    listing? (fetchCalls site ((pages ++ [last]).map .ok) ++ [⟨.keepCatalog site names, ()⟩]) =
      some ((pages ++ [last]).flatMap CatalogPage.names) := by
  have whole : (pageCalls site none ((pages ++ [last]).map .ok)).any
      Exchange.completesCatalog := by
    rw [any_completesCatalog_pageCalls, List.any_eq_true]
    exact ⟨.ok last, by simp, by simp [Except.toOption, complete]⟩
  rw [listing?, fetchCalls, List.cons_append, List.any_cons, List.any_append, whole, Bool.true_or,
    Bool.or_true, if_pos rfl, List.flatMap_cons, List.flatMap_append, listedNames_pageCalls]
  exact congrArg some (List.append_nil _)

theorem listing?_of_more (site : Site) {pages : List CatalogPage}
    (more : ∀ page ∈ pages, page.following?.isSome) {rest : List (Except CallFailure CatalogPage)}
    (fails : ∀ answer ∈ rest, answer.toOption = none) :
    listing? (fetchCalls site (pages.map .ok ++ rest)) = none := by
  have none :
      (pageCalls site none (pages.map .ok ++ rest)).any Exchange.completesCatalog = false := by
    rw [any_completesCatalog_pageCalls, List.any_eq_false]
    intro answer hmem
    rcases List.mem_append.mp hmem with hmem | hmem
    · obtain ⟨page, hpage, rfl⟩ := List.mem_map.mp hmem
      simpa [Except.toOption] using Option.isSome_iff_ne_none.mp (more page hpage)
    · simp [fails answer hmem]
  rw [listing?, fetchCalls, List.any_cons, none]
  rfl

namespace Lookup

variable {site : Site} {pattern : String} {kept? : Option (List String)} {calls : List Exchange}
  {outcome? : Option (Except QueryError (List String))}

theorem store_after (h : Lookup site pattern kept? calls outcome?) (store : Store) :
    store.after calls = match listing? calls with
      | some names => store.insert site names
      | none => store := by
  cases h with
  | literal => rfl
  | known => rfl
  | fetched wild unkept pages last more complete names all =>
      rw [Store.after_append, Store.after_fetchCalls, listing?_pages site complete, all]
      rfl
  | failed wild unkept pages more failure =>
      rw [Store.after_fetchCalls, listing?_of_more site more (by simp [Except.toOption])]
  | unfinished wild unkept pages more =>
      have none : listing? (fetchCalls site (pages.map .ok ++ [])) = none :=
        listing?_of_more site more (by simp)
      rw [List.append_nil] at none
      rw [Store.after_fetchCalls, none]

theorem listing?_of_kept (h : Lookup site pattern kept? calls outcome?) (kept : kept?.isSome) :
    listing? calls = none := by
  cases h with
  | literal => rfl
  | known => rfl
  | fetched wild unkept => cases unkept ▸ kept
  | failed wild unkept => cases unkept ▸ kept
  | unfinished wild unkept => cases unkept ▸ kept

theorem of_error (h : Lookup site pattern kept? calls outcome?) {e : QueryError}
    (fails : outcome? = some (.error e)) :
    e.region? = some site.region ∧ listing? calls = none := by
  cases h with
  | literal => cases fails
  | known => cases fails
  | fetched => cases fails
  | unfinished => cases fails
  | failed wild unkept pages more failure =>
      cases fails
      exact ⟨rfl, listing?_of_more site more (by simp [Except.toOption])⟩

theorem of_answersAll (h : Lookup site pattern kept? calls outcome?) {store : Store}
    (answers : store.AnswersAll calls) :
    Lookup site pattern (store.get? site) calls outcome? := by
  cases h with
  | literal plain => exact .literal plain
  | known wild names => exact .known wild names answers.1.symm
  | fetched wild _ pages last more complete names all =>
      exact .fetched wild answers.1.symm pages last more complete names all
  | failed wild _ pages more failure => exact .failed wild answers.1.symm pages more failure
  | unfinished wild _ pages more => exact .unfinished wild answers.1.symm pages more

end Lookup

end LogGroups

end LogQuery
