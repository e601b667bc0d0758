import LogQuery.LogGroups.Pattern
import LogQuery.Service.Task

/-!
Finding the log groups that a pattern names at a site. A pattern without wildcards names them
itself. Otherwise it is compared with the catalog of the site: the one that is kept from before,
or else the one that the service lists page by page, which is kept once it is complete.
-/

namespace LogQuery.LogGroups

/-- How far the pages of a catalog have been fetched. -/
structure Drain where
  site : Site
  /-- The names of the pages so far. -/
  names : List String
  /-- The token with which the next page is asked for; the first page has none. -/
  token? : Option String
  pages : Nat
deriving DecidableEq, Repr

def Drain.start (site : Site) : Drain where
  site := site
  names := []
  token? := none
  pages := 0

/-- What a page makes of a catalog. -/
inductive DrainStep where
  | more (drain : Drain)
  | complete (names : List String)
  | failed (failure : CallFailure)
deriving DecidableEq, Repr

/-- The catalog after the answer to the call for its next page. -/
def Drain.absorb (drain : Drain) : Except CallFailure CatalogPage → DrainStep
  | .error failure => .failed (s!"Failed to fetch log group page {drain.pages + 1}" :: failure)
  | .ok page =>
    let names := drain.names ++ page.names
    match page.following? with
    | some token => .more { drain with names, token? := some token, pages := drain.pages + 1 }
    | none => .complete names

def Drain.fetch (drain : Drain) : Task DrainStep := do
  let answer ← Task.ask (.catalogPage drain.site drain.token?)
  return drain.absorb answer

/-- The log groups that a pattern names at a site, if they can be told without fetching a
catalog. -/
def lookUp (site : Site) (pattern : String) : Task (Option (List String)) := do
  if hasWildcard pattern then
    let catalog? ← Task.ask (.keptCatalog site)
    return (catalog? : Option (List String)).map (matchCatalog (segments pattern))
  else
    return some (Text.distinct (segments pattern))

def keep (site : Site) (pattern : String) (catalog : List String) : Task (List String) := do
  let _ ← Task.ask (.keepCatalog site catalog)
  return matchCatalog (segments pattern) catalog

/-- The error for a catalog that could not be fetched. -/
def fetchError (site : Site) (failure : CallFailure) : QueryError :=
  .catalogFetch site.region failure.message

/-- How far the log groups of one site have been found. -/
inductive Expansion where
  | draining (drain : Drain)
  | ended (outcome : Except QueryError (List String))

namespace Expansion

/-- Begins to find the log groups that a pattern names at a site. -/
def start (site : Site) (pattern : String) : Task Expansion := do
  match ← lookUp site pattern with
  | some names => return .ended (.ok names)
  | none => return .draining (.start site)

def turn (pattern : String) : Expansion → Task Expansion
  | ended outcome => return .ended outcome
  | draining drain => do
    match ← drain.fetch with
    | .more drain => return .draining drain
    | .complete names => return .ended (.ok (← keep drain.site pattern names))
    | .failed failure => return .ended (.error (fetchError drain.site failure))

/-- Finds the log groups with calls that a service answers, within a number of pages. -/
def run {σ : Type} (service : Service σ) (pattern : String) :
    (fuel : Nat) → Expansion → σ → Option (Except QueryError (List String) × σ)
  | _, ended outcome, state => some (outcome, state)
  | 0, draining _, _ => none
  | fuel + 1, draining drain, state =>
    let (next, state) := ((draining drain).turn pattern).run service state
    next.run service pattern fuel state

end Expansion

end LogQuery.LogGroups
