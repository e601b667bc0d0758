import LogQuery.Keyed
import LogQuery.Service.Exchange

namespace LogQuery.LogGroups

abbrev Store := List (Site × List String)

namespace Store

def get? (store : Store) (site : Site) : Option (List String) :=
  store.lookup site

/-- Keeps a catalog in place of the one that was kept for its site. -/
def insert (store : Store) (site : Site) (names : List String) : Store :=
  Keyed.put site names store

theorem get?_insert_self (store : Store) (site : Site) (names : List String) :
    (store.insert site names).get? site = some names :=
  Keyed.lookup_put_self site names store

theorem get?_insert_of_ne {site other : Site} (h : other ≠ site) (store : Store)
    (names : List String) : (store.insert site names).get? other = store.get? other :=
  Keyed.lookup_put_of_ne h names store

end Store

end LogQuery.LogGroups
