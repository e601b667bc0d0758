import LogQuery.Text.Lines
import LogQuery.Toml.Reader

namespace LogQuery

open Toml

structure Config where
  /-- A command that is run before credentials are looked up. -/
  loginCommand? : Option String
  queryFolder? : Option String
  /-- Further folders in which query files can be created. -/
  extraFolders : List String
  /-- The milliseconds between two rounds of results. -/
  pollInterval : Nat
  /-- The number of catalogs of log groups that are kept. -/
  catalogCapacity : Nat
deriving DecidableEq, Repr

namespace Config

def default : Config where
  loginCommand? := none
  queryFolder? := none
  extraFolders := []
  pollInterval := 1000
  catalogCapacity := 256

def text? : Value → Option String
  | .text s => some s
  | _ => none

/-- A number that counts something. -/
def count? : Value → Option Nat
  | .integer n => if 0 ≤ n then some n.toNat else none
  | _ => none

def texts? : Value → Option (List String)
  | .array items => items.mapM text?
  | _ => none

/-- The setting of a key: nothing if its value is of the wrong kind, and `otherwise` if it is
missing. -/
def setting? {α : Type} (members : Members) (key : String) (otherwise : α)
    (read? : Value → Option α) : Option α :=
  match members.lookup key with
  | some value => read? value
  | none => some otherwise

def ofMembers? (members : Members) : Option Config := do
  return {
    loginCommand? := ← setting? members "authentication_command" default.loginCommand?
      fun value => (text? value).map some
    queryFolder? := ← setting? members "query_files_dir" default.queryFolder?
      fun value => (text? value).map some
    extraFolders := ← setting? members "extra_query_files_dirs" default.extraFolders texts?
    pollInterval := ← setting? members "poll_interval_ms" default.pollInterval count?
    catalogCapacity :=
      ← setting? members "log_group_cache_capacity" default.catalogCapacity count? }

def ofText? (text : String) : Option Config :=
  (read? text).bind ofMembers?

end Config

end LogQuery
