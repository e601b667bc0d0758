import LogQuery.Json.Fault
import LogQuery.Json.Value

namespace LogQuery.Json

def integer? : Json → Option Int
  | integer n => some n
  | _ => none

def string? : Json → Option String
  | string s => some s
  | _ => none

/-- The items of a list, where `f` gives each of them. -/
def list? {α : Type} (f : Json → Option α) : Json → Option (List α)
  | array items => items.mapM f
  | _ => none

def strings? (value : Json) : Option (List String) :=
  value.list? string?

def stringPair? : Json → Option (String × String)
  | array [string a, string b] => some (a, b)
  | _ => none

/-- A value that may be missing, where `f` gives those that are not. -/
def option? {α : Type} (f : Json → Option α) : Json → Option (Option α)
  | null => some none
  | value => (f value).map some

def ofStrings (texts : List String) : Json :=
  array (texts.map string)

def ofOption {α : Type} (f : α → Json) : Option α → Json
  | some a => f a
  | none => null

/-- A value that was read from a text in its standard form, where `f` makes something of it. -/
def interpret {α : Type} (f : Json → Option α) (value : Json) : Except Fault α :=
  match f value with
  | some a => .ok a
  | none => .error ⟨.data "unexpected form", none⟩

end LogQuery.Json
