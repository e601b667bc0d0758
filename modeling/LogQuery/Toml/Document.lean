import LogQuery.Keyed
import LogQuery.Toml.Value

namespace LogQuery.Toml

/-- A statement of a document. A path is the list of the parts of a dotted key. -/
inductive Statement where
  | assign (path : List String) (value : Value)
  | openTable (path : List String)
  | openElement (path : List String)

/-- A table that is being put together. -/
structure Table where
  kind : TableKind
  members : Members

namespace Table

/-- Changes the table at the end of a path. Tables that are missing on the way are made of kind
`fresh`; of an array of tables the last one is taken. A dotted key must not lead through a table
that has a definition of its own. -/
def modifyAt? (fresh : TableKind) (f : Table → Option Table) : List String → Table → Option Table
  | [], table => f table
  | key :: path, table =>
    match table.members.lookup key with
    | none => do
      let inner ← modifyAt? fresh f path ⟨fresh, []⟩
      return { table with
        members := Keyed.put key (.table inner.kind inner.members) table.members }
    | some (.table kind members) =>
      if kind = .inline || (fresh = .dotted && !kind.isImplicit) then none
      else do
        let inner ← modifyAt? fresh f path ⟨kind, members⟩
        return { table with
          members := Keyed.put key (.table inner.kind inner.members) table.members }
    | some (.tables elements) =>
      match elements.getLast? with
      | none => none
      | some members => do
        let inner ← modifyAt? fresh f path ⟨.named, members⟩
        return { table with
          members :=
            Keyed.put key (.tables (elements.dropLast ++ [inner.members])) table.members }
    | some _ => none

/-- Gives a new key a value. A dotted key and no other may add to a table that dotted keys have
made, and it may add to no other table. -/
def add? (dotted : Bool) (key : String) (value : Value) (table : Table) : Option Table :=
  if decide (table.kind = .dotted) != dotted then none
  else if (table.members.lookup key).isSome then none
  else some { table with members := Keyed.put key value table.members }

/-- Gives the key at the end of a path a value. -/
def assign? (path : List String) (value : Value) (table : Table) : Option Table :=
  match path.getLast? with
  | none => none
  | some key =>
    let way := path.dropLast
    table.modifyAt? .dotted (add? (!way.isEmpty) key value) way

def inline? (assignments : List (List String × Value)) : Option Value := do
  let table ← assignments.foldlM
    (fun (table : Table) (path, value) => table.assign? path value) ⟨.inline, []⟩
  return .table .inline table.members

/-- Opens the table of a key. It must be new or have been passed by only. -/
def open? (key : String) (table : Table) : Option Table :=
  match table.members.lookup key with
  | none => some { table with members := Keyed.put key (.table .named []) table.members }
  | some (.table .passed members) =>
    some { table with members := Keyed.put key (.table .named members) table.members }
  | some _ => none

def openElement? (key : String) (table : Table) : Option Table :=
  match table.members.lookup key with
  | none => some { table with members := Keyed.put key (.tables [[]]) table.members }
  | some (.tables elements) =>
    some { table with members := Keyed.put key (.tables (elements ++ [[]])) table.members }
  | some _ => none

end Table

/-- A document as far as it has been read. -/
structure Document where
  root : Table
  /-- The path of the table that is open. -/
  current : List String

namespace Document

def empty : Document where
  root := ⟨.named, []⟩
  current := []

/-- Opens the table at a path by `f`, which is given the last key. -/
def openAt? (f : String → Table → Option Table) (path : List String) (document : Document) :
    Option Document := do
  let key ← path.getLast?
  let root ← document.root.modifyAt? .passed (f key) path.dropLast
  return { root, current := path }

def extend? (document : Document) : Statement → Option Document
  | .assign path value => do
    let root ← document.root.modifyAt? .passed (Table.assign? path value) document.current
    return { document with root }
  | .openTable path => document.openAt? Table.open? path
  | .openElement path => document.openAt? Table.openElement? path

def build? (statements : List Statement) : Option Members := do
  let document ← statements.foldlM extend? empty
  return document.root.members

end Document

end LogQuery.Toml
