import LogQuery.Files.FileSystem
import LogQuery.Files.Path
import LogQuery.Keyed
import LogQuery.Text.Numeral

/-!
Query files. A query file is a text with query blocks that has a name in a folder. Names are short
words, so that no name leads out of its folder.
-/

namespace LogQuery

open Files Text

structure QueryFiles where
  folder : String
deriving DecidableEq, Repr

inductive QueryFileError where
  | cannotCreate (path : String) (fault : FileFault)
  | cannotRead (path : String) (fault : FileFault)
  | cannotRename (source target : String) (fault : FileFault)
  | cannotDelete (path : String) (fault : FileFault)
  | unfitName (name : String)
  | nameInUse (name : String)
  | noName (name : String)
  | noFile (name folder : String)
deriving DecidableEq, Repr

/-- What went wrong, in order from what was being done to the cause. -/
def QueryFileError.reasons : QueryFileError → List String
  | cannotCreate path fault => [s!"Failed to create {path}", fault.message]
  | cannotRead path fault => [s!"Failed to read {path}", fault.message]
  | cannotRename source target fault => [s!"Failed to rename {source} to {target}", fault.message]
  | cannotDelete path fault => [s!"Failed to delete {path}", fault.message]
  | unfitName name => [s!"Should be valid file name [0-9,a-z,A-Z,_,-]: '{name}'"]
  | nameInUse name => [s!"Name {name} is already in use"]
  | noName name => [s!"Invalid query file name '{name}'"]
  | noFile name folder => [s!"No query file named {name} in {folder}"]

namespace QueryFiles

/-- A character of a name: a letter or digit of ASCII, an underscore or a hyphen. -/
def isNameChar (c : Char) : Bool :=
  isDigit c || ('a' ≤ c && c ≤ 'z') || ('A' ≤ c && c ≤ 'Z') || c == '_' || c == '-'

/-- Whether a text can be the name of a query file. -/
def isName (name : String) : Bool :=
  !name.isEmpty && name.toList.all isNameChar

def path (files : QueryFiles) (name : String) : String :=
  Path.join files.folder name

variable {m : Type → Type} [Monad m]

/-- The outcome of an operation on files, where `problem` says what a fault means. -/
def attempt {α : Type} (problem : FileFault → QueryFileError)
    (operation : m (Except FileFault α)) :
    ExceptT QueryFileError m α := do
  match ← operation with
  | .ok a => return a
  | .error fault => throw (problem fault)

/-- The names of all files, in order. The folder is made if it is missing. -/
def list (system : FileSystem m) (files : QueryFiles) :
    ExceptT QueryFileError m (List String) := do
  unless ← system.isPresent files.folder do
    attempt (.cannotCreate files.folder) (system.createFolders files.folder)
  let entries ← attempt (.cannotRead files.folder) (system.entries files.folder)
  return ((entries.filter FolderEntry.isFile).map FolderEntry.name).mergeSort
    fun a b => decide (a ≤ b)

/-- Checks a name for a new file, or a new name for the file `existing?`. -/
def validate (system : FileSystem m) (files : QueryFiles) (name : String)
    (existing? : Option String) : ExceptT QueryFileError m Unit := do
  unless isName name do
    throw (.unfitName name)
  unless existing? = some name do
    if (← files.list system).contains name then
      throw (.nameInUse name)

def existingPath (system : FileSystem m) (files : QueryFiles) (name : String) :
    ExceptT QueryFileError m String := do
  unless isName name do
    throw (.noName name)
  unless ← system.isFile (files.path name) do
    throw (.noFile name files.folder)
  return files.path name

/-- Makes an empty file and gives its path. -/
def create (system : FileSystem m) (files : QueryFiles) (name : String) :
    ExceptT QueryFileError m String := do
  files.validate system name none
  let path := files.path name
  attempt (.cannotCreate path) (system.write path "")
  return path

/-- Gives a file a new name and gives its new path. -/
def rename (system : FileSystem m) (files : QueryFiles) (old new : String) :
    ExceptT QueryFileError m String := do
  files.validate system new (some old)
  let source ← files.existingPath system old
  let target := files.path new
  attempt (.cannotRename source target) (system.rename source target)
  return target

def delete (system : FileSystem m) (files : QueryFiles) (name : String) :
    ExceptT QueryFileError m Unit := do
  let path ← files.existingPath system name
  attempt (.cannotDelete path) (system.remove path)

def read (system : FileSystem m) (files : QueryFiles) (name : String) :
    ExceptT QueryFileError m String := do
  let path ← files.existingPath system name
  attempt (.cannotRead path) (system.read path)

def mainFolder : String := "default"

/-- The folders in which files can be created, each under the last part of its path. Of several
with one name the last counts, and the main folder counts before all. -/
def folders (main : String) (extra : List String) : List (String × String) :=
  let named := extra.filterMap fun path => (Path.name? path).map fun name => (name, path)
  let all := (named ++ [(mainFolder, main)]).foldl
    (fun found (name, path) => Keyed.put name path found) []
  all.mergeSort fun a b => decide (a.1 ≤ b.1)

end QueryFiles

end LogQuery
