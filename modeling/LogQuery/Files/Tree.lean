import LogQuery.Files.FileSystem
import LogQuery.Keyed
import LogQuery.Text.Lines

namespace LogQuery.Files

open Text

/-- A file with its text, or a folder with what is in it. Files whose bytes are those of no text
are left out, so that a file can always be read. -/
inductive Node where
  | file (text : String)
  | folder (entries : List (String × Node))

namespace Node

def isFile : Node → Bool
  | file _ => true
  | folder _ => false

/-- What is in a folder; nothing is in a file. -/
def entries : Node → List (String × Node)
  | folder entries => entries
  | file _ => []

/-- What a way of names leads to. -/
def at? : List String → Node → Option Node
  | [], node => some node
  | name :: way, node => (node.entries.lookup name).bind (at? way)

/-- Puts something at the end of a way. Folders that are missing on the way are made. -/
def put : Node → List String → Node → Node
  | _, [], new => new
  | node, name :: way, new =>
    folder (Keyed.put name
      (put ((node.entries.lookup name).getD (folder [])) way new) node.entries)

/-- Takes away what is at the end of a way. -/
def erase : List String → Node → Node
  | [], _ => folder []
  | [name], node => folder (Keyed.erase name node.entries)
  | name :: way, node =>
    folder (Keyed.put name (erase way ((node.entries.lookup name).getD (folder []))) node.entries)

def maxNameBytes : Nat := 255

/-- The way after one more part of a path. A part leads on from a folder only; two points lead
back. -/
def step (root : Node) (way : List String) (part : String) : Except FileFault (List String) :=
  match root.at? way with
  | none => .error .missing
  | some (file _) => .error .notFolder
  | some (folder _) =>
    if part.isEmpty || part == "." then .ok way
    else if part == ".." then .ok way.dropLast
    else if maxNameBytes < part.utf8ByteSize then .error .nameTooLong
    else .ok (way ++ [part])

/-- Whether a path can be looked up at all. -/
def pathFault? (path : String) : Option FileFault :=
  if path.isEmpty then some .missing
  else if path.toList.contains '\x00' then some .invalidName
  else none

/-- The way that a path describes. All but its last part lead through folders; the last one need
not lead to anything. -/
def locate (root : Node) (path : String) : Except FileFault (List String) :=
  match pathFault? path with
  | some fault => .error fault
  | none => (splitOn '/' path).foldlM root.step []

def find (root : Node) (path : String) : Except FileFault Node := do
  match root.at? (← root.locate path) with
  | some node => .ok node
  | none => .error .missing

def read (root : Node) (path : String) : Except FileFault String := do
  match ← root.find path with
  | file text => .ok text
  | folder _ => .error .isFolder

def list (root : Node) (path : String) : Except FileFault (List FolderEntry) := do
  match ← root.find path with
  | file _ => .error .notFolder
  | folder entries => .ok (entries.map fun (name, node) => ⟨name, node.isFile⟩)

/-- The way of a path where there may be a file, and its text if it is there. -/
def fileAt (root : Node) (path : String) : Except FileFault (List String × Option String) := do
  let way ← root.locate path
  match root.at? way with
  | some (folder _) => .error .isFolder
  | some (file text) => .ok (way, some text)
  | none => .ok (way, none)

/-- The tree after a file is given a text. -/
def write (root : Node) (path text : String) : Except FileFault Node := do
  let (way, _) ← root.fileAt path
  return root.put way (file text)

/-- The tree after a text is added to a file. -/
def append (root : Node) (path text : String) : Except FileFault Node := do
  let (way, old?) ← root.fileAt path
  return root.put way (file (old?.getD "" ++ text))

def remove (root : Node) (path : String) : Except FileFault Node := do
  match ← root.fileAt path with
  | (way, some _) => .ok (root.erase way)
  | (_, none) => .error .missing

def rename (root : Node) (source target : String) : Except FileFault Node := do
  match ← root.fileAt source with
  | (_, none) => .error .missing
  | (origin, some text) =>
    let (goal, _) ← root.fileAt target
    return (root.erase origin).put goal (file text)

/-- Makes the folders on the parts of a path that go on from a way. -/
def makeFolders (root : Node) (way : List String) : List String → Except FileFault Unit × Node
  | [] => (.ok (), root)
  | part :: parts =>
    match root.step way part with
    | .error fault => (.error fault, root)
    | .ok next =>
      match root.at? next with
      | none => (root.put next (folder [])).makeFolders next parts
      | some (folder _) => root.makeFolders next parts
      | some (file _) => (.error (if parts.isEmpty then .present else .notFolder), root)

/-- Makes a folder and the folders that lead to it. -/
def createFolders (root : Node) (path : String) : Except FileFault Unit × Node :=
  if path.isEmpty then (.ok (), root)
  else match pathFault? path with
    | some fault => (.error fault, root)
    | none => root.makeFolders [] (splitOn '/' path)

/-- The outcome of a change, and the tree then. -/
def outcome (root : Node) : Except FileFault Node → Except FileFault Unit × Node
  | .ok changed => (.ok (), changed)
  | .error fault => (.error fault, root)

mutual

/-- All files, with their texts, and all folders in a tree whose root has the path `here`. The
path of a folder ends in a slash. -/
def contents (here : String) : Node → List (String × Option String)
  | file text => [(here, some text)]
  | folder entries => (here ++ "/", none) :: contentsOf (here ++ "/") entries

/-- All files and folders that are in a folder. -/
def contentsOf (here : String) : List (String × Node) → List (String × Option String)
  | [] => []
  | (name, node) :: entries => contents (here ++ name) node ++ contentsOf here entries

end

/-- All files and folders in a folder, ordered by path. -/
def listing (node : Node) : List (String × Option String) :=
  (contentsOf "" node.entries).mergeSort fun a b => decide (a.1 ≤ b.1)

def fileSystem : FileSystem (StateM Node) where
  isPresent path := do return (← get).find path matches .ok _
  isFile path := do return (← get).find path matches .ok (file _)
  createFolders path := modifyGet fun root => root.createFolders path
  entries path := do return (← get).list path
  read path := do return (← get).read path
  write path text := modifyGet fun root => root.outcome (root.write path text)
  append path text := modifyGet fun root => root.outcome (root.append path text)
  rename source target := modifyGet fun root => root.outcome (root.rename source target)
  remove path := modifyGet fun root => root.outcome (root.remove path)

end Node

end LogQuery.Files
