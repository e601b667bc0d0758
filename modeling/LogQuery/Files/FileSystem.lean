namespace LogQuery

/-- Why something cannot be done with a file or a folder. -/
inductive FileFault where
  | missing
  | present
  | notFolder
  | isFolder
  | nameTooLong
  | invalidName
  /-- The bytes are those of no text. -/
  | notText
  | other (text : String)
deriving DecidableEq, Repr

def FileFault.message : FileFault → String
  | missing => "No such file or directory (os error 2)"
  | present => "File exists (os error 17)"
  | notFolder => "Not a directory (os error 20)"
  | isFolder => "Is a directory (os error 21)"
  | nameTooLong => "File name too long (os error 36)"
  | invalidName => "file name contained an unexpected NUL byte"
  | notText => "stream did not contain valid UTF-8"
  | other text => text

structure FolderEntry where
  name : String
  isFile : Bool
deriving DecidableEq, Repr

/-- The operations on files and folders, each with the path that it is about. -/
structure FileSystem (m : Type → Type) where
  isPresent : String → m Bool
  isFile : String → m Bool
  /-- Makes a folder and the folders that lead to it, as far as they are missing. -/
  createFolders : String → m (Except FileFault Unit)
  entries : String → m (Except FileFault (List FolderEntry))
  read : String → m (Except FileFault String)
  /-- Makes a file with a text, in place of an old text. -/
  write : (path text : String) → m (Except FileFault Unit)
  /-- Adds a text to a file, which is made if it is missing. -/
  append : (path text : String) → m (Except FileFault Unit)
  /-- Gives what the first path leads to the second path. -/
  rename : (source target : String) → m (Except FileFault Unit)
  remove : String → m (Except FileFault Unit)

end LogQuery
