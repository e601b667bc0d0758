import LogQuery.Access.Basic
import LogQuery.Console.Program
import LogQuery.Service.Unreachable
import Std.Time.DateTime.Timestamp

/-!
The program on the machine that it is started on. It starts no other program and has no way to
the log service: no login command succeeds, and no credentials are accepted.
-/

namespace LogQuery.Console

/-- The number and the text of an error of the machine. -/
def numbered? : IO.Error → Option (UInt32 × String)
  | .alreadyExists _ code details => some (code, details)
  | .noFileOrDirectory _ code details => some (code, details)
  | .inappropriateType _ code details => some (code, details)
  | .invalidArgument _ code details => some (code, details)
  | .permissionDenied _ code details => some (code, details)
  | .unsatisfiedConstraints code details => some (code, details)
  | .resourceBusy code details => some (code, details)
  | .otherError code details => some (code, details)
  | _ => none

/-- What an error of the machine says about a file. Its number may be given with a minus sign. -/
def faultOf (error : IO.Error) : FileFault :=
  match numbered? error with
  | none => .other (toString error)
  | some (code, details) =>
    let number := code.toInt32.toInt.natAbs
    if number = 2 then .missing
    else if number = 17 then .present
    else if number = 20 then .notFolder
    else if number = 21 then .isFolder
    else if number = 36 then .nameTooLong
    else .other s!"{details} (os error {number})"

def guarded {α : Type} (operation : IO α) : IO (Except FileFault α) := do
  try
    return .ok (← operation)
  catch error =>
    return .error (faultOf error)

def succeeds (operation : IO Bool) : IO Bool := do
  return (← guarded operation) matches .ok true

def folderEntries (path : String) : IO (List FolderEntry) := do
  let folder ← IO.FS.realPath path
  let found ← folder.readDir
  found.toList.mapM fun entry => do
    let data ← entry.path.metadata
    return ⟨entry.fileName, data.type == .file⟩

def leadsToFile (path : String) : IO Bool := do
  let place ← IO.FS.realPath path
  let data ← place.metadata
  return data.type == .file

def leadsAnywhere (path : String) : IO Bool := do
  let _ ← IO.FS.realPath path
  return true

def leadsToFolder (path : String) : IO Bool := do
  let place ← IO.FS.realPath path
  let data ← place.metadata
  return data.type == .dir

partial def makeFolders (path : String) : IO Unit := do
  let make : IO Unit := do
    try
      IO.FS.createDir path
    catch error =>
      unless ← succeeds (leadsToFolder path) do throw error
  try
    make
  catch error =>
    match faultOf error, Files.Path.parent? path with
    | .missing, some folder => do
      makeFolders folder
      make
    | _, _ => throw error

def appendText (path text : String) : IO Unit :=
  IO.FS.withFile path .append fun handle => handle.putStr text

def machineFiles : FileSystem IO where
  isPresent path := succeeds (leadsAnywhere path)
  isFile path := succeeds (leadsToFile path)
  createFolders path := guarded (makeFolders path)
  entries path := guarded (folderEntries path)
  read path := guarded (IO.FS.readFile path)
  write path text := guarded (IO.FS.writeFile path text)
  append path text := guarded (appendText path text)
  rename source target := guarded (IO.FS.rename source target)
  remove path := guarded (IO.FS.removeFile path)

/-- The bytes of a stream up to a line feed or its end, behind some that were read before. -/
partial def bytesOfLine (stream : IO.FS.Stream) (before : ByteArray) : IO ByteArray := do
  let next ← stream.read 1
  if next.isEmpty then return before
  else if next.toList = [10] then return before ++ next
  else bytesOfLine stream (before ++ next)

/-- All that is left of a stream, behind some bytes that were read before. -/
partial def restOfStream (stream : IO.FS.Stream) (before : ByteArray) : IO ByteArray := do
  let next ← stream.read 4096
  if next.isEmpty then return before else restOfStream stream (before ++ next)

def fromInput {α : Type} (bytes : IO.FS.Stream → ByteArray → IO ByteArray)
    (read : List UInt8 → Except FileFault α) : IO (Except FileFault α) := do
  let found ← guarded do bytes (← IO.getStdin) .empty
  return found.bind fun bytes => read bytes.toList

def writeTo (stream : IO IO.FS.Stream) (text : String) : IO Unit := do
  let stream ← stream
  stream.putStr text
  stream.flush

/-- The gate of a machine that starts no other program and does not reach the service. -/
def closedGate : Gate IO where
  runScript _ := return ⟨.exited 127, []⟩
  check _ _ := return .error ["GetCallerIdentity failed"]

def enterSite (access : IO.Ref Access) (site : Site) : IO (Except QueryError Unit) := do
  let (outcome, after) ← (← access.get).enter closedGate site
  access.set after
  return outcome

/-- The machine, where `access` holds the credentials that were accepted. -/
def machine (home : String) (access : IO.Ref Access) : Surroundings IO where
  home := home
  files := machineFiles
  readAll := fromInput restOfStream textOf
  readLine := fromInput bytesOfLine lineOf
  write := writeTo IO.getStdout
  complain := writeTo IO.getStderr
  now := do return (← Std.Time.Timestamp.now).toMillisecondsSinceUnixEpoch.val
  service config := do
    access.set (.new config.loginCommand?)
    return Unreachable.answer (enterSite access) fun millis => IO.sleep millis.toUInt32

end LogQuery.Console

open LogQuery Console in
def main (arguments : List String) : IO UInt32 := do
  let home := (← IO.getEnv "HOME").getD ""
  let access ← IO.mkRef (Access.new none)
  return ((← (machine home access).execute arguments)).toUInt32
