import LogQuery.Config
import LogQuery.Files.FileSystem
import LogQuery.Service.Call
import LogQuery.Text.Lines
import LogQuery.Text.Utf8

namespace LogQuery.Console

/-- What bytes from the standard input are read as. -/
def textOf (bytes : List UInt8) : Except FileFault String :=
  match Text.Utf8.text? bytes with
  | some text => .ok text
  | none => .error .notText

/-- The line that is read from bytes up to a line feed or the end of the input; there is none
without bytes. -/
def lineOf (bytes : List UInt8) : Except FileFault (Option String) :=
  if bytes.isEmpty then .ok none
  else (textOf bytes).map fun text =>
    match text.toList.getLast? with
    | some '\n' => some (String.ofList (Text.dropReturn text.toList.dropLast))
    | _ => some text

/-- The machine that the program runs on. -/
structure Surroundings (m : Type → Type) where
  home : String
  files : FileSystem m
  /-- All that is left of the standard input. -/
  readAll : m (Except FileFault String)
  /-- The next line of the standard input, if there is one. -/
  readLine : m (Except FileFault (Option String))
  write : String → m Unit
  complain : String → m Unit
  now : m Int
  /-- What answers the calls of queries under some settings. -/
  service : Config → m ((c : Call) → m c.Answer)

end LogQuery.Console
