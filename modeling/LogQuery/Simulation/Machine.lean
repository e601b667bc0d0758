import LogQuery.Access.Basic
import LogQuery.Console.Program
import LogQuery.Files.Tree
import LogQuery.Service.Unreachable

namespace LogQuery.Simulation

open Console Files

structure Machine where
  files : Node
  /-- The bytes that are left of the standard input. -/
  input : List UInt8
  output : String
  errors : String
  access : LogQuery.Access

namespace Machine

def start (files : Node) (input : String) : Machine where
  files := files
  input := Text.Utf8.encode input
  output := ""
  errors := ""
  access := .new none

def onFiles {α : Type} (operation : StateM Node α) : StateM Machine α :=
  modifyGet fun machine =>
    let (a, files) := operation.run machine.files
    (a, { machine with files })

def fileSystem : FileSystem (StateM Machine) where
  isPresent path := onFiles (Node.fileSystem.isPresent path)
  isFile path := onFiles (Node.fileSystem.isFile path)
  createFolders path := onFiles (Node.fileSystem.createFolders path)
  entries path := onFiles (Node.fileSystem.entries path)
  read path := onFiles (Node.fileSystem.read path)
  write path text := onFiles (Node.fileSystem.write path text)
  append path text := onFiles (Node.fileSystem.append path text)
  rename source target := onFiles (Node.fileSystem.rename source target)
  remove path := onFiles (Node.fileSystem.remove path)

def readLine : StateM Machine (Except FileFault (Option String)) :=
  modifyGet fun machine =>
    let length := (machine.input.takeWhile (· != 10)).length + 1
    (lineOf (machine.input.take length), { machine with input := machine.input.drop length })

def readAll : StateM Machine (Except FileFault String) :=
  modifyGet fun machine => (textOf machine.input, { machine with input := [] })

def enter (gate : Gate Id) (site : Site) : StateM Machine (Except QueryError Unit) :=
  modifyGet fun machine =>
    let (outcome, access) := Id.run (machine.access.enter gate site)
    (outcome, { machine with access })

def surroundings (home : String) (gate : Gate Id) : Surroundings (StateM Machine) where
  home := home
  files := fileSystem
  readAll := readAll
  readLine := readLine
  write text := modify fun machine => { machine with output := machine.output ++ text }
  complain text := modify fun machine => { machine with errors := machine.errors ++ text }
  now := return 0
  service config := do
    modify fun machine => { machine with access := .new config.loginCommand? }
    return Unreachable.answer (enter gate) fun _ => return ()

end Machine

end LogQuery.Simulation
