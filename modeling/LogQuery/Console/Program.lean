import LogQuery.Console.Arguments
import LogQuery.Console.Desk
import LogQuery.Console.Surroundings
import LogQuery.Display.History
import LogQuery.Files.QueryFiles
import LogQuery.Query.Block

/-!
The program: what it does for each command, and how failures are shown. A failure is a list of
reasons, from what was being done to the cause.
-/

namespace LogQuery.Console

open Text

variable {m : Type → Type} [Monad m]

/-- A part of the program that may fail for some reasons. -/
abbrev Job (m : Type → Type) := ExceptT (List String) m

/-! ### Texts -/

def versionText : String := "cwquery 0.1.10\n"

def usageText : String :=
  "Usage: cwquery [--config PATH] [--verbose] COMMAND\n\n" ++
  "Commands:\n" ++
  "  run [FILE] [--line N] [--json]\n" ++
  "  session\n" ++
  "  history --env NAME --region REGION\n" ++
  "  record --env NAME --region REGION POINTER\n" ++
  "  files list | show NAME | new NAME [--folder FOLDER] | rename OLD NEW | delete NAME\n"

/-- The lines of a cause, where `mark` stands in front of the first one. -/
def causeLines (mark indent cause : String) : List String :=
  match lines cause with
  | [] => []
  | first :: rest => (mark ++ first) :: rest.map (indent ++ ·)

/-- A number at the end of five places. -/
def numberMark (n : Nat) : String :=
  let digits := Nat.repr n
  String.ofList (List.replicate (5 - digits.length) ' ') ++ digits ++ ": "

/-- The lines of the causes of a failure, numbered if there are several. -/
def allCauseLines : List String → List String
  | [cause] => causeLines "    " "    " cause
  | causes => causes.zipIdx.flatMap fun (cause, n) => causeLines (numberMark n) "       " cause

def failureText : List String → String
  | [] => "Error: \n"
  | [reason] => s!"Error: {reason}\n"
  | reason :: causes =>
    s!"Error: {reason}\n\nCaused by:\n" ++ String.join ((allCauseLines causes).map (· ++ "\n"))

/-- Statistics are written without an exponent, whole numbers without a point. -/
def amountStyle : Decimal.Style where
  leastPositional := -400
  greatestPositional := 400
  pointZero := false
  exponentSign := false

def amount (x : Float) : String :=
  amountStyle.writeFloat x

/-- What is told about a query at its end. -/
def finishedText (ending : Ending) (title : String) (statistics : Statistics) : String :=
  let matched := amount statistics.recordsMatched
  let scanned := amount statistics.recordsScanned
  let bytes := amount statistics.bytesScanned
  s!"{title} ({ending.name}): {matched} of {scanned} records matched, {bytes} bytes scanned\n"

/-! ### Settings and the log -/

namespace Surroundings

def dataFolder (machine : Surroundings m) : String :=
  Files.Path.join machine.home ".local/share/cwquery"

/-- The path of the settings where none is given. -/
def defaultConfig (machine : Surroundings m) : String :=
  Files.Path.join machine.home ".config/cwquery/config.toml"

/-- Begins the log. The program goes on without it. -/
def startLog (machine : Surroundings m) : m Unit := do
  let folder := Files.Path.join machine.dataFolder "logs"
  match ← machine.files.createFolders folder with
  | .error fault =>
    machine.complain s!"Logging disabled: Failed to create {folder}: {fault.message}\n"
  | .ok () =>
    let path := Files.Path.join folder "cwquery.log"
    match ← machine.files.append path "" with
    | .error fault =>
      machine.complain s!"Logging disabled: Failed to open log file {path}: {fault.message}\n"
    | .ok () => return ()

/-- The settings at a path, or at the usual one. Without a file nothing is set. -/
def loadConfig (machine : Surroundings m) (path? : Option String) : Job m Config := do
  let path := path?.getD machine.defaultConfig
  if ← machine.files.isPresent path then
    match ← machine.files.read path with
    | .error fault => throw [s!"Failed to read config file {path}", fault.message]
    | .ok text =>
      match Config.ofText? text with
      | some config => return config
      | none => throw [s!"Invalid config file {path}", ""]
  else return Config.default

def queryFiles (machine : Surroundings m) (config : Config) : QueryFiles where
  folder := config.queryFolder?.getD (Files.Path.join machine.dataFolder "queryFiles")

/-! ### Running a query -/

def source (machine : Surroundings m) (file? : Option String) : Job m String := do
  match file? with
  | none =>
    match ← machine.readAll with
    | .ok text => return text
    | .error fault => throw ["Failed to read query from stdin", fault.message]
  | some path =>
    match ← machine.files.read path with
    | .ok text => return text
    | .error fault => throw [s!"Failed to read {path}", fault.message]

/-- The block to be run: the one around a line, counted from one, or else the first one. -/
def chooseBlock (machine : Surroundings m) (text : String) (line? : Option Nat) :
    Job m String := do
  match line? with
  | some line => return Block.focused text (line - 1)
  | none =>
    match Block.ofText text with
    | [] => throw ["No query block found"]
    | [block] => return block
    | block :: others =>
      machine.complain
        s!"Running the first of {others.length + 1} query blocks, pick another with --line\n"
      return block

def tell (machine : Surroundings m) (json : Bool) (message : Message) : m Unit := do
  if json then machine.write (message.toJson.text ++ "\n")
  match message with
  | .started _ _ _ logGroups _ =>
    logGroups.forM fun entry =>
      machine.complain s!"{entry.region}: {entry.logGroups.length} log groups\n"
  | .results _ _ _ rowCount => machine.complain s!"{rowCount} rows so far\n"
  | .finished ending title _ statistics => machine.complain (finishedText ending title statistics)
  | _ => return ()

/-- The number of calls that are answered while the program waits: more than it ever makes. -/
def maxCalls : Nat := Nat.pow 2 62

/-- Answers the calls of an execution until it has ended, and tells about the messages as they
come; `told` of them are told already. -/
def follow (machine : Surroundings m) (answer : (c : Call) → m c.Answer) (json : Bool) :
    (fuel : Nat) → (told : Nat) → Session → m Session
  | 0, _, session => return session
  | fuel + 1, told, session => do
    (session.sent.drop told).forM (machine.tell json)
    match session.running? with
    | some { task? := some (.call call next), .. } =>
      let reply ← answer call
      let (after, _) := session.advance (← machine.now) (next reply)
      machine.follow answer json fuel session.sent.length after
    | _ => return session

def runBlock (machine : Surroundings m) (answer : (c : Call) → m c.Answer) (interval : Nat)
    (block : String) (json : Bool) : Job m Unit := do
  let (session, _) := (Session.new interval).handle (← machine.now) (.refresh block)
  let session ← machine.follow answer json maxCalls 0 session
  match session.sent.getLast? with
  | some (.error message) => throw [message]
  | _ => if json then return () else machine.write (session.rawTable ++ "\n")

/-! ### Sessions -/

def print (machine : Surroundings m) (desk : Desk) : m Desk := do
  let board := desk.board.forwardAll
  (board.written.drop desk.printed).forM fun written =>
    machine.write (Message.toLine written.line ++ "\n")
  return { desk with board, printed := board.written.length }

/-- Answers the calls of all sessions until there are none, and prints what they send. -/
def settle (machine : Surroundings m) (answer : (c : Call) → m c.Answer) :
    (fuel : Nat) → Desk → m Desk
  | 0, desk => return desk
  | fuel + 1, desk => do
    let desk ← machine.print desk
    match desk.board.waits with
    | [] => return desk
    | wait :: _ =>
      let reply ← answer wait.call
      machine.settle answer fuel { desk with board := wait.resume (← machine.now) reply }

/-- Handles the input and ends the sessions. All calls are answered before the next line is read
and before the next session is stopped. -/
def converse (machine : Surroundings m) (answer : (c : Call) → m c.Answer) :
    (fuel : Nat) → Desk → m Desk
  | 0, desk => return desk
  | fuel + 1, desk => do
    let desk ← machine.settle answer maxCalls desk
    if desk.reads then
      let read ← machine.readLine
      machine.converse answer fuel (desk.take (← machine.now) read)
    else if desk.isOver then return desk
    else machine.converse answer fuel desk.goOn

def runSessions (machine : Surroundings m) (answer : (c : Call) → m c.Answer) (interval : Nat) :
    Job m Unit := do
  let desk ← machine.converse answer maxCalls (.start interval)
  match desk.fault? with
  | some fault => throw [fault.message]
  | none => return ()

/-! ### Other commands -/

def enter (answer : (c : Call) → m c.Answer) (site : Site) : Job m Unit := do
  match ← answer (.connect site) with
  | .ok () => return ()
  | .error e => throw [e.message]

/-- Shows the queries that were run at a site. -/
def showHistory (machine : Surroundings m) (answer : (c : Call) → m c.Answer) (site : Site) :
    Job m Unit := do
  enter answer site
  let entries ← ExceptT.mk (answer (.history site))
  machine.write (HistoryItem.document (HistoryItem.ofEntries entries))

def showRecord (machine : Surroundings m) (answer : (c : Call) → m c.Answer) (site : Site)
    (pointer : String) : Job m Unit := do
  enter answer site
  let record ← ExceptT.mk (answer (.logRecord site pointer))
  machine.write (Display.recordText record)

def filed {α : Type} (operation : ExceptT QueryFileError m α) : Job m α := do
  match ← operation.run with
  | .ok a => return a
  | .error e => throw e.reasons

def folderNamed (main : QueryFiles) (config : Config) (folder? : Option String) :
    Except (List String) QueryFiles :=
  let folders := QueryFiles.folders main.folder config.extraFolders
  let name := folder?.getD QueryFiles.mainFolder
  match folders.lookup name with
  | some folder => .ok ⟨folder⟩
  | none =>
    let known := quotedList (folders.map Prod.fst)
    .error [s!"Unknown folder {name}, expected one of {known}"]

def manageFiles (machine : Surroundings m) (config : Config) : FileAction → Job m Unit
  | .list => do
    let names ← filed ((machine.queryFiles config).list machine.files)
    names.forM fun name => machine.write (name ++ "\n")
  | .print name => do
    machine.write (← filed ((machine.queryFiles config).read machine.files name))
  | .create name folder? => do
    let files ← ExceptT.mk (return folderNamed (machine.queryFiles config) config folder?)
    machine.write ((← filed (files.create machine.files name)) ++ "\n")
  | .rename old new => do
    machine.write ((← filed ((machine.queryFiles config).rename machine.files old new)) ++ "\n")
  | .delete name => filed ((machine.queryFiles config).delete machine.files name)

def perform (machine : Surroundings m) (invocation : Invocation) : Job m Unit := do
  let config ← machine.loadConfig invocation.config?
  let answer ← machine.service config
  match invocation.action with
  | .run file? line? json =>
    let text ← machine.source file?
    let block ← machine.chooseBlock text line?
    machine.runBlock answer config.pollInterval block json
  | .converse => machine.runSessions answer config.pollInterval
  | .history site => machine.showHistory answer site
  | .record site pointer => machine.showRecord answer site pointer
  | .files action => machine.manageFiles config action

def execute (machine : Surroundings m) (arguments : List String) : m Nat := do
  match Invocation.ofArguments arguments with
  | .error .usage => do machine.complain usageText; return 2
  | .error .help => do machine.write usageText; return 0
  | .error .version => do machine.write versionText; return 0
  | .ok invocation =>
    machine.startLog
    match ← (machine.perform invocation).run with
    | .ok () => return 0
    | .error reasons => do machine.complain (failureText reasons); return 1

end Surroundings

end LogQuery.Console
