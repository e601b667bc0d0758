import LogQuery.Service.Exchange
import LogQuery.Text.Lines
import LogQuery.Text.Numeral

namespace LogQuery.Console

open Text

/-! ### Levels -/

/-- What may stand among the arguments of a command. -/
structure Level where
  flags : List String
  options : List String
  operands : Nat
  commands : List String
  versioned : Bool

inductive Refusal where
  | usage
  | help
  | version
deriving DecidableEq, Repr

structure Parsed where
  flags : List String
  options : List (String × String)
  operands : List String
  /-- The command in it, with the arguments behind that. -/
  command? : Option (String × List String)

namespace Parsed

def empty : Parsed where
  flags := []
  options := []
  operands := []
  command? := none

/-- Adds an option without a value, which may stand once. -/
def addFlag (parsed : Parsed) (name : String) : Except Refusal Parsed :=
  if parsed.flags.contains name then .error .usage
  else .ok { parsed with flags := parsed.flags ++ [name] }

/-- Adds an option with a value, which may stand once. The path of the settings must not be
empty. -/
def addOption (parsed : Parsed) (name value : String) : Except Refusal Parsed :=
  if (parsed.options.lookup name).isSome || (name == "config" && value.isEmpty) then .error .usage
  else .ok { parsed with options := parsed.options ++ [(name, value)] }

def addOperand (parsed : Parsed) (most : Nat) (value : String) : Except Refusal Parsed :=
  if parsed.operands.length < most then .ok { parsed with operands := parsed.operands ++ [value] }
  else .error .usage

def hasFlag (parsed : Parsed) (name : String) : Bool :=
  parsed.flags.contains name

def option? (parsed : Parsed) (name : String) : Option String :=
  parsed.options.lookup name

end Parsed

/-- Whether an argument is an option or several. A single hyphen is not. -/
def isOption (argument : String) : Bool :=
  argument.startsWith "-" && argument != "-"

def shortFlag? (c : Char) : Option String :=
  if c = 'v' then some "verbose" else none

def addLetters (level : Level) (parsed : Parsed) : List Char → Except Refusal Parsed
  | [] => .ok parsed
  | c :: cs =>
    if c = 'h' then .error .help
    else if c = 'V' ∧ level.versioned then .error .version
    else match shortFlag? c with
      | none => .error .usage
      | some name => do addLetters level (← parsed.addFlag name) cs

def addOperands (level : Level) (parsed : Parsed) (arguments : List String) :
    Except Refusal Parsed :=
  arguments.foldlM (fun (parsed : Parsed) argument =>
    parsed.addOperand level.operands argument) parsed

/-- The name and the value of a long option that has its value in the same argument. -/
def splitOption (argument : String) : String × Option String :=
  let cs := argument.toList.drop 2
  match cutAtFirst ['='] cs with
  | some (name, value) => (String.ofList name, some (String.ofList value))
  | none => (String.ofList cs, none)

/-- The arguments of a command up to a command in it. -/
def parse (level : Level) (parsed : Parsed) : List String → Except Refusal Parsed
  | [] => .ok parsed
  | "--" :: rest => addOperands level parsed rest
  | argument :: rest =>
    if argument.startsWith "--" then
      match splitOption argument with
      | (name, some value) =>
        if level.options.contains name then do parse level (← parsed.addOption name value) rest
        else .error .usage
      | (name, none) =>
        if level.flags.contains name then do parse level (← parsed.addFlag name) rest
        else if level.options.contains name then
          match rest with
          | value :: rest =>
            if isOption value then .error .usage
            else do parse level (← parsed.addOption name value) rest
          | [] => .error .usage
        else if name = "help" then .error .help
        else if name = "version" ∧ level.versioned then .error .version
        else .error .usage
    else if isOption argument then do
      parse level (← addLetters level parsed (argument.toList.drop 1)) rest
    else if level.commands.contains argument then
      .ok { parsed with command? := some (argument, rest) }
    else if argument = "help" ∧ level.commands ≠ [] then .error .help
    else do parse level (← parsed.addOperand level.operands argument) rest

/-! ### Commands -/

inductive FileAction where
  | list
  | print (name : String)
  | create (name : String) (folder? : Option String)
  | rename (old new : String)
  | delete (name : String)
deriving DecidableEq, Repr

inductive Action where
  /-- Runs a query from a file or the standard input: the block around a line, or the first
  one. -/
  | run (file? : Option String) (line? : Option Nat) (json : Bool)
  | converse
  /-- Shows the queries that were run at a site. -/
  | history (site : Site)
  | record (site : Site) (pointer : String)
  | files (action : FileAction)
deriving DecidableEq, Repr

structure Invocation where
  config? : Option String
  verbose : Bool
  action : Action
deriving DecidableEq, Repr

/-- A level with the options that may stand everywhere. -/
def level (flags options : List String) (operands : Nat) (commands : List String) : Level where
  flags := "verbose" :: flags
  options := "config" :: options
  operands := operands
  commands := commands
  versioned := false

def topLevel : Level :=
  { level [] [] 0 ["run", "session", "history", "record", "files"] with versioned := true }

/-- The value of an option that has to be there. -/
def required (parsed : Parsed) (name : String) : Except Refusal String :=
  match parsed.option? name with
  | some value => .ok value
  | none => .error .usage

/-- The options that may stand everywhere: those of a level count before those of the levels
around it. -/
def shared (outer : Option String × Bool) (parsed : Parsed) : Option String × Bool :=
  (parsed.option? "config" <|> outer.1, outer.2 || parsed.hasFlag "verbose")

/-- Parses the arguments of a command that has no commands in it, and gives what it makes of
them. -/
def parseLeaf (outer : Option String × Bool) (level : Level) (arguments : List String)
    (action : Parsed → Except Refusal Action) : Except Refusal Invocation := do
  let parsed ← parse level .empty arguments
  let (config?, verbose) := shared outer parsed
  return { config?, verbose, action := ← action parsed }

def lineNumber (parsed : Parsed) : Except Refusal (Option Nat) :=
  match parsed.option? "line" with
  | none => .ok none
  | some text =>
    match word? text with
    | some n => .ok (some n)
    | none => .error .usage

def readRun (parsed : Parsed) : Except Refusal Action := do
  let line? ← lineNumber parsed
  match parsed.operands with
  | [] => return .run none line? (parsed.hasFlag "json")
  | file :: _ =>
    if file.isEmpty then throw .usage
    return .run (if file = "-" then none else some file) line? (parsed.hasFlag "json")

def readSite (parsed : Parsed) : Except Refusal Site := do
  return { environment := ← required parsed "env", region := ← required parsed "region" }

def readRecord (parsed : Parsed) : Except Refusal Action := do
  let site ← readSite parsed
  match parsed.operands with
  | [pointer] => return .record site pointer
  | _ => throw .usage

/-- The level of a command for query files, and what it makes of its arguments. -/
def fileCommand? : String → Option (Level × (Parsed → Option FileAction))
  | "list" => some (level [] [] 0 [], fun _ => some .list)
  | "show" => some (level [] [] 1 [], fun parsed =>
      match parsed.operands with
      | [name] => some (.print name)
      | _ => none)
  | "new" => some (level [] ["folder"] 1 [], fun parsed =>
      match parsed.operands with
      | [name] => some (.create name (parsed.option? "folder"))
      | _ => none)
  | "rename" => some (level [] [] 2 [], fun parsed =>
      match parsed.operands with
      | [old, new] => some (.rename old new)
      | _ => none)
  | "delete" => some (level [] [] 1 [], fun parsed =>
      match parsed.operands with
      | [name] => some (.delete name)
      | _ => none)
  | _ => none

def fileCommands : List String :=
  ["list", "show", "new", "rename", "delete"]

def readFiles (outer : Option String × Bool) (arguments : List String) :
    Except Refusal Invocation := do
  let parsed ← parse (level [] [] 0 fileCommands) .empty arguments
  let outer := shared outer parsed
  match parsed.command? with
  | none => throw .usage
  | some (name, rest) =>
    match fileCommand? name with
    | none => throw .usage
    | some (level, read) =>
      parseLeaf outer level rest fun parsed =>
        match read parsed with
        | some action => .ok (.files action)
        | none => .error .usage

def Invocation.ofArguments (arguments : List String) : Except Refusal Invocation := do
  let parsed ← parse topLevel .empty arguments
  let outer := shared (none, false) parsed
  match parsed.command? with
  | some ("run", rest) => parseLeaf outer (level ["json"] ["line"] 1 []) rest readRun
  | some ("session", rest) => parseLeaf outer (level [] [] 0 []) rest fun _ => .ok .converse
  | some ("history", rest) =>
    parseLeaf outer (level [] ["env", "region"] 0 []) rest fun parsed =>
      (readSite parsed).map .history
  | some ("record", rest) => parseLeaf outer (level [] ["env", "region"] 1 []) rest readRecord
  | some ("files", rest) => readFiles outer rest
  | _ => throw .usage

end LogQuery.Console
