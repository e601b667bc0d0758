import LogQuery.Keyed
import LogQuery.QueryError
import LogQuery.Service.Api
import LogQuery.Service.Exchange
import LogQuery.Text.Lines
import LogQuery.Text.Utf8

/-!
Access to sites. Before a site is used, credentials for it have to be found that the service
accepts: those of a profile with the name of the environment, or else those in environment
variables. A login command may be run before that. Credentials that were accepted are tried again
first.
-/

namespace LogQuery

open Text

inductive ExitStatus where
  | exited (code : Nat)
  | killed (signal : Nat)
deriving DecidableEq, Repr

namespace ExitStatus

def succeeded : ExitStatus → Bool
  | exited code => code == 0
  | killed _ => false

/-- The names of the signals that end a process. -/
def signalNames : List (Nat × String) :=
  [(1, "SIGHUP"), (2, "SIGINT"), (3, "SIGQUIT"), (4, "SIGILL"), (6, "SIGABRT"), (8, "SIGFPE"),
    (9, "SIGKILL"), (10, "SIGUSR1"), (11, "SIGSEGV"), (12, "SIGUSR2"), (13, "SIGPIPE"),
    (14, "SIGALRM"), (15, "SIGTERM")]

def message : ExitStatus → String
  | exited code => s!"exit status: {code}"
  | killed signal =>
    match signalNames.lookup signal with
    | some name => s!"signal: {signal} ({name})"
    | none => s!"signal: {signal}"

end ExitStatus

/-- The outcome of a script, and the bytes that it wrote to the error stream. -/
structure ScriptResult where
  status : ExitStatus
  errors : List UInt8
deriving DecidableEq, Repr

/-- Credentials that may be accepted. -/
inductive Credentials where
  /-- Those of the profile that is named like the environment. -/
  | profile
  | variables
deriving DecidableEq, Repr

/-- What is needed to find credentials. -/
structure Gate (m : Type → Type) where
  runScript : String → m ScriptResult
  check : Credentials → Site → m (Except CallFailure Unit)

/-- The credentials that have been accepted. -/
structure Access where
  /-- The login command, with a place for the environment. -/
  login? : Option String
  accepted : List (Site × Credentials)
deriving DecidableEq, Repr

namespace Access

/-- No credentials yet. A blank login command counts for nothing. -/
def new (login? : Option String) : Access where
  login? := login?.filter fun command => !blank command
  accepted := []

/-- The place for the environment in a login command. -/
def environmentPlace : String := "\x7benv\x7d"

def loginCommand (command environment : String) : String :=
  replaceAll environmentPlace environment command

def loginFailure (environment command : String) (result : ScriptResult) : CallFailure :=
  [s!"Authentication command failed for {environment}",
    s!"'{command}' exited with {result.status.message}: {trim (Utf8.decode result.errors)}"]

/-- What is told about a login command that no shell can be given. -/
def unfitLogin (environment command : String) : CallFailure :=
  [s!"Authentication command failed for {environment}", s!"Failed to spawn '{command}'",
    "nul byte found in provided data"]

variable {m : Type → Type} [Monad m]

/-- Runs the login command, if there is one. -/
def login (gate : Gate m) (access : Access) (environment : String) :
    m (Except CallFailure Unit) := do
  match access.login? with
  | none => return .ok ()
  | some template =>
    let command := loginCommand template environment
    if command.toList.contains '\x00' then return .error (unfitLogin environment command)
    let result ← gate.runScript command
    if result.status.succeeded then return .ok ()
    else return .error (loginFailure environment command result)

/-- Looks for credentials that are accepted at a site. -/
def find (gate : Gate m) (access : Access) (site : Site) :
    m (Except CallFailure Credentials) := do
  match ← access.login gate site.environment with
  | .error failure => return .error failure
  | .ok () =>
    match ← gate.check .profile site with
    | .ok () => return .ok .profile
    | .error _ =>
      match ← gate.check .variables site with
      | .ok () => return .ok .variables
      | .error failure =>
        return .error (s!"Could not find credentials for {site.environment}" :: failure)

def stillAccepted (gate : Gate m) (access : Access) (site : Site) : m Bool := do
  match access.accepted.lookup site with
  | none => return false
  | some credentials => return (← gate.check credentials site).isOk

def enter (gate : Gate m) (access : Access) (site : Site) :
    m (Except QueryError Unit × Access) := do
  if ← access.stillAccepted gate site then return (.ok (), access)
  match ← access.find gate site with
  | .ok credentials =>
    return (.ok (), { access with accepted := Keyed.put site credentials access.accepted })
  | .error failure =>
    let message := CallFailure.message failure
    return (.error (.credentials site.environment site.region message), access)

end Access

end LogQuery
