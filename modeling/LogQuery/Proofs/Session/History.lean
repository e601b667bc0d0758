import LogQuery.Session.Basic

/-!
The history of a session. Commands arrive while an execution runs, the answers to its calls
arrive in between, and an execution takes its steps when it gets to them: an `Event` is whatever
happens next. The history lists what has come of the events so far, in order.
-/

namespace LogQuery

/-- Whether the session itself answers it to its execution. -/
def Call.isOwn : Call → Bool
  | report _ | cancelled => true
  | _ => false

def Message.showsTitle : Message → Bool
  | started .. | finished .. | title _ => true
  | _ => false

/-- Who has caused a message. -/
inductive Source where
  | execution
  /-- A query block that could not be read. -/
  | refresh (block : String)
  /-- Any other command. -/
  | command
deriving DecidableEq, Repr

/-- What may happen in a session. -/
inductive Happening where
  /-- A query block is to be run. -/
  | asked (block : String)
  /-- The block has been read and its execution begins. -/
  | accepted (block : String) (query : Query)
  | renamed (title : String)
  /-- The session has taken note of the outcome of its execution. -/
  | concluded
  | queued (source : Source) (message : Message)
  | ended
  | closed

def Happening.message? : Happening → Option Message
  | queued _ message => some message
  | _ => none

namespace Session

/-- What may come next for a session. An event whose time has not come changes nothing. -/
inductive Event where
  | command (now : Int) (command : Command)
  | fetched (answers : (c : Call) → c.Answer)
  | answered (answers : (c : Call) → c.Answer)
  /-- The execution takes a step by itself. -/
  | proceeded
  | delivered
  /-- The command that has waited for the end of the execution goes on. -/
  | resumed (now : Int)
  /-- Somebody else stops the execution. -/
  | cancelled
  /-- Somebody has waited for the execution. -/
  | released

def step (session : Session) : Event → Session
  | .command now command =>
    if session.errand?.isNone then (session.handle now command).1 else session
  | .fetched answers =>
    match session.errand? with
    | some (.fetch (.call c next)) => (session.fetch (next (answers c))).1
    | _ => session
  | .answered answers =>
    match session.running? with
    | some running =>
      match running.unsent?, running.task? with
      | none, some (.call c next) =>
        if c.isOwn then session else session.resume (next (answers c))
      | _, _ => session
    | none => session
  | .proceeded => session.proceed
  | .delivered => session.deliver
  | .resumed now => if session.isRunning then session else (session.afterEnd now).1
  | .cancelled => session.cancel
  | .released => if session.isRunning then session else session.release

/-- The messages by which one state of a session goes beyond another. -/
def sends (source : Source) (before after : Session) : List Happening :=
  (after.sent.drop before.sent.length).map (.queued source)

/-- What comes of a command that has waited for the end of the execution. -/
def endHappenings (session : Session) (now : Int) : Option Errand → List Happening
  | some (.refresh block) =>
    match session.read now block with
    | .ok query => [.accepted block query]
    | .error problem => [.queued (.refresh block) (.error problem.toQueryError.message)]
  | some .close => [.closed]
  | _ => []

/-- What comes of a command that waits for the end of the execution. -/
def stopHappenings (session : Session) (now : Int) (errand : Errand) : List Happening :=
  if session.isRunning then [] else session.endHappenings now (some errand)

def commandHappenings (session : Session) (now : Int) : Command → List Happening
  | .refresh block => .asked block :: session.stopHappenings now (.refresh block)
  | .close => session.stopHappenings now .close
  | .changeTitle title => .renamed title :: sends .command session (session.changeTitle title)
  | command => sends .command session (session.handle now command).1

/-- Whether the next step of the execution is to tell its outcome. -/
def concludes (session : Session) : Bool :=
  match session.running? with
  | some { task? := some (.done (.ended _)), unsent? := none, .. } => true
  | _ => false

/-- What comes of an event. -/
def happenings (session : Session) : Event → List Happening
  | .command now command =>
    if session.errand?.isNone then session.commandHappenings now command else []
  | .fetched answers => sends .command session (session.step (.fetched answers))
  | .proceeded => if session.concludes then [.concluded] else []
  | .delivered =>
    sends .execution session session.deliver ++
      if session.isRunning && !session.deliver.isRunning then [.ended] else []
  | .resumed now => if session.isRunning then [] else session.endHappenings now session.errand?
  | .answered _ | .cancelled | .released => []

def after (session : Session) (events : List Event) : Session :=
  events.foldl step session

def history : (session : Session) → List Event → List Happening
  | _, [] => []
  | session, event :: events => session.happenings event ++ (session.step event).history events

theorem after_append (session : Session) (earlier later : List Event) :
    session.after (earlier ++ later) = (session.after earlier).after later :=
  List.foldl_append

theorem history_append (session : Session) (earlier later : List Event) :
    session.history (earlier ++ later) =
      session.history earlier ++ (session.after earlier).history later := by
  induction earlier generalizing session with
  | nil => rfl
  | cons event earlier ih =>
      rw [List.cons_append, history, ih, ← List.append_assoc]
      rfl

theorem settle_eq_after (session : Session) (task : Task Stage) :
    ∃ events, (∀ event ∈ events, event = .proceeded ∨ event = .delivered) ∧
      session.settle task = session.after events := by
  induction task generalizing session with
  | done stage => exact ⟨[.proceeded, .delivered], by simp, rfl⟩
  | call c next ih =>
      cases c with
      | report progress =>
          obtain ⟨events, steps, settled⟩ := ih () session.proceed.deliver
          exact ⟨.proceeded :: .delivered :: events, by simpa using steps, settled⟩
      | cancelled =>
          obtain ⟨events, steps, settled⟩ := ih session.toldToStop session.proceed
          exact ⟨.proceeded :: events, by simpa using steps, settled⟩
      | _ => exact ⟨[], by simp, rfl⟩

theorem advance_eq_after (session : Session) (now : Int) {running : Running} {c : Call}
    {next : c.Answer → Task Stage} (current : session.running? = some running)
    (silent : running.unsent? = none) (task : running.task? = some (.call c next))
    (others : c.isOwn = false) (answers : (c : Call) → c.Answer) :
    ∃ events, (∀ event ∈ events, event = .proceeded ∨ event = .delivered) ∧
      (session.advance now (next (answers c))).1 =
        session.after (.answered answers :: events ++ [.resumed now]) := by
  obtain ⟨events, steps, settled⟩ :=
    (session.resume (next (answers c))).settle_eq_after (next (answers c))
  refine ⟨events, steps, ?_⟩
  have answered : session.step (.answered answers) = session.resume (next (answers c)) := by
    simp [step, current, silent, task, others]
  rw [List.cons_append, after, List.foldl_cons, answered, ← after, after_append, ← settled]
  simp only [advance, current, Option.isNone_some, Bool.false_eq_true, if_false, after,
    List.foldl_cons, List.foldl_nil, step]
  split <;> rfl

/-- How a session is opened: by itself, or as a second view of the query of another one. -/
inductive Opens : Session → Prop
  | new (interval : Nat) : Opens (new interval)
  | copy (session copy : Session) (events : List Event) (opens : Opens session)
      (duplicated : (session.after events).duplicate? = some copy) : Opens copy

theorem Opens.idle {session : Session} (opens : session.Opens) :
    session.running? = none ∧ session.errand? = none := by
  cases opens with
  | new interval => exact ⟨rfl, rfl⟩
  | copy origin _ events opens duplicated =>
      obtain ⟨query, _, rfl⟩ := Option.map_eq_some_iff.mp duplicated
      exact ⟨rfl, rfl⟩

end Session

end LogQuery
