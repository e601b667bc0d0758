import LogQuery.Proofs.Execution.Course
import LogQuery.Proofs.Session.History

/-!
What a session does at once. Every event is made of such moves, so that whatever each of them
keeps is true of every history.
-/

namespace LogQuery

namespace Session

/-- The errors with which access to a site was refused. -/
def Refused (events : List Event) (e : QueryError) : Prop :=
  ∃ answers site, .answered answers ∈ events ∧ answers (.connect site) = .error e

/-- What a session does at once, and what is to be told of it. Access is refused with none but
the errors `refusals`. -/
inductive Move (refusals : QueryError → Prop) (session : Session) :
    List Happening → Session → Prop
  /-- A command other than to run a query or to close begins or ends. -/
  | attended (running : ∀ block, session.errand? ≠ some (.refresh block))
      (closing : session.errand? ≠ some .close) (task? : Option (Task Message))
      (untitled : ∀ task ∈ task?, task.Ensures (fun _ => True) fun message =>
        !message.showsTitle) :
      Move refusals session [] { session with errand? := task?.map .fetch }
  | posted (message : Message) (untitled : !message.showsTitle) :
      Move refusals session [.queued .command message] (session.post message)
  | renamed (title : String) :
      Move refusals session (.renamed title :: sends .command session (session.changeTitle title))
        (session.changeTitle title)
  | asked (block : String) (free : session.errand? = none) :
      Move refusals session [.asked block]
        { session.cancel with errand? := some (.refresh block) }
  | closing (free : session.errand? = none) :
      Move refusals session [] { session.cancel with errand? := some .close }
  | accepted (now : Int) (block : String) (query : Query) (ended : session.isRunning = false)
      (errand : session.errand? = some (.refresh block))
        (read : session.read now block = .ok query) :
      Move refusals session [.accepted block query]
        { session with
          errand? := none
          query? := some query
          latest? := none
          running? := some (.start { query, interval := session.interval }) }
  | refused (now : Int) (block : String) (problem : Query.Problem)
      (ended : session.isRunning = false) (errand : session.errand? = some (.refresh block))
      (read : session.read now block = .error problem) :
      Move refusals session [.queued (.refresh block) (.error problem.toQueryError.message)]
        ({ session with running? := none, errand? := none }.post
          (.error problem.toQueryError.message))
  | closed (ended : session.isRunning = false) (errand : session.errand? = some .close) :
      Move refusals session [.closed] { session with running? := none, errand? := none }
  | cancelled : Move refusals session [] session.cancel
  | released (ended : session.isRunning = false) : Move refusals session [] session.release
  | answered (running : Running) (c : Call) (next : c.Answer → Task Stage) (answer : c.Answer)
      (current : session.running? = some running) (silent : running.unsent? = none)
      (task : running.task? = some (.call c next)) (others : c.isOwn = false)
      (admits : c.Admits refusals answer) :
      Move refusals session []
        { session with running? := some { running with task? := some (next answer) } }
  | reported (running : Running) (progress : Progress) (next : Unit → Task Stage)
      (current : session.running? = some running) (silent : running.unsent? = none)
      (task : running.task? = some (.call (.report progress) next)) :
      Move refusals session [] { (session.note running.execution.query progress).1 with
        running? := some { running with
          task? := some (next ())
          unsent? := (session.note running.execution.query progress).2 } }
  | consulted (running : Running) (next : Bool → Task Stage)
      (current : session.running? = some running) (silent : running.unsent? = none)
      (task : running.task? = some (.call .cancelled next)) :
      Move refusals session [] { session with
        running? := some { running with task? := some (next running.cancelled) } }
  | concluded (running : Running) (outcome : Except QueryError Report)
      (current : session.running? = some running) (silent : running.unsent? = none)
      (task : running.task? = some (.done (.ended outcome))) :
      Move refusals session [.concluded]
        { (session.conclude running.execution.query outcome).1 with
        running? := some { running with
          task? := none
          unsent? := some (session.conclude running.execution.query outcome).2 } }
  | turned (running : Running) (stage : Stage) (current : session.running? = some running)
      (silent : running.unsent? = none) (task : running.task? = some (.done stage))
      (ongoing : ∀ outcome, stage ≠ .ended outcome) :
      Move refusals session [] { session with
        running? := some { running with task? := some (running.execution.turn stage) } }
  | delivered (running : Running) (message : Message) (current : session.running? = some running)
      (unsent : running.unsent? = some message) :
      Move refusals session (.queued .execution message ::
        if running.task?.isNone then [.ended] else [])
        ({ session with running? := some { running with unsent? := none } }.post message)

inductive Moves (refusals : QueryError → Prop) : Session → List Happening → Session → Prop
  | nil (session : Session) : Moves refusals session [] session
  | cons {session middle final : Session} {happenings later : List Happening}
      (first : Move refusals session happenings middle)
      (others : Moves refusals middle later final) :
      Moves refusals session (happenings ++ later) final

variable {refusals : QueryError → Prop}

theorem Moves.single {session final : Session} {happenings : List Happening}
    (h : Move refusals session happenings final) : Moves refusals session happenings final := by
  rw [← List.append_nil happenings]
  exact .cons h (.nil final)

theorem sends_of_sent_eq {source : Source} {before after : Session} {messages : List Message}
    (h : after.sent = before.sent ++ messages) :
    sends source before after = messages.map (.queued source) := by
  rw [sends, h, List.drop_left]

@[simp] theorem sends_self (source : Source) (session : Session) :
    sends source session session = [] :=
  sends_of_sent_eq (List.append_nil _).symm

@[simp] theorem isRunning_cancel (session : Session) :
    session.cancel.isRunning = session.isRunning := by
  unfold isRunning cancel
  cases session.running? <;> rfl

@[simp] theorem note_errand? (session : Session) (query : Query) (progress : Progress) :
    (session.note query progress).1.errand? = session.errand? := by
  cases progress <;> rfl

@[simp] theorem conclude_errand? (session : Session) (query : Query)
    (outcome : Except QueryError Report) :
    (session.conclude query outcome).1.errand? = session.errand? := by
  cases outcome <;> rfl

/-- What a session fetches never shows a title. -/
def Attends (session : Session) : Prop :=
  ∀ task, session.errand? = some (.fetch task) →
    task.Ensures (fun _ => True) fun message => !message.showsTitle

theorem fetchRecord_untitled (site : Site) (pointer : String) :
    (fetchRecord site pointer).Ensures (fun _ => True) fun message => !message.showsTitle := by
  refine ⟨trivial, fun answer => ?_⟩
  cases answer with
  | error e => exact rfl
  | ok =>
      refine ⟨trivial, fun answer => ?_⟩
      cases answer <;> exact rfl

theorem Opens.attends {session : Session} (opens : session.Opens) : session.Attends := by
  intro task h
  rw [opens.idle.2] at h
  cases h

theorem Move.attends {session final : Session} {happenings : List Happening}
    (h : Move refusals session happenings final) (attends : session.Attends) : final.Attends := by
  cases h with
  | attended running closing task? untitled =>
      intro task h
      cases task? with
      | none => cases h
      | some => cases h; exact untitled task rfl
  | reported running progress =>
      intro task h
      exact attends task ((session.note_errand? _ progress).symm.trans h)
  | concluded running outcome =>
      intro task h
      exact attends task ((session.conclude_errand? _ outcome).symm.trans h)
  | _ => first | exact attends | exact fun task h => by cases h

theorem Moves.attends {session final : Session} {happenings : List Happening}
    (h : Moves refusals session happenings final) (attends : session.Attends) :
    final.Attends := by
  induction h with
  | nil => exact attends
  | cons first others ih => exact ih (first.attends attends)

theorem afterEnd_moves (session : Session) (now : Int) (ended : session.isRunning = false) :
    Moves refusals session (session.endHappenings now session.errand?)
      (session.afterEnd now).1 := by
  unfold endHappenings afterEnd
  cases herrand : session.errand? with
  | none => exact .nil session
  | some errand =>
      cases errand with
      | fetch task => exact .nil session
      | close => exact .single (.closed ended herrand)
      | refresh block =>
          have same : { session with running? := none, errand? := none }.read now block =
              session.read now block := rfl
          simp only [run, same]
          cases read : session.read now block with
          | ok query => exact .single (.accepted now block query ended herrand read)
          | error problem => exact .single (.refused now block problem ended herrand read)

theorem endHappenings_waiting (session : Session) (now : Int) (errand : Errand) :
    ({ session.cancel with errand? := some errand } : Session).endHappenings now (some errand) =
      session.endHappenings now (some errand) := by
  cases errand with
  | close => rfl
  | fetch task => rfl
  | refresh block =>
      have same :
          ({ session.cancel with errand? := some (.refresh block) } : Session).read now block =
            session.read now block := rfl
      simp only [endHappenings, same]

theorem stopFor_moves (session : Session) (now : Int) (errand : Errand) :
    Moves refusals { session.cancel with errand? := some errand }
      (session.stopHappenings now errand) (session.stopFor now errand).1 := by
  have running : ({ session.cancel with errand? := some errand } : Session).isRunning =
      session.isRunning := session.isRunning_cancel
  unfold stopHappenings stopFor
  cases ended : session.isRunning with
  | true =>
      simp only [running, ended, if_true]
      exact .nil _
  | false =>
      simp only [running, ended, Bool.false_eq_true, if_false]
      rw [← endHappenings_waiting]
      exact afterEnd_moves _ now (running.trans ended)

theorem fetch_moves (session : Session) (task : Task Message)
    (running : ∀ block, session.errand? ≠ some (.refresh block))
    (closing : session.errand? ≠ some .close)
    (untitled : task.Ensures (fun _ => True) fun message => !message.showsTitle) :
    Moves refusals session (sends .command session (session.fetch task).1)
      (session.fetch task).1 := by
  cases task with
  | call c next =>
      have sent : sends .command session (session.fetch (.call c next)).1 = [] :=
        sends_of_sent_eq (List.append_nil _).symm
      rw [sent]
      exact .single (.attended running closing (some (.call c next)) (by simpa using untitled))
  | done message =>
      have sent : sends .command session (session.fetch (.done message)).1 =
          [message].map (.queued .command) := sends_of_sent_eq rfl
      rw [sent]
      refine .cons (.attended running closing none (by simp)) (.single ?_)
      exact .posted message untitled

theorem post_moves (session : Session) (message : Message) (untitled : !message.showsTitle) :
    Moves refusals session (sends .command session (session.post message))
      (session.post message) := by
  have sent : sends .command session (session.post message) = [message].map (.queued .command) :=
    sends_of_sent_eq rfl
  rw [sent]
  exact .single (.posted message untitled)

theorem handle_moves (session : Session) (now : Int) (command : Command)
    (free : session.errand? = none) :
    Moves refusals session (session.commandHappenings now command)
      (session.handle now command).1 := by
  cases command with
  | refresh block => exact .cons (.asked block free) (session.stopFor_moves now _)
  | close => exact .cons (.closing free) (session.stopFor_moves now .close)
  | changeTitle title => exact .single (.renamed title)
  | openRaw => exact session.post_moves _ rfl
  | duplicate =>
      simp only [commandHappenings, handle]
      cases session.duplicate? with
      | some copy =>
          simp only [sends_self]
          exact .nil session
      | none => exact session.post_moves _ rfl
  | goToLog pointer region =>
      simp only [commandHappenings, handle]
      cases session.query? with
      | none => exact session.post_moves _ rfl
      | some query =>
          refine session.fetch_moves _ ?_ ?_ (fetchRecord_untitled _ pointer) <;> simp [free]

theorem fetched_moves (session : Session) (attends : session.Attends)
    (answers : (c : Call) → c.Answer) :
    Moves refusals session (session.happenings (.fetched answers))
      (session.step (.fetched answers)) := by
  simp only [happenings, step]
  split
  · rename_i c next errand
    refine session.fetch_moves _ ?_ ?_ ((attends _ errand).2 (answers c)) <;> simp [errand]
  · rw [sends_self]
    exact .nil session

theorem take_moves (session : Session) {running : Running} {task : Task Stage}
    (current : session.running? = some running) (silent : running.unsent? = none)
    (htask : running.task? = some task) :
    Moves refusals session (if session.concludes then [.concluded] else [])
      (session.take running task) := by
  obtain ⟨execution, _, _, cancelled⟩ := running
  cases silent
  cases htask
  cases task with
  | done stage =>
      cases stage with
      | ended outcome =>
          have concludes : session.concludes = true := by simp [concludes, current]
          rw [concludes]
          exact .single (.concluded _ outcome current rfl rfl)
      | draining found drain rest =>
          have quiet : session.concludes = false := by simp [concludes, current]
          rw [quiet]
          exact .single (.turned _ _ current rfl rfl nofun)
      | polling logGroups polling =>
          have quiet : session.concludes = false := by simp [concludes, current]
          rw [quiet]
          exact .single (.turned _ _ current rfl rfl nofun)
  | call c next =>
      have quiet : session.concludes = false := by simp [concludes, current]
      rw [quiet]
      cases c with
      | report progress => exact .single (.reported _ progress next current rfl rfl)
      | cancelled => exact .single (.consulted _ next current rfl rfl)
      | _ => exact .nil session

theorem proceed_moves (session : Session) :
    Moves refusals session (session.happenings .proceeded) session.proceed := by
  simp only [happenings]
  cases current : session.running? with
  | none => simpa [concludes, proceed, current] using Moves.nil session
  | some running =>
      cases silent : running.unsent? with
      | some message =>
          have quiet : session.concludes = false := by
            obtain ⟨execution, task?, _, cancelled⟩ := running
            cases silent
            simp [concludes, current]
          simpa [quiet, proceed, current, silent] using Moves.nil session
      | none =>
          cases htask : running.task? with
          | none =>
              have quiet : session.concludes = false := by
                obtain ⟨execution, _, unsent?, cancelled⟩ := running
                cases htask
                simp [concludes, current]
              simpa [quiet, proceed, current, silent, htask] using Moves.nil session
          | some task =>
              have takes : session.proceed = session.take running task := by
                simp only [proceed, current, silent, htask]
              rw [takes]
              exact session.take_moves current silent htask

theorem deliver_moves (session : Session) :
    Moves refusals session (session.happenings .delivered) session.deliver := by
  simp only [happenings]
  cases current : session.running? with
  | none => simpa [deliver, current] using Moves.nil session
  | some running =>
      cases unsent : running.unsent? with
      | none => simpa [deliver, current, unsent] using Moves.nil session
      | some message =>
          have delivers : session.deliver =
              { session with running? := some { running with unsent? := none }
                }.post message := by
            simp only [deliver, current, unsent]
          have sent : sends .execution session session.deliver =
              [message].map (.queued .execution) := by
            rw [delivers]
            exact sends_of_sent_eq rfl
          have ends : (session.isRunning && !session.deliver.isRunning) =
              running.task?.isNone := by
            rw [delivers]
            simp [isRunning, current, post, Running.ended, unsent]
          rw [sent, ends, delivers]
          exact .single (.delivered running message current unsent)

theorem admits_refused {events : List Event} {answers : (c : Call) → c.Answer}
    (hmem : .answered answers ∈ events) (c : Call) : c.Admits (Refused events) (answers c) := by
  cases c with
  | connect site => exact fun e refused => ⟨answers, site, hmem, refused⟩
  | _ => trivial

/-- Every event brings about what a session does at once, in turn. -/
theorem step_moves (session : Session) (attends : session.Attends) {events : List Event}
    {event : Event} (hmem : event ∈ events) :
    Moves (Refused events) session (session.happenings event) (session.step event) := by
  cases event with
  | fetched answers => exact session.fetched_moves attends answers
  | proceeded => exact session.proceed_moves
  | delivered => exact session.deliver_moves
  | cancelled => exact .single .cancelled
  | command now command =>
      simp only [happenings, step]
      split
      · rename_i free
        exact session.handle_moves now command (Option.isNone_iff_eq_none.mp free)
      · exact .nil session
  | resumed now =>
      simp only [happenings, step]
      split
      · exact .nil session
      · rename_i ended
        exact session.afterEnd_moves now ((Bool.not_eq_true _).mp ended)
  | released =>
      simp only [happenings, step]
      split
      · exact .nil session
      · rename_i ended
        exact .single (.released ((Bool.not_eq_true _).mp ended))
  | answered answers =>
      simp only [happenings, step]
      split
      · rename_i running current
        split
        · rename_i c next silent task
          split
          · exact .nil session
          · rename_i others
            have resumes : session.resume (next (answers c)) = { session with
                running? := some { running with task? := some (next (answers c)) } } := by
              rw [resume, current]
              rfl
            rw [resumes]
            exact .single (.answered running c next _ current silent task
              ((Bool.not_eq_true _).mp others) (admits_refused hmem c))
        · exact .nil session
      · exact .nil session

section

variable (invariant : List Happening → Session → Prop)

theorem Moves.keep (kept : ∀ {past happenings : List Happening} {session final : Session},
      invariant past session → Move refusals session happenings final →
        invariant (past ++ happenings) final)
    {past happenings : List Happening} {session final : Session}
    (moves : Moves refusals session happenings final) (h : invariant past session) :
    invariant (past ++ happenings) final := by
  induction moves generalizing past with
  | nil => rwa [List.append_nil]
  | cons first others ih =>
      rw [← List.append_assoc]
      exact ih (kept h first)

/-- What every move keeps is true after any events. -/
theorem history_induction (events : List Event)
    (kept : ∀ {past happenings : List Happening} {session final : Session},
      invariant past session → Move (Refused events) session happenings final →
        invariant (past ++ happenings) final)
    {session : Session} (attends : session.Attends) (first : invariant [] session) :
    invariant (session.history events) (session.after events) := by
  have all : ∀ later, (∀ event ∈ later, event ∈ events) → ∀ {past session}, session.Attends →
      invariant past session →
      invariant (past ++ session.history later) (session.after later) := by
    intro later
    induction later with
    | nil => exact fun _ _ _ _ h => by rwa [history, List.append_nil]
    | cons event later ih =>
        intro among past session attends h
        obtain ⟨hmem, among⟩ := List.forall_mem_cons.mp among
        have moves := session.step_moves attends hmem
        rw [history, ← List.append_assoc]
        exact ih among (moves.attends attends) (moves.keep invariant kept h)
  exact all events (fun _ => id) attends first

end

@[simp] theorem note_sent (session : Session) (query : Query) (progress : Progress) :
    (session.note query progress).1.sent = session.sent := by
  cases progress <;> rfl

@[simp] theorem conclude_sent (session : Session) (query : Query)
    (outcome : Except QueryError Report) :
    (session.conclude query outcome).1.sent = session.sent := by
  cases outcome <;> rfl

theorem sends_command_of_sent {before after : Session} {message : Message}
    (h : after.sent = before.sent ++ [message]) :
    sends .command before after = [.queued .command message] :=
  sends_of_sent_eq h

theorem sends_changeTitle (session : Session) (title : String) :
    ∃ shown, (session.changeTitle title).sent = session.sent ++ [.title shown] ∧
      sends .command session (session.changeTitle title) = [.queued .command (.title shown)] :=
  ⟨_, rfl, sends_command_of_sent rfl⟩

theorem Move.sent {session final : Session} {happenings : List Happening}
    (h : Move refusals session happenings final) :
    final.sent = session.sent ++ happenings.filterMap Happening.message? := by
  cases h with
  | renamed title =>
      obtain ⟨shown, sent, sends⟩ := session.sends_changeTitle title
      rw [sends]
      exact sent
  | delivered running message => cases running.task? <;> rfl
  | posted message => rfl
  | refused => rfl
  | reported running progress =>
      exact (session.note_sent _ progress).trans (List.append_nil _).symm
  | concluded running outcome =>
      exact (session.conclude_sent _ outcome).trans (List.append_nil _).symm
  | _ => exact (List.append_nil _).symm

/-- The history tells of every message that is sent, in order. -/
theorem sent_after {session : Session} (attends : session.Attends) (events : List Event) :
    (session.after events).sent =
      session.sent ++ (session.history events).filterMap Happening.message? := by
  refine history_induction (fun past later =>
    later.sent = session.sent ++ past.filterMap Happening.message?) events ?_ attends (by simp)
  intro past happenings before final h move
  rw [move.sent, h, List.filterMap_append, List.append_assoc]

end Session

end LogQuery
