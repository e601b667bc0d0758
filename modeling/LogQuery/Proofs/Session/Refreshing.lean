import LogQuery.Proofs.Query.Reading
import LogQuery.Proofs.Session.Outcome

/-!
How a session comes to run another block. It stops its execution and waits for it, and only then
reads the block; if the block is none, that is all that has happened.
-/

namespace LogQuery

theorem Query.read_error_congr {now : Int} {previousTitle? otherTitle? : Option String}
    {block : String} {problem : Problem}
    (rejected : read now previousTitle? block = .error problem) :
    read now otherTitle? block = .error problem := by
  cases told : ofContents now (contents (linesOf block)) with
  | error other =>
      rw [read_of_error told] at rejected ⊢
      exact rejected
  | ok query =>
      rw [read_of_ok told] at rejected
      cases rejected

def Happening.isOfExecution : Happening → Bool
  | concluded | ended | queued .execution _ => true
  | _ => false

namespace Session

theorem read_of_rejected {now : Int} {previousTitle? : Option String} {block : String}
    {problem : Query.Problem} (rejected : Query.read now previousTitle? block = .error problem)
    (session : Session) : session.read now block = .error problem := by
  rw [read, Query.read_error_congr rejected]
  rfl

/-- Whether it can come while a command waits for the end of the execution. -/
def Event.ofExecution : Event → Bool
  | .answered _ | .proceeded | .delivered | .cancelled => true
  | _ => false

def call? (session : Session) : Event → Option Call
  | .answered _ =>
    match session.running? with
    | some { task? := some (.call c _), unsent? := none, .. } => if c.isOwn then none else some c
    | _ => none
  | .fetched _ =>
    match session.errand? with
    | some (.fetch (.call c _)) => some c
    | _ => none
  | _ => none

def calls : (session : Session) → List Event → List Call
  | _, [] => []
  | session, event :: events => (session.call? event).toList ++ (session.step event).calls events

theorem calls_append (session : Session) (earlier later : List Event) :
    session.calls (earlier ++ later) =
      session.calls earlier ++ (session.after earlier).calls later := by
  induction earlier generalizing session with
  | nil => rfl
  | cons event earlier ih =>
      rw [List.cons_append, calls, ih, ← List.append_assoc]
      rfl

/-! ### A command that waits -/

def doing (session : Session) (errand? : Option Errand) : Session := { session with errand? }

section Waiting

variable (session : Session) (errand? : Option Errand) {event : Event}

theorem take_doing (running : Running) (task : Task Stage) :
    (session.doing errand?).take running task = (session.take running task).doing errand? := by
  cases task with
  | done stage =>
      cases stage with
      | ended outcome => cases outcome <;> rfl
      | draining found drain rest => rfl
      | polling logGroups polling => rfl
  | call c next =>
      cases c with
      | report progress => cases progress <;> rfl
      | _ => rfl

theorem proceed_doing : (session.doing errand?).proceed = session.proceed.doing errand? := by
  obtain ⟨interval, query?, title?, latest?, running?, pending?, sent⟩ := session
  cases running? with
  | none => rfl
  | some running =>
      obtain ⟨execution, task?, unsent?, cancelled⟩ := running
      cases unsent? with
      | some message => rfl
      | none =>
          cases task? with
          | none => rfl
          | some task => exact take_doing _ errand? _ task

theorem deliver_doing : (session.doing errand?).deliver = session.deliver.doing errand? := by
  obtain ⟨interval, query?, title?, latest?, running?, pending?, sent⟩ := session
  cases running? with
  | none => rfl
  | some running =>
      obtain ⟨execution, task?, unsent?, cancelled⟩ := running
      cases unsent? <;> rfl

theorem answered_doing (answers : (c : Call) → c.Answer) :
    (session.doing errand?).step (.answered answers) =
      (session.step (.answered answers)).doing errand? := by
  obtain ⟨interval, query?, title?, latest?, running?, pending?, sent⟩ := session
  cases running? with
  | none => rfl
  | some running =>
      obtain ⟨execution, task?, unsent?, cancelled⟩ := running
      cases unsent? with
      | some message => rfl
      | none =>
          cases task? with
          | none => rfl
          | some task =>
              cases task with
              | done stage => rfl
              | call c next => cases c <;> rfl

theorem step_doing (own : event.ofExecution) :
    (session.doing errand?).step event = (session.step event).doing errand? := by
  cases event with
  | cancelled => rfl
  | answered answers => exact session.answered_doing errand? answers
  | proceeded => exact session.proceed_doing errand?
  | delivered => exact session.deliver_doing errand?
  | _ => cases own

theorem happenings_doing (own : event.ofExecution) :
    (session.doing errand?).happenings event = session.happenings event := by
  cases event with
  | delivered => simp only [happenings, deliver_doing]; rfl
  | proceeded | answered | cancelled => rfl
  | _ => cases own

theorem call?_doing (own : event.ofExecution) :
    (session.doing errand?).call? event = session.call? event := by
  cases event with
  | proceeded | answered | cancelled | delivered => rfl
  | _ => cases own

variable {events : List Event} (own : ∀ event ∈ events, event.ofExecution)

include own

theorem after_doing :
    (session.doing errand?).after events = (session.after events).doing errand? := by
  induction events generalizing session with
  | nil => rfl
  | cons event events ih =>
      obtain ⟨first, own⟩ := List.forall_mem_cons.mp own
      rw [after, List.foldl_cons, session.step_doing errand? first]
      exact ih (session.step event) own

theorem history_doing : (session.doing errand?).history events = session.history events := by
  induction events generalizing session with
  | nil => rfl
  | cons event events ih =>
      obtain ⟨first, own⟩ := List.forall_mem_cons.mp own
      rw [history, session.happenings_doing errand? first, session.step_doing errand? first,
        ih (session.step event) own, history]

theorem calls_doing : (session.doing errand?).calls events = session.calls events := by
  induction events generalizing session with
  | nil => rfl
  | cons event events ih =>
      obtain ⟨first, own⟩ := List.forall_mem_cons.mp own
      rw [calls, session.call?_doing errand? first, session.step_doing errand? first,
        ih (session.step event) own, calls]

end Waiting

/-! ### Messages that were sent before -/

def behind (earlier : List Message) (session : Session) : Session :=
  { session with sent := earlier ++ session.sent }

section Behind

variable (earlier : List Message) (session : Session)

theorem post_behind (message : Message) :
    (session.behind earlier).post message = (session.post message).behind earlier := by
  simp only [post, behind, List.append_assoc]

theorem run_behind (now : Int) (block : String) :
    (session.behind earlier).run now block = (session.run now block).behind earlier := by
  have same : (session.behind earlier).read now block = session.read now block := rfl
  simp only [run, same]
  cases session.read now block with
  | error problem => exact session.post_behind earlier _
  | ok query => rfl

theorem afterEnd_behind (now : Int) : (session.behind earlier).afterEnd now =
    ((session.afterEnd now).1.behind earlier, (session.afterEnd now).2) := by
  have same : (session.behind earlier).errand? = session.errand? := rfl
  have freed : ({ session.behind earlier with running? := none, errand? := none } : Session) =
      behind earlier { session with running? := none, errand? := none } := rfl
  simp only [afterEnd, same, freed, run_behind]
  cases session.errand? with
  | none => rfl
  | some errand => cases errand <;> dsimp only

theorem stopFor_behind (now : Int) (errand : Errand) :
    (session.behind earlier).stopFor now errand =
    ((session.stopFor now errand).1.behind earlier, (session.stopFor now errand).2) := by
  have same : ({ (session.behind earlier).cancel with errand? := some errand } : Session) =
      behind earlier { session.cancel with errand? := some errand } := rfl
  have running : (behind earlier { session.cancel with errand? := some errand }).isRunning =
      ({ session.cancel with errand? := some errand } : Session).isRunning := rfl
  simp only [stopFor, same, running]
  split
  · rfl
  · exact afterEnd_behind earlier _ now

theorem changeTitle_behind (title : String) :
    (session.behind earlier).changeTitle title = (session.changeTitle title).behind earlier := by
  simp only [changeTitle, ← post_behind]
  rfl

theorem fetch_behind (task : Task Message) : (session.behind earlier).fetch task =
    ((session.fetch task).1.behind earlier, (session.fetch task).2) := by
  cases task with
  | call c next => rfl
  | done message =>
      exact congrArg (·,
        some Reply.carryOn) (post_behind earlier { session with errand? := none } message)

theorem handle_behind (now : Int) (command : Command) :
    (session.behind earlier).handle now command =
    ((session.handle now command).1.behind earlier, (session.handle now command).2) := by
  have posts (message : Message) : ((session.behind earlier).post message, some Reply.carryOn) =
      ((session.post message).behind earlier, some Reply.carryOn) :=
    congrArg (·, some Reply.carryOn) (session.post_behind earlier message)
  cases command with
  | refresh block => exact session.stopFor_behind earlier now (.refresh block)
  | close => exact session.stopFor_behind earlier now .close
  | changeTitle title =>
    exact congrArg (·, some Reply.carryOn) (session.changeTitle_behind earlier title)
  | openRaw => exact posts _
  | duplicate =>
      have same : (session.behind earlier).duplicate? = session.duplicate? := rfl
      simp only [handle, same]
      cases session.duplicate? with
      | some copy => rfl
      | none => exact posts _
  | goToLog pointer region =>
      have same : (session.behind earlier).query? = session.query? := rfl
      simp only [handle, same]
      cases session.query? with
      | none => exact posts _
      | some query => exact session.fetch_behind earlier _

theorem take_behind (running : Running) (task : Task Stage) :
    (session.behind earlier).take running task = (session.take running task).behind earlier := by
  cases task with
  | done stage =>
      cases stage with
      | ended outcome => cases outcome <;> rfl
      | draining found drain rest => rfl
      | polling logGroups polling => rfl
  | call c next =>
      cases c with
      | report progress => cases progress <;> rfl
      | _ => rfl

theorem proceed_behind : (session.behind earlier).proceed = session.proceed.behind earlier := by
  obtain ⟨interval, query?, title?, latest?, running?, errand?, sent⟩ := session
  cases running? with
  | none => rfl
  | some running =>
      obtain ⟨execution, task?, unsent?, cancelled⟩ := running
      cases unsent? with
      | some message => rfl
      | none =>
          cases task? with
          | none => rfl
          | some task => exact take_behind earlier _ _ task

theorem deliver_behind : (session.behind earlier).deliver = session.deliver.behind earlier := by
  obtain ⟨interval, query?, title?, latest?, running?, errand?, sent⟩ := session
  cases running? with
  | none => rfl
  | some running =>
      obtain ⟨execution, task?, unsent?, cancelled⟩ := running
      cases unsent? with
      | none => rfl
      | some message =>
          exact post_behind earlier ⟨interval, query?, title?, latest?, _, errand?, sent⟩ message

theorem step_behind (event : Event) :
    (session.behind earlier).step event = (session.step event).behind earlier := by
  have idle : (session.behind earlier).errand? = session.errand? := rfl
  have running : (session.behind earlier).isRunning = session.isRunning := rfl
  cases event with
  | command now command =>
      simp only [step, idle, handle_behind]
      split <;> rfl
  | fetched answers =>
      simp only [step, idle]
      split
      · exact congrArg Prod.fst (session.fetch_behind earlier _)
      · rfl
  | answered answers =>
      have same : (session.behind earlier).running? = session.running? := rfl
      simp only [step, same]
      split
      · split
        · split <;> rfl
        · rfl
      · rfl
  | proceeded => exact session.proceed_behind earlier
  | delivered => exact session.deliver_behind earlier
  | resumed now =>
      simp only [step, running, afterEnd_behind]
      split <;> rfl
  | cancelled => rfl
  | released =>
      simp only [step, running]
      split <;> rfl

theorem sends_behind (source : Source) (before after : Session) :
    sends source (before.behind earlier) (after.behind earlier) = sends source before after := by
  simp only [sends, behind, List.length_append, List.drop_append, Nat.add_sub_cancel_left,
    List.drop_eq_nil_of_le (Nat.le_add_right _ _), List.nil_append]

theorem endHappenings_behind (now : Int) (errand? : Option Errand) :
    (session.behind earlier).endHappenings now errand? = session.endHappenings now errand? := by
  have same (block : String) : (session.behind earlier).read now block = session.read now block :=
    rfl
  simp only [endHappenings, same]

theorem happenings_behind (event : Event) :
    (session.behind earlier).happenings event = session.happenings event := by
  have idle : (session.behind earlier).errand? = session.errand? := rfl
  have running : (session.behind earlier).isRunning = session.isRunning := rfl
  cases event with
  | resumed now => simp only [happenings, running, idle, endHappenings_behind]
  | command now command =>
      cases command with
      | refresh block | close =>
          simp only [happenings, commandHappenings, stopHappenings, idle, running,
            endHappenings_behind]
      | _ => simp only [happenings, commandHappenings, idle, changeTitle_behind,
        handle_behind, sends_behind]
  | fetched answers => simp only [happenings, step_behind, sends_behind]
  | delivered =>
      simp only [happenings, deliver_behind, sends_behind]
      rfl
  | _ => rfl

theorem after_behind (events : List Event) :
    (session.behind earlier).after events = (session.after events).behind earlier := by
  induction events generalizing session with
  | nil => rfl
  | cons event events ih =>
      rw [after, List.foldl_cons, session.step_behind earlier event]
      exact ih (session.step event)

theorem history_behind (events : List Event) :
    (session.behind earlier).history events = session.history events := by
  induction events generalizing session with
  | nil => rfl
  | cons event events ih =>
      rw [history, session.happenings_behind earlier, session.step_behind earlier, ih, history]

end Behind

/-! ### Running another block -/

/-- Stops the execution of a session and waits for it; this is what happens in between. -/
def stopping (between : List Event) : List Event := .cancelled :: (between ++ [.released])

/-- How a session that is asked to run a block gets to read it at the instant `now`. If an
execution is at work it stops that one and waits for it, and this is what happens in between. -/
inductive Refreshes (session : Session) (block : String) (now : Int) :
    List Event → List Event → Prop
  | atOnce (ended : session.isRunning = false) :
      Refreshes session block now [] [.command now (.refresh block)]
  | waiting (asked : Int) (between : List Event) (running : session.isRunning)
      (own : ∀ event ∈ between, event.ofExecution)
      (ended : (session.cancel.after between).isRunning = false) :
      Refreshes session block now between (.command asked (.refresh block) ::
        (between ++ [.resumed now]))

section Refreshing

variable {session : Session} {block : String} {now : Int} {between steps : List Event}

theorem errand?_after (session : Session) {events : List Event}
    (own : ∀ event ∈ events, event.ofExecution) :
    (session.after events).errand? = session.errand? := by
  have same : session.doing session.errand? = session := rfl
  rw [← same, session.after_doing session.errand? own]
  rfl

theorem after_stopping (ended : (session.cancel.after between).isRunning = false) :
    session.after (stopping between) = (session.cancel.after between).release := by
  have first : session.after (stopping between) = session.cancel.after (between ++ [.released]) :=
    rfl
  rw [first, after_append]
  exact if_neg (Bool.eq_false_iff.mp ended)

theorem history_singleton (session : Session) (event : Event) :
    session.history [event] = session.happenings event :=
  List.append_nil _

theorem history_stopping (between : List Event) :
    session.history (stopping between) = session.cancel.history between := by
  have first : session.history (stopping between) =
    session.cancel.history (between ++ [.released]) := rfl
  rw [first, history_append, history_singleton]
  exact List.append_nil _

theorem afterEnd_refresh (session : Session) (free : session.errand? = none) :
    ((session.doing (some (.refresh block))).afterEnd now).1 = session.release.run now block := by
  have freed : ({ session with running? := none, errand? := none } : Session) =
      session.release := by
    rw [release, ← free]
  simp only [doing, afterEnd, freed]

theorem endHappenings_congr (before after : Session) (query : after.query? = before.query?)
    (title : after.title? = before.title?) (errand? : Option Errand) :
    after.endHappenings now errand? = before.endHappenings now errand? := by
  simp only [endHappenings, read, query, title]

theorem resumed_ended (ended : session.isRunning = false) (errand : Errand) :
    (session.doing (some errand)).happenings (.resumed now) =
      session.release.endHappenings now (some errand) := by
  have resumes : (session.doing (some errand)).happenings (.resumed now) =
      (session.doing (some errand)).endHappenings now (some errand) :=
    if_neg (Bool.eq_false_iff.mp ended)
  rw [resumes]
  exact endHappenings_congr session.release (session.doing (some errand)) rfl rfl _

namespace Refreshes

theorem ended (h : session.Refreshes block now between steps) :
    (session.cancel.after between).isRunning = false := by
  cases h with
  | atOnce ended => exact session.isRunning_cancel.trans ended
  | waiting asked _ _ _ ended => exact ended

theorem own (h : session.Refreshes block now between steps) :
    ∀ event ∈ between, event.ofExecution := by
  cases h with
  | atOnce => exact List.forall_mem_nil _
  | waiting _ _ _ own => exact own

theorem idle (free : session.errand? = none) (h : session.Refreshes block now between steps) :
    (session.after (stopping between)).running? = none ∧
      (session.after (stopping between)).errand? = none := by
  rw [after_stopping h.ended]
  exact ⟨rfl, (session.cancel.errand?_after h.own).trans free⟩

end Refreshes

variable (free : session.errand? = none)

include free

theorem asked_running (running : session.isRunning) (asked : Int) :
    session.step (.command asked (.refresh block)) =
      session.cancel.doing (some (.refresh block)) := by
  have still : ({ session.cancel with errand? := some (.refresh block) } : Session).isRunning :=
    session.isRunning_cancel.trans running
  simp only [step, free, Option.isNone_none, if_true, handle, stopFor, still]
  rfl

theorem asked_idle (ended : session.isRunning = false) :
    session.step (.command now (.refresh block)) = session.cancel.release.run now block := by
  have still : ({ session.cancel with errand? := some (.refresh block) } : Session).isRunning =
      false := session.isRunning_cancel.trans ended
  simp only [step, free, Option.isNone_none, if_true, handle, stopFor, still]
  exact afterEnd_refresh session.cancel free

/-- While the command waits the session is as if its execution had been stopped and nothing
else. -/
theorem waits_after (block : String) (running : session.isRunning) (asked : Int)
    (own : ∀ event ∈ between, event.ofExecution) :
    session.after (.command asked (.refresh block) :: between) =
        (session.after (.cancelled :: between)).doing (some (.refresh block)) ∧
      session.history (.command asked (.refresh block) :: between) =
        .asked block :: session.history (.cancelled :: between) := by
  constructor
  · rw [after, List.foldl_cons, asked_running free running]
    exact session.cancel.after_doing _ own
  · have asks : session.happenings (.command asked (.refresh block)) = [.asked block] := by
      simp only [happenings, free, commandHappenings, stopHappenings, running]
      rfl
    rw [history, asks, asked_running free running, session.cancel.history_doing _ own]
    rfl

theorem Refreshes.after_eq (h : session.Refreshes block now between steps) :
    session.after steps = (session.after (stopping between)).run now block := by
  rw [after_stopping h.ended]
  cases h with
  | atOnce ended => exact asked_idle free ended
  | waiting asked _ running own ended =>
      rw [← List.cons_append, after_append, (waits_after free block running asked own).1]
      have resumes :
          ((session.cancel.after between).doing (some (.refresh block))).step (.resumed now) =
            (((session.cancel.after between).doing (some (.refresh block))).afterEnd now).1 :=
        if_neg (Bool.eq_false_iff.mp ended)
      exact resumes.trans (afterEnd_refresh _ ((session.cancel.errand?_after own).trans free))

theorem Refreshes.history_eq (h : session.Refreshes block now between steps) :
    session.history steps = .asked block :: (session.history (stopping between) ++
      (session.after (stopping between)).endHappenings now (some (.refresh block))) := by
  rw [after_stopping h.ended, history_stopping]
  cases h with
  | atOnce ended =>
      have asks : session.happenings (.command now (.refresh block)) =
          .asked block :: session.endHappenings now (some (.refresh block)) := by
        simp only [happenings, free, commandHappenings, stopHappenings, ended, Option.isNone_none,
          if_true, Bool.false_eq_true, if_false]
      have same : (session.cancel.after []).release.endHappenings now (some (.refresh block)) =
          session.endHappenings now (some (.refresh block)) :=
        endHappenings_congr session session.cancel.release rfl rfl _
      rw [history_singleton, asks, ← same, history, List.nil_append]
  | waiting asked _ running own ended =>
      obtain ⟨reached, told⟩ := waits_after free block running asked own
      have stopped : session.after (.cancelled :: between) = session.cancel.after between := rfl
      have silent : session.history (.cancelled :: between) = session.cancel.history between :=
        rfl
      rw [← List.cons_append, history_append, reached, told, history_singleton, stopped, silent,
        resumed_ended ended, List.cons_append]

theorem Refreshes.calls_eq (h : session.Refreshes block now between steps) :
    session.calls steps = session.calls (stopping between) := by
  have stopped : session.calls (stopping between) = session.cancel.calls between := by
    have first : session.calls (stopping between) =
      session.cancel.calls (between ++ [.released]) := rfl
    rw [first, calls_append]
    exact List.append_nil _
  rw [stopped]
  cases h with
  | atOnce => rfl
  | waiting asked _ running own ended =>
      have first : session.calls (.command asked (.refresh block) ::
        (between ++ [.resumed now])) =
        (session.step (.command asked (.refresh block))).calls (between ++ [.resumed now]) := rfl
      rw [first, asked_running free running, calls_append, calls_doing _ _ own]
      exact List.append_nil _

end Refreshing

/-! ### An execution that is told to stop -/

/-- Whether the execution of a session may come to its end. -/
def Halts (session : Session) : Prop :=
  ∃ events, (∀ event ∈ events, event.ofExecution) ∧ (session.after events).isRunning = false

/-- Whether an execution that has been told to stop is at work, and this is left of its turn. -/
def Leaves (session : Session) (execution : Execution) (task : Task Stage) : Prop :=
  session.running? = some { execution, task? := some task, unsent? := none, cancelled := true }

section Halting

variable {session : Session} {execution : Execution}

theorem Halts.of_step (event : Event) (own : event.ofExecution) (h : (session.step event).Halts) :
    session.Halts := by
  obtain ⟨events, others, ended⟩ := h
  exact ⟨event :: events, List.forall_mem_cons.mpr ⟨own, others⟩, ended⟩

theorem Leaves.answered {c : Call} {next : c.Answer → Task Stage}
    (leaves : session.Leaves execution (.call c next)) (others : c.isOwn = false)
    (answers : (c : Call) → c.Answer) :
    (session.step (.answered answers)).Leaves execution (next (answers c)) := by
  obtain ⟨interval, query?, title?, latest?, running?, errand?, sent⟩ := session
  cases leaves
  cases c <;> first | rfl | cases others

theorem Leaves.reported {progress : Progress} {next : Unit → Task Stage}
    (leaves : session.Leaves execution (.call (.report progress) next)) :
    session.proceed.deliver.Leaves execution (next ()) := by
  obtain ⟨interval, query?, title?, latest?, running?, errand?, sent⟩ := session
  cases leaves
  cases progress <;> rfl

theorem Leaves.consulted {next : Bool → Task Stage}
    (leaves : session.Leaves execution (.call .cancelled next)) :
    session.proceed.Leaves execution (next true) := by
  obtain ⟨interval, query?, title?, latest?, running?, errand?, sent⟩ := session
  cases leaves
  rfl

theorem Leaves.turned {stage : Stage} (leaves : session.Leaves execution (.done stage))
    (ongoing : ∀ outcome, stage ≠ .ended outcome) :
    session.proceed.Leaves execution (execution.turn stage) := by
  obtain ⟨interval, query?, title?, latest?, running?, errand?, sent⟩ := session
  cases leaves
  cases stage with
  | ended outcome => exact absurd rfl (ongoing outcome)
  | _ => rfl

theorem Leaves.halts_ended {outcome : Except QueryError Report}
    (leaves : session.Leaves execution (.done (.ended outcome))) : session.Halts := by
  have task : session.task? = some (.done (.ended outcome)) := by rw [task?, leaves]; rfl
  have silent : session.unsent? = none := by rw [unsent?, leaves]; rfl
  exact ⟨[.proceeded, .delivered], by simp [Event.ofExecution], ends_after task silent⟩

/-- What is left of a turn is finite, however its calls are answered. -/
theorem Leaves.halts_of_stages
    (stages : ∀ (session : Session) stage, session.Leaves execution (.done stage) → session.Halts)
    {task : Task Stage} (leaves : session.Leaves execution task) : session.Halts := by
  induction task generalizing session with
  | done stage => exact stages session stage leaves
  | call c next ih =>
      cases c with
      | report progress =>
        exact .of_step .proceeded rfl (.of_step .delivered rfl (ih () leaves.reported))
      | cancelled => exact .of_step .proceeded rfl (ih true leaves.consulted)
      | _ => exact .of_step (.answered welcome) rfl (ih _ (leaves.answered rfl welcome))

/-- Without a service a catalog cannot be drained, and a round of results is the last. -/
theorem Leaves.halts_stage (session : Session) (stage : Stage)
    (leaves : session.Leaves execution (.done stage)) : session.Halts := by
  cases stage with
  | ended outcome => exact leaves.halts_ended
  | draining found drain rest =>
      have turned := leaves.turned (by simp)
      refine .of_step .proceeded rfl (.of_step (.answered welcome) rfl ?_)
      exact Leaves.halts_ended (turned.answered rfl welcome)
  | polling logGroups polling =>
      have turned : session.proceed.Leaves execution (execution.round logGroups polling) :=
        leaves.turned (by simp)
      refine .of_step .proceeded rfl (.of_step (.answered welcome) rfl ?_)
      rw [Execution.round_eq] at turned
      have round := turned.answered rfl welcome
      cases received : polling.receive (List.ofFn (welcome (.results polling.unsettled))) with
      | error e =>
          simp only [received] at round
          exact round.halts_ended
      | ok next =>
          simp only [received] at round
          exact .of_step .proceeded rfl (round.consulted.halts_ended)

theorem halts_cancel (session : Session) : session.cancel.Halts := by
  obtain ⟨interval, query?, title?, latest?, running?, errand?, sent⟩ := session
  cases running? with
  | none => exact ⟨[], List.forall_mem_nil _, rfl⟩
  | some running =>
      obtain ⟨execution, task?, unsent?, cancelled⟩ := running
      cases task? with
      | none =>
          refine ⟨[.delivered], by simp [Event.ofExecution], ?_⟩
          cases unsent? <;> rfl
      | some task =>
          have leaves {session : Session}
              (leaves : session.Leaves execution task) : session.Halts :=
            leaves.halts_of_stages Leaves.halts_stage
          cases unsent? with
          | none => exact leaves rfl
          | some message => exact .of_step .delivered rfl (leaves rfl)

theorem exists_refreshes (session : Session) (block : String) (now : Int) :
    ∃ between steps, session.Refreshes block now between steps := by
  cases running : session.isRunning with
  | false => exact ⟨[], _, .atOnce running⟩
  | true =>
      obtain ⟨between, own, ended⟩ := session.halts_cancel
      exact ⟨between, _, .waiting now between running own ended⟩

end Halting

/-! ### Refusing a block -/

theorem own_happenings {session : Session} {event : Event} (own : event.ofExecution) :
    ∀ happening ∈ session.happenings event, happening.isOfExecution := by
  cases event with
  | proceeded =>
      simp only [happenings]
      split <;> simp [Happening.isOfExecution]
  | delivered =>
      refine List.forall_mem_append.mpr ⟨fun happening hmem => ?_, ?_⟩
      · obtain ⟨message, _, rfl⟩ := List.mem_map.mp hmem
        rfl
      · split <;> simp [Happening.isOfExecution]
  | answered | cancelled => exact List.forall_mem_nil _
  | _ => cases own

theorem own_history {session : Session} {events : List Event}
    (own : ∀ event ∈ events, event.ofExecution) :
    ∀ happening ∈ session.history events, happening.isOfExecution := by
  induction events generalizing session with
  | nil => exact List.forall_mem_nil _
  | cons event events ih =>
      obtain ⟨first, others⟩ := List.forall_mem_cons.mp own
      exact List.forall_mem_append.mpr ⟨own_happenings first, ih others⟩

/-- A session that is asked to run a block that is none stops its execution and tells one error.
All else is as if the execution had been stopped and nothing else. -/
theorem refused_block_only_stops {session : Session} (free : session.errand? = none)
    {block : String} {now : Int} {previousTitle? : Option String} {problem : Query.Problem}
    (refused : Query.read now previousTitle? block = .error problem) :
    (∃ between steps, session.Refreshes block now between steps) ∧
    (∀ asked between, session.isRunning → (∀ event ∈ between, event.ofExecution) →
      let asking := Event.command asked (.refresh block) :: between
      session.after asking =
        (session.after (.cancelled :: between)).doing (some (.refresh block)) ∧
        session.history asking = .asked block :: session.history (.cancelled :: between)) ∧
    ∀ between steps, session.Refreshes block now between steps →
      let stopped := session.after (stopping between)
      let final := session.after steps
      let error := Message.error problem.toQueryError.message
      final = stopped.post error ∧ final.running? = none ∧ final.errand? = none ∧
        session.history steps = .asked block ::
          (session.history (stopping between) ++ [.queued (.refresh block) error]) ∧
        (∀ happening ∈ session.history (stopping between), happening.isOfExecution) ∧
        session.calls steps = session.calls (stopping between) ∧
        ∀ later, final.history later = stopped.history later ∧ ∃ rest,
          stopped.after later = behind stopped.sent rest ∧
          final.after later = behind (stopped.sent ++ [error]) rest ∧
          ∀ instant command, ((final.after later).handle instant command).2 =
            ((stopped.after later).handle instant command).2 := by
  refine ⟨session.exists_refreshes block now, fun asked between running own =>
    waits_after free block running asked own, ?_⟩
  intro between steps refreshes stopped final error
  have rejected : stopped.read now block = .error problem := read_of_rejected refused stopped
  have final_eq : final = stopped.post error := by
    have run : stopped.run now block = stopped.post error := by simp only [run, rejected, error]
    exact (refreshes.after_eq free).trans run
  obtain ⟨idle, done⟩ := refreshes.idle free
  refine ⟨final_eq, final_eq ▸ idle, final_eq ▸ done, ?_, ?_, refreshes.calls_eq free,
    fun later => ?_⟩
  · have told : stopped.endHappenings now (some (.refresh block)) =
        [.queued (.refresh block) error] := by
      simp only [endHappenings, rejected, error]
    rw [← told]
    exact refreshes.history_eq free
  · rw [history_stopping]
    exact own_history refreshes.own
  · -- Both are the same session, but for the messages that were sent before.
    let fresh : Session := { stopped with sent := [] }
    have stopped_eq : stopped = fresh.behind stopped.sent := by
      simp only [fresh, behind, List.append_nil]
    have final_fresh : final = fresh.behind (stopped.sent ++ [error]) := by
      rw [final_eq]
      simp only [fresh, behind, post, List.append_nil]
    have stopped_after : stopped.after later = (fresh.after later).behind stopped.sent :=
      (congrArg (after · later) stopped_eq).trans (after_behind _ fresh later)
    have final_after : final.after later = (fresh.after later).behind (stopped.sent ++ [error]) :=
      (congrArg (after · later) final_fresh).trans (after_behind _ fresh later)
    refine ⟨?_, fresh.after later, stopped_after, final_after, fun instant command => ?_⟩
    · calc final.history later = fresh.history later := by rw [final_fresh, history_behind]
        _ = (fresh.behind stopped.sent).history later := (history_behind ..).symm
        _ = stopped.history later := congrArg (history · later) stopped_eq.symm
    · rw [final_after, stopped_after, handle_behind, handle_behind]

theorem refused_block_only_stops_running :
    let reached := (Session.new 0).after (emptying.take 7)
    let between := [.answered welcome, .proceeded, .delivered]
    let steps := .command 0 (.refresh "x") :: (between ++ [.resumed 1])
    let stopped := reached.after (stopping between)
    reached.isRunning ∧ reached.errand? = none ∧
      Query.read 1 none "x" = .error (.missingSettings 1) ∧
      reached.Refreshes "x" 1 between steps ∧
      stopped.sent.length = reached.sent.length + 1 ∧
      reached.after steps =
        stopped.post (.error (Query.Problem.toQueryError (.missingSettings 1)).message) := by
  intro reached between steps stopped
  have running : reached.isRunning := by decide +kernel
  have free : reached.errand? = none := by
    have free : reached.errand?.isNone := by decide +kernel
    exact Option.isNone_iff_eq_none.mp free
  have refused : Query.read 1 none "x" = .error (.missingSettings 1) := by decide +kernel
  have ended : (reached.cancel.after between).isRunning = false := by decide +kernel
  have refreshes : reached.Refreshes "x" 1 between steps :=
    .waiting 0 between running (by simp [between, Event.ofExecution]) ended
  have told : stopped.sent.length = reached.sent.length + 1 := by decide +kernel
  exact ⟨running, free, refused, refreshes, told,
    ((refused_block_only_stops free refused).2.2 between steps refreshes).1⟩

end Session

end LogQuery
