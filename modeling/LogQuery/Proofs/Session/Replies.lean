import LogQuery.Proofs.Session.Lineage
import LogQuery.Proofs.Session.Refreshing

namespace LogQuery

namespace Reply

def copy? : Reply → Option Session
  | duplicated copy => some copy
  | _ => none

def closes : Reply → Bool
  | closed => true
  | _ => false

end Reply

namespace Session

def Event.isCommand : Event → Bool
  | .command _ _ => true
  | _ => false

/-- Whether it comes by itself, and not because somebody wants something. -/
def Event.comes : Event → Bool
  | .fetched _ | .answered _ | .proceeded | .delivered | .resumed _ => true
  | .command _ _ | .cancelled | .released => false

theorem Event.uncommanded (event : Event) (comes : event.comes) : event.isCommand = false := by
  cases event <;> first | rfl | cases comes

/-- A session after an event, and the reply to the command that is finished by it. -/
def react (session : Session) : Event → Session × Option Reply
  | .command now command =>
    if session.errand?.isNone then session.handle now command else (session, none)
  | .fetched answers =>
    match session.errand? with
    | some (.fetch (.call c next)) => session.fetch (next (answers c))
    | _ => (session, none)
  | .resumed now => if session.isRunning then (session, none) else session.afterEnd now
  | event => (session.step event, none)

section Reacting

variable (session : Session) (event : Event) {now : Int}

theorem react_step : (session.react event).1 = session.step event := by
  cases event with
  | command now command =>
      simp only [react, step]
      split <;> rfl
  | fetched answers =>
      simp only [react, step]
      cases session.errand? with
      | none => rfl
      | some errand =>
          cases errand with
          | fetch task => cases task <;> rfl
          | _ => rfl
  | resumed now =>
      simp only [react, step]
      split <;> rfl
  | _ => rfl

theorem run_errand? (free : session.errand? = none) (block : String) :
    (session.run now block).errand? = none := by
  unfold run
  split <;> exact free

theorem afterEnd_errand? : (session.afterEnd now).1.errand?.isSome =
    (session.errand?.isSome && (session.afterEnd now).2.isNone) := by
  unfold afterEnd
  cases pending : session.errand? with
  | none => simp [pending]
  | some errand =>
      cases errand with
      | refresh block => rw [run_errand? _ rfl]; rfl
      | close => rfl
      | fetch task => simp [pending]

theorem fetch_errand? (task : Task Message) :
    (session.fetch task).1.errand?.isSome = (session.fetch task).2.isNone := by
  cases task <;> rfl

theorem stopFor_errand? (errand : Errand) :
    (session.stopFor now errand).1.errand?.isSome = (session.stopFor now errand).2.isNone := by
  simp only [stopFor]
  split
  · rfl
  · exact afterEnd_errand? _

theorem handle_errand? (free : session.errand? = none) (command : Command) :
    (session.handle now command).1.errand?.isSome = (session.handle now command).2.isNone := by
  have free : session.errand?.isSome = false := by rw [free]; rfl
  cases command with
  | refresh block => exact session.stopFor_errand? _
  | close => exact session.stopFor_errand? .close
  | changeTitle title => exact free
  | openRaw => exact free
  | duplicate =>
      simp only [handle]
      split <;> exact free
  | goToLog pointer region =>
      simp only [handle]
      split
      · exact free
      · exact session.fetch_errand? _

theorem step_errand? (own : event.ofExecution) : (session.step event).errand? = session.errand? :=
  session.errand?_after (List.forall_mem_singleton.mpr own)

theorem react_errand? : (session.react event).1.errand?.isSome =
    ((session.errand?.isSome || event.isCommand) && (session.react event).2.isNone) := by
  cases event with
  | command now command =>
      simp only [react, Event.isCommand, Bool.or_true, Bool.true_and]
      split
      · next free => exact session.handle_errand? (Option.isNone_iff_eq_none.mp free) command
      · next busy => simpa [Option.isSome_iff_ne_none] using busy
  | fetched answers =>
      simp only [react, Event.isCommand, Bool.or_false]
      cases errand : session.errand? with
      | none => simp [errand]
      | some pending =>
          cases pending with
          | fetch task =>
              cases task with
              | done message => simp [errand]
              | call c next => exact session.fetch_errand? _
          | _ => simp [errand]
  | resumed now =>
      simp only [react, Event.isCommand, Bool.or_false]
      split
      · simp
      · exact session.afterEnd_errand?
  | released =>
      simp only [react, step, Event.isCommand, Option.isNone_none, Bool.or_false, Bool.and_true]
      split <;> rfl
  | answered | proceeded | delivered | cancelled =>
      simp only [react, Event.isCommand, Option.isNone_none, Bool.or_false, Bool.and_true]
      rw [step_errand? _ _ rfl]

theorem busy_of_reply (h : (session.react event).2.isSome) :
    session.errand?.isSome || event.isCommand := by
  cases event with
  | command now command => exact Bool.or_true _
  | fetched answers =>
      simp only [react] at h
      cases pending : session.errand? with
      | none => simp [pending] at h
      | some errand => rfl
  | resumed now =>
      simp only [react, afterEnd] at h
      cases pending : session.errand? with
      | none => simp [pending] at h
      | some errand => rfl
  | _ => cases h

theorem react_sent : ∃ more, (session.react event).1.sent = session.sent ++ more := by
  have fresh : session = behind session.sent { session with sent := [] } := by
    simp only [behind, List.append_nil]
  refine ⟨(step { session with sent := [] } event).sent, ?_⟩
  calc (session.react event).1.sent = (session.step event).sent := by rw [react_step]
    _ = (step (behind session.sent { session with sent := [] }) event).sent :=
      congrArg (fun session => (step session event).sent) fresh
    _ = _ := by rw [step_behind]; rfl

theorem stopFor_reply (now : Int) (errand : Errand) {copy : Session} :
    (session.stopFor now errand).2 ≠ some (.duplicated copy) := by
  simp only [stopFor]
  split
  · simp
  · cases errand <;> simp [afterEnd]

theorem command_of_duplicated {command : Command} {copy : Session}
    (h : (session.handle now command).2 = some (.duplicated copy)) : command = .duplicate := by
  cases command with
  | duplicate => rfl
  | refresh block => exact absurd h (session.stopFor_reply now _)
  | close => exact absurd h (session.stopFor_reply now .close)
  | changeTitle | openRaw => cases h
  | goToLog pointer region =>
      simp only [handle] at h
      split at h
      · cases h
      · next query _ => cases fetchRecord ⟨query.environment, region⟩ pointer <;> cases h

/-- No other command than to duplicate a session opens one. -/
theorem react_eq_duplicated {copy : Session} : (session.react event).2 = some (.duplicated copy) ↔
    (∃ now, event = .command now .duplicate) ∧ session.errand? = none ∧
      session.duplicate? = some copy := by
  constructor
  · intro h
    cases event with
    | command now command =>
        simp only [react] at h
        split at h
        · next free =>
            cases session.command_of_duplicated h
            exact ⟨⟨now, rfl⟩, Option.isNone_iff_eq_none.mp free, duplicate?_of_handle h⟩
        · cases h
    | fetched answers =>
        simp only [react] at h
        split at h
        · next next errand => cases fetched : next (answers _) <;> rw [fetched] at h <;> cases h
        · cases h
    | resumed now =>
        simp only [react, afterEnd] at h
        split at h
        · cases h
        · split at h <;> cases h
    | _ => cases h
  · rintro ⟨⟨now, rfl⟩, free, duplicated⟩
    simp only [react, free, Option.isNone_none, if_true, handle, duplicated]

theorem idle_of_duplicated {copy : Session}
    (h : (session.react event).2 = some (.duplicated copy)) :
    copy.running? = none ∧ copy.errand? = none := by
  obtain ⟨-, -, duplicated⟩ := (session.react_eq_duplicated event).mp h
  obtain ⟨query, -, rfl⟩ := Option.map_eq_some_iff.mp duplicated
  exact ⟨rfl, rfl⟩

/-- Whether a session is closed, or will be once what it waits for has come. -/
def Closing (outcome : Session × Option Reply) : Prop :=
  outcome.2 = some .closed ∨ outcome.1.errand? = some .close

theorem closing_afterEnd : Closing (session.afterEnd now) ↔ session.errand? = some .close := by
  unfold afterEnd Closing
  cases pending : session.errand? with
  | none => simp [pending]
  | some errand =>
      cases errand with
      | refresh block => simp [run_errand?]
      | close => simp
      | fetch task => simp [pending]

theorem closing_stopFor (errand : Errand) :
    Closing (session.stopFor now errand) ↔ errand = .close := by
  simp only [stopFor]
  split
  · simp [Closing]
  · rw [closing_afterEnd]
    simp

theorem not_closing_fetch (task : Task Message) : ¬ Closing (session.fetch task) := by
  cases task <;> simp [Closing, fetch, post]

theorem closing_handle (free : session.errand? = none) (command : Command) :
    Closing (session.handle now command) ↔ command = .close := by
  have carriesOn {after : Session} (same : after.errand? = session.errand?) :
      ¬ Closing (after, some .carryOn) := by
    rintro (reply | pending)
    · cases reply
    · cases (same.trans free).symm.trans pending
  cases command with
  | refresh block =>
      rw [handle, closing_stopFor]
      simp
  | close =>
      rw [handle, closing_stopFor]
      simp
  | changeTitle | openRaw => exact iff_of_false (carriesOn rfl) (by simp)
  | duplicate =>
      refine iff_of_false ?_ (by simp)
      simp only [handle]
      split
      · simp [Closing, free]
      · exact carriesOn rfl
  | goToLog pointer region =>
      refine iff_of_false ?_ (by simp)
      simp only [handle]
      split
      · exact carriesOn rfl
      · exact session.not_closing_fetch _

theorem closing_react (free : event.isCommand → session.errand? = none) :
    Closing (session.react event) ↔
      session.errand? = some .close ∨ ∃ now, event = .command now .close := by
  have same : Closing (session, none) ↔ session.errand? = some .close := by simp [Closing]
  cases event with
  | command now command =>
      simp only [react, free rfl, Option.isNone_none, if_true, session.closing_handle (free rfl)]
      simp
  | fetched answers =>
      simp only [react, reduceCtorEq, exists_false, or_false]
      split
      · next pending => simp [pending, not_closing_fetch]
      · exact same
  | resumed now =>
      simp only [react, reduceCtorEq, exists_false, or_false]
      split
      · exact same
      · exact session.closing_afterEnd
  | released =>
      simp only [react, step, reduceCtorEq, exists_false, or_false]
      split
      · exact same
      · simp [Closing, release]
  | answered | proceeded | delivered | cancelled =>
      simp only [Closing, react, reduceCtorEq, false_or, exists_false, or_false]
      rw [step_errand? _ _ rfl]

theorem running?_afterEnd (closed : (session.afterEnd now).2 = some .closed) :
    (session.afterEnd now).1.running? = none := by
  unfold afterEnd at closed ⊢
  split at closed
  · cases closed
  · rfl
  · cases closed

theorem running?_of_closed (closed : (session.react event).2 = some .closed) :
    (session.react event).1.running? = none := by
  cases event with
  | command now command =>
      simp only [react] at closed ⊢
      split at closed
      · next free =>
          have free : session.errand? = none := Option.isNone_iff_eq_none.mp free
          obtain rfl := (session.closing_handle free command).mp (.inl closed)
          simp only [free, Option.isNone_none, if_true, handle, stopFor] at closed ⊢
          split at closed
          · cases closed
          · next ended =>
              rw [if_neg ended]
              exact running?_afterEnd _ closed
      · cases closed
  | fetched answers =>
      simp only [react] at closed
      split at closed
      · exact absurd (.inl closed) (session.not_closing_fetch _)
      · cases closed
  | resumed now =>
      simp only [react] at closed ⊢
      split at closed
      · cases closed
      · next ended =>
          rw [if_neg ended]
          exact session.running?_afterEnd closed
  | _ => cases closed

theorem running?_step_free (nothing : session.running? = none) (free : session.errand? = none)
    (uncommanded : event.isCommand = false) : (session.step event).running? = none := by
  cases event with
  | command => cases uncommanded
  | fetched answers => simpa only [step, free] using nothing
  | answered answers => simp only [step, nothing]
  | proceeded => simp only [step, proceed, nothing]
  | delivered => simp only [step, deliver, nothing]
  | resumed now => simpa only [step, afterEnd, free, ite_self] using nothing
  | cancelled => simp only [step, cancel, nothing, Option.map_none]
  | released =>
      simp only [step]
      split
      · exact nothing
      · rfl

theorem react_of_idle (ended : session.isRunning = false) (free : session.errand? = none)
    (comes : event.comes) : session.react event = (session, none) := by
  obtain ⟨interval, query?, title?, latest?, running?, errand?, sent⟩ := session
  cases free
  cases event with
  | command | cancelled | released => cases comes
  | fetched answers => rfl
  | resumed now => exact if_neg (Bool.eq_false_iff.mp ended)
  | _ =>
      cases running? with
      | none => rfl
      | some running =>
          obtain ⟨execution, task?, unsent?, cancelled⟩ := running
          cases task? <;> cases unsent? <;> first | rfl | cases ended

theorem ended_step (ended : session.isRunning = false) (free : session.errand? = none)
    (uncommanded : event.isCommand = false) : (session.step event).isRunning = false := by
  rw [← react_step]
  cases event with
  | command => cases uncommanded
  | cancelled => exact session.isRunning_cancel.trans ended
  | released =>
      simp only [react, step]
      split
      · exact ended
      · rfl
  | _ => rw [session.react_of_idle _ ended free rfl]; exact ended

end Reacting

end Session

end LogQuery
