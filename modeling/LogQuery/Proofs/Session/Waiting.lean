import LogQuery.Proofs.Session.Replies

namespace LogQuery.Session

/-- Whether an execution, if there is one, has been told to stop. -/
def Told (session : Session) : Prop :=
  ∀ running, session.running? = some running → running.cancelled

/-- Whether what a command waits for may come. -/
structure Patient (session : Session) : Prop where
  told (errand : Errand) (pending : session.errand? = some errand)
    (stops : ∀ task, errand ≠ .fetch task) :
    session.Told
  asks (task : Task Message) (pending : session.errand? = some (.fetch task)) :
    ∃ c next, task = .call c next

section Telling

variable {session : Session} {event : Event}

theorem told_of_none (none : session.running? = none) : session.Told := by
  intro running current
  cases none.symm.trans current

theorem told_cancel (session : Session) : session.cancel.Told := by
  intro running current
  obtain ⟨before, -, rfl⟩ := Option.map_eq_some_iff.mp current
  rfl

theorem Told.cancel_eq (told : session.Told) : session.cancel = session := by
  obtain ⟨interval, query?, title?, latest?, running?, errand?, sent⟩ := session
  cases running? with
  | none => rfl
  | some running =>
      obtain ⟨execution, task?, unsent?, cancelled⟩ := running
      cases told _ rfl
      rfl

theorem Told.take {running : Running} (told : session.Told) (cancelled : running.cancelled)
    (task : Task Stage) : (session.take running task).Told := by
  have keeps {after : Session} {next : Running} (here : after.running? = some next)
      (same : next.cancelled = running.cancelled) : after.Told := by
    intro running' current
    cases here.symm.trans current
    rw [same, cancelled]
  cases task with
  | done stage =>
      cases stage with
      | ended outcome => exact keeps rfl rfl
      | draining => exact keeps rfl rfl
      | polling => exact keeps rfl rfl
  | call c next =>
      cases c with
      | report progress => exact keeps rfl rfl
      | cancelled => exact keeps rfl rfl
      | _ => exact told

theorem Told.step_own (told : session.Told) (own : event.ofExecution) :
    (session.step event).Told := by
  cases event with
  | cancelled => exact told_cancel session
  | proceeded =>
      simp only [step, proceed]
      split
      · next running current =>
          split
          · exact told.take (told running current) _
          · exact told
      · exact told
  | delivered =>
      simp only [step, deliver]
      split
      · next running current =>
          split
          · intro running' current'
            cases current'
            exact told running current
          · exact told
      · exact told
  | answered answers =>
      simp only [step]
      split
      · next running current =>
          split
          · split
            · exact told
            · intro running' current'
              obtain ⟨before, here, rfl⟩ := Option.map_eq_some_iff.mp current'
              exact told before here
          · exact told
      · exact told
  | _ => cases own

theorem Told.step_free (told : session.Told) (free : session.errand? = none)
    (uncommanded : event.isCommand = false) : (session.step event).Told := by
  cases event with
  | command => cases uncommanded
  | fetched answers =>
      simp only [step, free]
      exact told
  | resumed now =>
      simp only [step, afterEnd, free, ite_self]
      exact told
  | released =>
      simp only [step]
      split
      · exact told
      · exact told_of_none rfl
  | _ => exact told.step_own rfl

/-- What comes by itself is enough to end an execution that has been told to stop. -/
theorem Told.exists_end (told : session.Told) : ∃ events : List Event,
    (∀ event ∈ events, event.comes ∧ event.ofExecution) ∧
    (session.after events).isRunning = false := by
  obtain ⟨events, own, ended⟩ := session.halts_cancel
  rw [told.cancel_eq] at ended
  induction events generalizing session with
  | nil => exact ⟨[], List.forall_mem_nil _, ended⟩
  | cons event events ih =>
      obtain ⟨first, own⟩ := List.forall_mem_cons.mp own
      obtain ⟨others, come, ended⟩ := ih (told.step_own first) own ended
      cases comes : event.comes with
      | true => exact ⟨event :: others, List.forall_mem_cons.mpr ⟨⟨comes, first⟩, come⟩, ended⟩
      | false =>
          cases event with
          | cancelled =>
              have same : session.step .cancelled = session := told.cancel_eq
              exact ⟨others, come, same ▸ ended⟩
          | answered | proceeded | delivered => cases comes
          | command | fetched | resumed | released => cases first

end Telling

namespace Patient

variable {session : Session} {event : Event}

theorem of_free (free : session.errand? = none) : session.Patient where
  told := fun errand pending => by cases free.symm.trans pending
  asks := fun task pending => by cases free.symm.trans pending

theorem of_stopping {errand : Errand} (told : session.Told)
    (pending : session.errand? = some errand) (stops : ∀ task, errand ≠ .fetch task) :
    session.Patient where
  told := fun _ _ _ => told
  asks := fun task asked => absurd (Option.some.inj (pending.symm.trans asked)) (stops task)

theorem fetch (session : Session) (task : Task Message) : (session.fetch task).1.Patient := by
  cases task with
  | done message => exact of_free rfl
  | call c next =>
      constructor
      case told =>
        intro errand pending stops
        cases pending
        exact absurd rfl (stops _)
      case asks =>
        intro task pending
        cases pending
        exact ⟨c, next, rfl⟩

theorem afterEnd (h : session.Patient) (now : Int) : (session.afterEnd now).1.Patient := by
  cases pending : session.errand? with
  | none => simpa only [Session.afterEnd, pending] using h
  | some errand =>
      cases errand with
      | refresh block =>
          simp only [Session.afterEnd, pending]
          exact of_free (run_errand? _ rfl block)
      | close =>
          simp only [Session.afterEnd, pending]
          exact of_free rfl
      | fetch task => simpa only [Session.afterEnd, pending] using h

theorem stopFor (session : Session) (now : Int) {errand : Errand}
    (stops : ∀ task, errand ≠ .fetch task) :
    (session.stopFor now errand).1.Patient := by
  have told : ({ session.cancel with errand? := some errand } : Session).Told :=
    told_cancel session
  have patient := of_stopping told rfl stops
  simp only [Session.stopFor]
  split
  · exact patient
  · exact patient.afterEnd now

theorem handle (session : Session) (free : session.errand? = none) (now : Int)
    (command : Command) :
    (session.handle now command).1.Patient := by
  cases command with
  | refresh block => exact stopFor session now (by simp)
  | close => exact stopFor session now (by simp)
  | changeTitle title => exact of_free free
  | openRaw => exact of_free free
  | duplicate =>
      simp only [Session.handle]
      split <;> exact of_free free
  | goToLog pointer region =>
      simp only [Session.handle]
      split
      · exact of_free free
      · exact fetch session _

theorem step_own (h : session.Patient) (own : event.ofExecution) :
    (session.step event).Patient where
  told := fun errand pending stops =>
    (h.told errand ((session.step_errand? event own).symm.trans pending) stops).step_own own
  asks := fun task pending => h.asks task ((session.step_errand? event own).symm.trans pending)

theorem step (h : session.Patient) (event : Event) : (session.step event).Patient := by
  cases event with
  | command now command =>
      simp only [Session.step]
      split
      · next free => exact handle session (Option.isNone_iff_eq_none.mp free) now command
      · exact h
  | fetched answers =>
      simp only [Session.step]
      split
      · exact fetch session _
      · exact h
  | resumed now =>
      simp only [Session.step]
      split
      · exact h
      · exact h.afterEnd now
  | released =>
      simp only [Session.step]
      split
      · exact h
      · exact ⟨fun _ _ _ => told_of_none rfl, h.asks⟩
  | _ => exact h.step_own rfl

/-- What comes by itself is enough for a command to be finished. -/
theorem exists_reply (h : session.Patient) : ∃ events : List Event,
    (∀ event ∈ events, event.comes) ∧ (session.after events).errand? = none := by
  cases pending : session.errand? with
  | none => exact ⟨[], List.forall_mem_nil _, pending⟩
  | some errand =>
      have stopping (stops : ∀ task, errand ≠ .fetch task) : ∃ events : List Event,
          (∀ event ∈ events, event.comes) ∧ (session.after events).errand? = none := by
        obtain ⟨events, own, ended⟩ := (h.told errand pending stops).exists_end
        refine ⟨events ++ [.resumed 0], ?_, ?_⟩
        · exact List.forall_mem_append.mpr
            ⟨fun event hmem => (own event hmem).1, List.forall_mem_singleton.mpr rfl⟩
        · have still := (session.errand?_after fun event hmem => (own event hmem).2).trans pending
          have resumed : (session.after events).step (.resumed 0) =
              ((session.after events).afterEnd 0).1 := if_neg (Bool.eq_false_iff.mp ended)
          rw [after_append]
          refine (congrArg Session.errand? resumed).trans ?_
          cases errand with
          | refresh block => simpa only [Session.afterEnd, still] using run_errand? _ rfl block
          | close => simp only [Session.afterEnd, still]
          | fetch task => exact absurd rfl (stops task)
      cases errand with
      | refresh block => exact stopping (by simp)
      | close => exact stopping (by simp)
      | fetch task =>
          clear stopping
          induction task generalizing session with
          | done message =>
              obtain ⟨c, next, ended⟩ := h.asks _ pending
              cases ended
          | call c next ih =>
              have answered : session.step (.fetched welcome) =
                  (session.fetch (next (welcome c))).1 := by
                simp only [Session.step, pending]
              cases told : next (welcome c) with
              | done message =>
                  refine ⟨[.fetched welcome], List.forall_mem_singleton.mpr rfl, ?_⟩
                  rw [after, List.foldl_cons, answered, told]
                  rfl
              | call c' next' =>
                  obtain ⟨events, come, finished⟩ :=
                    ih (welcome c) (h.step (.fetched welcome)) (by
                    rw [answered, told]
                    rfl)
                  exact ⟨.fetched welcome :: events,
                    List.forall_mem_cons.mpr ⟨rfl, come⟩, finished⟩

end Patient

end LogQuery.Session
