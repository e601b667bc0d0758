import LogQuery.Proofs.Session.Replies

namespace LogQuery

theorem Query.regions_of_read {now : Int} {previousTitle? : Option String} {block : String}
    {query : Query} (told : read now previousTitle? block = .ok query) : query.regions ≠ [] := by
  rw [read_eq] at told
  cases settled : ofContents now (contents (linesOf block)) with
  | error problem =>
      rw [settled] at told
      cases told
  | ok settings =>
      rw [settled] at told
      cases told
      obtain ⟨_, _, _, -, -, reads⟩ := ofContents_eq_ok_iff.mp settled
      obtain ⟨named, _, -, rfl⟩ := ofSettings_eq_ok_iff.mp reads
      exact named

/-- Whether the next call, if there is one, is answered by somebody else. -/
def Task.Outward : Task Stage → Prop
  | .call c _ => c.isOwn = false
  | .done _ => True

theorem Execution.outward_start {execution : Execution} (named : execution.query.regions ≠ []) :
    execution.start.Outward := by
  obtain ⟨region, rest, regions⟩ := List.exists_cons_of_ne_nil named
  rw [Execution.start, regions]
  rfl

theorem Execution.outward_turn (execution : Execution) (stage : Stage) :
    (execution.turn stage).Outward := by
  cases stage with
  | ended outcome => exact trivial
  | draining found drain rest => rfl
  | polling logGroups polling => rfl

namespace Session

/-- Whether the execution waits for somebody else, if it has not ended. -/
def Rests (session : Session) : Prop :=
  ∀ running, session.running? = some running →
    running.unsent? = none ∧ ∀ task, running.task? = some task → task.Outward

variable {session : Session} {now : Int}

theorem rests_of_none (nothing : session.running? = none) : session.Rests := by
  intro running current
  cases nothing.symm.trans current

theorem rests_start {execution : Execution} (current : session.running? = some (.start execution))
    (named : execution.query.regions ≠ []) : session.Rests := by
  intro other here
  cases current.symm.trans here
  exact ⟨rfl, fun task same => Option.some.inj same ▸ Execution.outward_start named⟩

theorem regions_of_read {block : String} {query : Query}
    (told : session.read now block = .ok query) :
    query.regions ≠ [] := by
  unfold read at told
  cases reads : Query.read now (session.query?.bind Query.title?) block with
  | error problem =>
      rw [reads] at told
      cases told
  | ok bare =>
      rw [reads] at told
      cases told
      have named : bare.regions ≠ [] := Query.regions_of_read reads
      exact named

theorem Rests.run (h : session.Rests) (now : Int) (block : String) :
    (session.run now block).Rests := by
  unfold Session.run
  split
  · exact h
  · next query told => exact rests_start rfl (regions_of_read told)

theorem Rests.afterEnd (h : session.Rests) (now : Int) : (session.afterEnd now).1.Rests := by
  have freed : ({ session with running? := none, errand? := none } : Session).Rests :=
    rests_of_none rfl
  cases pending : session.errand? with
  | none => simpa only [Session.afterEnd, pending] using h
  | some errand =>
      cases errand with
      | refresh block =>
          simp only [Session.afterEnd, pending]
          exact freed.run now block
      | close =>
          simp only [Session.afterEnd, pending]
          exact freed
      | fetch task => simpa only [Session.afterEnd, pending] using h

theorem Rests.cancel (h : session.Rests) : session.cancel.Rests := by
  intro running current
  obtain ⟨before, here, rfl⟩ := Option.map_eq_some_iff.mp current
  exact h before here

theorem Rests.stopFor (h : session.Rests) (errand : Errand) :
    (session.stopFor now errand).1.Rests := by
  have rests : ({ session.cancel with errand? := some errand } : Session).Rests := h.cancel
  simp only [Session.stopFor]
  split
  · exact rests
  · exact rests.afterEnd now

theorem Rests.fetch (h : session.Rests) (task : Task Message) : (session.fetch task).1.Rests := by
  cases task <;> exact h

theorem Rests.handle (h : session.Rests) (command : Command) :
    (session.handle now command).1.Rests := by
  cases command with
  | refresh block => exact h.stopFor _
  | close => exact h.stopFor .close
  | changeTitle title => exact h
  | openRaw => exact h
  | duplicate =>
      simp only [Session.handle]
      split <;> exact h
  | goToLog pointer region =>
      simp only [Session.handle]
      split
      · exact h
      · exact h.fetch _

theorem rests_settle {execution : Execution} {cancelled : Bool} {task : Task Stage}
    (current : session.running? =
      some { execution, task? := some task, unsent? := none, cancelled }) :
    (session.settle task).Rests := by
  obtain ⟨interval, query?, title?, latest?, running?, errand?, sent⟩ := session
  cases current
  induction task generalizing query? latest? sent with
  | done stage =>
      cases stage with
      | ended outcome =>
          intro other here
          cases outcome <;> cases here <;> exact ⟨rfl, fun task same => by cases same⟩
      | draining found drain rest =>
          intro other here
          cases here
          exact ⟨rfl, fun task same => Option.some.inj same ▸ execution.outward_turn _⟩
      | polling logGroups polling =>
          intro other here
          cases here
          exact ⟨rfl, fun task same => Option.some.inj same ▸ execution.outward_turn _⟩
  | call c next ih =>
      cases c with
      | report progress =>
          cases progress with
          | logGroups resolved => exact ih () _ _ _
          | started queries => exact ih () _ _ _
          | results result fieldsChanged => exact ih () _ _ _
      | cancelled => exact ih cancelled _ _ _
      | _ =>
          intro other here
          cases here
          exact ⟨rfl, fun task same => by cases same; rfl⟩

theorem Rests.advance (h : session.Rests) (now : Int) (task : Task Stage) :
    (session.advance now task).1.Rests := by
  cases current : session.running? with
  | none => simpa only [Session.advance, current, Option.isNone_none, if_true] using h
  | some running =>
      have resumed : (session.resume task).running? =
          some { running with task? := some task } := by
        simp only [resume, current, Option.map_some]
      rw [(h running current).1] at resumed
      have settled := rests_settle resumed
      simp only [Session.advance, current, Option.isNone_some, Bool.false_eq_true, if_false]
      split
      · exact settled
      · exact settled.afterEnd now

/-- To go on with an execution after the answer to its call is to let events come, the last of
which may finish a command. -/
theorem Rests.advance_eq (h : session.Rests) {running : Running} {c : Call}
    {next : c.Answer → Task Stage} (current : session.running? = some running)
    (waits : running.task? = some (.call c next)) (now : Int) (answers : (c : Call) → c.Answer) :
    ∃ events, (∀ event ∈ events, event = .proceeded ∨ event = .delivered) ∧
      session.advance now (next (answers c)) =
        (session.after (.answered answers :: events)).react (.resumed now) := by
  obtain ⟨silent, outward⟩ := h running current
  have others : c.isOwn = false := outward _ waits
  obtain ⟨events, steps, settled⟩ :=
    (session.resume (next (answers c))).settle_eq_after (next (answers c))
  have answered : session.step (.answered answers) = session.resume (next (answers c)) := by
    simp [step, current, silent, waits, others]
  refine ⟨events, steps, ?_⟩
  rw [after, List.foldl_cons, answered, ← after, ← settled]
  simp only [Session.advance, current, Option.isNone_some, Bool.false_eq_true, if_false, react]

end Session

end LogQuery
