import LogQuery.Proofs.Execution.Closing
import LogQuery.Proofs.Session.Titles

namespace LogQuery

def Happening.told? : Happening → Option Message
  | queued .execution message => some message
  | _ => none

def Message.rows? : Message → Option (List Row × Nat)
  | results _ _ rows rowCount => some (rows, rowCount)
  | _ => none

/-- The rows of the last message with rows, and their number as it tells it. -/
def lastRows? (messages : List Message) : Option (List Row × Nat) :=
  (messages.filterMap Message.rows?).getLast?

theorem lastRows?_append_of_none {messages : List Message} {message : Message}
    (h : message.rows? = none) :
    lastRows? (messages ++ [message]) = lastRows? messages := by
  simp [lastRows?, List.filterMap_append, h]

def Aggregate.counted (result : Aggregate) : List Row × Nat :=
  (result.rows, result.rowCount)

/-- What the execution that has begun last has told so far. -/
def spoken (happenings : List Happening) : List Message :=
  happenings.foldl (fun messages happening =>
    match happening with
    | .accepted .. => []
    | .queued .execution message => messages ++ [message]
    | _ => messages) []

theorem spoken_append {past happenings : List Happening}
    (none : ∀ happening ∈ happenings, ¬happening.isAccepted) :
    spoken (past ++ happenings) = spoken past ++ happenings.filterMap Happening.told? := by
  induction happenings generalizing past with
  | nil => simp
  | cons happening happenings ih =>
      obtain ⟨first, none⟩ := List.forall_mem_cons.mp none
      rw [← List.singleton_append, ← List.append_assoc, ih none, List.filterMap_append,
        ← List.append_assoc]
      refine congrArg (· ++ _) ?_
      cases happening with
      | accepted => exact absurd rfl first
      | queued source message => cases source <;> simp [spoken, Happening.told?]
      | _ => simp [spoken, Happening.told?]

theorem spoken_accepted (past : List Happening) (block : String) (query : Query) :
    spoken (past ++ [.accepted block query]) = [] := by
  simp [spoken]

def Query.retitled (query : Query) (happenings : List Happening) : Query :=
  { query with title? := (lastRenamed happenings).or query.title? }

/-- The query of a view, which keeps the title that it was given. -/
def held (query? : Option Query) (happenings : List Happening) : Option Query :=
  happenings.foldl (fun query? happening =>
    match happening with
    | .accepted _ query => some query
    | .renamed title => query?.map fun query => { query with title? := some title }
    | _ => query?) query?

theorem held_append (query? : Option Query) (earlier later : List Happening) :
    held query? (earlier ++ later) = held (held query? earlier) later :=
  List.foldl_append

theorem held_of_not_isAccepted {query? : Option Query} {happenings : List Happening}
    (none : ∀ happening ∈ happenings, ¬happening.isAccepted) :
    held query? happenings = query?.map fun query => query.retitled happenings := by
  induction happenings generalizing query? with
  | nil => cases query? <;> rfl
  | cons happening happenings ih =>
      obtain ⟨first, none⟩ := List.forall_mem_cons.mp none
      rw [← List.singleton_append, held_append, ih none]
      cases happening with
      | accepted => exact absurd rfl first
      | renamed title => cases query? <;> simp [held, Query.retitled, lastRenamed]
      | _ => rfl

theorem held_accepted (query? : Option Query) (earlier : List Happening) (block : String)
    (query : Query) {later : List Happening} (none : ∀ happening ∈ later, ¬happening.isAccepted) :
    held query? (earlier ++ .accepted block query :: later) = some (query.retitled later) := by
  rw [held_append]
  exact held_of_not_isAccepted none

namespace Session

variable {refusals : QueryError → Prop} {session final : Session}
    {past happenings : List Happening}

/-- What is left of the turn of the execution, from the next call on. -/
def task? (session : Session) : Option (Task Stage) :=
  session.running?.bind Running.task?

theorem task?_cancel (session : Session) : session.cancel.task? = session.task? := by
  simp only [task?, cancel]
  cases session.running? <;> rfl

theorem unsent?_cancel (session : Session) : session.cancel.unsent? = session.unsent? := by
  simp only [unsent?, cancel]
  cases session.running? <;> rfl

theorem isRunning_eq (session : Session) :
    session.isRunning = (session.task?.isSome || session.unsent?.isSome) := by
  unfold isRunning task? unsent?
  cases session.running? with
  | none => rfl
  | some running =>
      simp only [Running.ended, Option.bind_some]
      cases running.task? <;> cases running.unsent? <;> rfl

theorem idle_of_not_isRunning (ended : session.isRunning = false) :
    session.task? = none ∧ session.unsent? = none := by
  rw [isRunning_eq, Bool.or_eq_false_iff] at ended
  exact ⟨by simpa using ended.1, by simpa using ended.2⟩

/-- What a move does to the execution, and the messages that the execution makes up as it does. -/
inductive Act (session final : Session) (happenings : List Happening) : List Message → Prop
  | rests (task : final.task? = session.task?) (latest : final.latest? = session.latest?)
      (query : final.query? = held session.query? happenings) : Act session final happenings []
  | answered (c : Call) (next : c.Answer → Task Stage) (answer : c.Answer)
      (task : session.task? = some (.call c next)) (others : ∀ progress, c ≠ .report progress)
      (goes : final.task? = some (next answer)) (latest : final.latest? = session.latest?)
      (query : final.query? = held session.query? happenings) : Act session final happenings []
  | turned (execution : Execution) (stage : Stage) (task : session.task? = some (.done stage))
      (ongoing : ∀ outcome, stage ≠ .ended outcome)
      (goes : final.task? = some (execution.turn stage))
      (latest : final.latest? = session.latest?)
      (query : final.query? = held session.query? happenings) : Act session final happenings []
  | reported (own : Query) (progress : Progress) (next : Unit → Task Stage)
      (task : session.task? = some (.call (.report progress) next))
      (goes : final.task? = some (next ()))
      (latest : final.latest? = (session.note own progress).1.latest?)
      (query : final.query? = held session.query? happenings) :
      Act session final happenings (session.note own progress).2.toList
  | concluded (own : Query) (outcome : Except QueryError Report)
      (task : session.task? = some (.done (.ended outcome))) (ends : final.task? = none)
      (latest : final.latest? = (session.conclude own outcome).1.latest?)
      (query : final.query? = held (session.conclude own outcome).1.query? happenings) :
      Act session final happenings [(session.conclude own outcome).2]

/-- The messages of the execution that has begun last, also one that has yet to be sent. -/
def made (past : List Happening) (session : Session) : List Message :=
  spoken past ++ session.unsent?.toList

/-- What comes of a move as far as the execution is concerned. -/
inductive Advances (session : Session) : List Happening → Session → Prop
  | begins (block : String) (query : Query) (final : Session) (ended : session.isRunning = false)
      (task : final.task? = some (Execution.start ⟨query, session.interval⟩))
      (unsent : final.unsent? = none) (latest : final.latest? = none)
      (held : final.query? = some query) :
      Advances session [.accepted block query] final
  | acts (happenings : List Happening) (final : Session) (messages : List Message)
      (unaccepted : ∀ happening ∈ happenings, ¬happening.isAccepted)
      (told : happenings.filterMap Happening.told? ++ final.unsent?.toList =
        session.unsent?.toList ++ messages)
      (act : Act session final happenings messages) : Advances session happenings final

theorem made_append {messages : List Message}
    (unaccepted : ∀ happening ∈ happenings, ¬happening.isAccepted)
    (told : happenings.filterMap Happening.told? ++ final.unsent?.toList =
      session.unsent?.toList ++ messages) :
    made (past ++ happenings) final = made past session ++ messages := by
  rw [made, spoken_append unaccepted, List.append_assoc, told, ← List.append_assoc, made]

theorem Advances.of_rest (task : final.task? = session.task?)
    (unsent : final.unsent? = session.unsent?) (latest : final.latest? = session.latest?)
    (query : final.query? = held session.query? happenings)
    (silent : ∀ happening ∈ happenings, ¬happening.isAccepted ∧ happening.told? = none) :
    Advances session happenings final := by
  refine .acts happenings final [] (fun happening hmem => (silent happening hmem).1) ?_
    (.rests task latest query)
  rw [List.filterMap_eq_nil_iff.mpr fun happening hmem => (silent happening hmem).2, unsent,
    List.nil_append, List.append_nil]

theorem Advances.of_act {running : Running} {messages : List Message}
    (current : session.running? = some running) (silent : running.unsent? = none)
    (unsent : final.unsent?.toList = messages)
    (quiet : ∀ happening ∈ happenings, ¬happening.isAccepted ∧ happening.told? = none)
    (act : Act session final happenings messages) : Advances session happenings final := by
  refine .acts happenings final messages (fun happening hmem => (quiet happening hmem).1) ?_ act
  rw [List.filterMap_eq_nil_iff.mpr fun happening hmem => (quiet happening hmem).2, unsent,
    unsent?, current, Option.bind_some, silent]
  rfl

/-- Commands do not touch the execution but for its end; it goes on by itself, and the session
keeps what it tells. -/
theorem Move.advances (h : Move refusals session happenings final) :
    Advances session happenings final := by
  cases h with
  | attended => exact .of_rest rfl rfl rfl rfl (by simp)
  | posted message =>
    exact .of_rest rfl rfl rfl rfl (by simp [Happening.isAccepted, Happening.told?])
  | renamed title =>
      obtain ⟨shown, sent, sends⟩ := session.sends_changeTitle title
      rw [sends]
      exact .of_rest rfl rfl rfl rfl (by simp [Happening.isAccepted, Happening.told?])
  | asked block =>
      exact .of_rest session.task?_cancel session.unsent?_cancel rfl rfl
        (by simp [Happening.isAccepted, Happening.told?])
  | closing => exact .of_rest session.task?_cancel session.unsent?_cancel rfl rfl (by simp)
  | cancelled => exact .of_rest session.task?_cancel session.unsent?_cancel rfl rfl (by simp)
  | released ended =>
      obtain ⟨task, unsent⟩ := idle_of_not_isRunning ended
      exact .of_rest task.symm unsent.symm rfl rfl (by simp)
  | closed ended =>
      obtain ⟨task, unsent⟩ := idle_of_not_isRunning ended
      exact .of_rest task.symm unsent.symm
        rfl rfl (by simp [Happening.isAccepted, Happening.told?])
  | refused now block problem ended =>
      obtain ⟨task, unsent⟩ := idle_of_not_isRunning ended
      exact .of_rest task.symm unsent.symm
        rfl rfl (by simp [Happening.isAccepted, Happening.told?])
  | accepted now block query ended => exact .begins block query _ ended rfl rfl rfl rfl
  | answered running c next answer current silent task others =>
      refine .of_act current silent (by simp [unsent?, silent]) (by simp)
        (.answered c next answer (by rw [task?, current]; exact task) ?_ rfl rfl rfl)
      rintro progress rfl
      cases others
  | consulted running next current silent task =>
      refine .of_act current silent (by simp [unsent?, silent]) (by simp)
        (.answered .cancelled next running.cancelled
          (by rw [task?, current]; exact task) ?_ rfl rfl rfl)
      rintro progress ⟨⟩
  | turned running stage current silent task ongoing =>
      exact .of_act current silent (by simp [unsent?, silent]) (by simp)
        (.turned running.execution stage (by rw [task?, current]; exact task) ongoing rfl rfl rfl)
  | reported running progress next current silent task =>
      refine .of_act current silent rfl (by simp)
        (.reported running.execution.query progress next
          (by rw [task?, current]; exact task) rfl rfl ?_)
      cases progress <;> rfl
  | concluded running outcome current silent task =>
      exact .of_act current silent rfl (by simp [Happening.isAccepted, Happening.told?])
        (.concluded running.execution.query outcome
          (by rw [task?, current]; exact task) rfl rfl rfl)
  | delivered running message current unsent =>
      have task : session.task? = running.task? := by rw [task?, current]; rfl
      have made : session.unsent? = some message := by rw [unsent?, current]; exact unsent
      refine .acts _ _ [] ?_ ?_ (.rests task.symm rfl ?_)
      · cases running.task? <;> simp [Happening.isAccepted]
      · rw [made]
        cases running.task? <;> rfl
      · cases running.task? <;> rfl

/-- How what a session keeps goes with what its execution has told, while this is left of its
turn. -/
structure Working (past : List Happening) (session : Session) (task : Task Stage) : Prop where
  closes : task.Closes session.latest?
  shown : lastRows? (session.made past) = session.latest?.map Aggregate.counted
  substantial : ∀ result ∈ session.latest?, result.rows ≠ []
  unfinished : ∀ message ∈ session.made past, ¬message.isFinished
  query : session.query? = held none past

inductive Conduct (past : List Happening) (session : Session) : Prop
  /-- No execution has begun, or it has ended with an error. -/
  | idle (task : session.task? = none)
      (unfinished : ∀ message ∈ session.made past, ¬message.isFinished)
  | working (task : Task Stage) (current : session.task? = some task)
      (working : Working past session task)
  | finished (task : session.task? = none) (earlier : List Message) (ending : Ending)
      (title : String) (statistics : Statistics) (result : Aggregate)
      (made : session.made past = earlier ++ [.finished ending title result.rowCount statistics])
      (unfinished : ∀ message ∈ earlier, ¬message.isFinished)
      (latest : session.latest? = some result)
      (substantial : ∀ shown ∈ lastRows? earlier, shown.1 ≠ [])
      (final : ending = .completed → result.rows = [] ∨ lastRows? earlier = some result.counted)

theorem note_latest? (session : Session) (own : Query) (progress : Progress) :
    (session.note own progress).1.latest? = (Call.report progress).latest session.latest? := by
  cases progress <;> rfl

namespace Working

theorem goes_on {present next : Task Stage} (h : Working past session present)
    (closes : next.Closes session.latest?) (latest : final.latest? = session.latest?)
    (query : final.query? = held session.query? happenings)
    (made : final.made (past ++ happenings) = session.made past) :
    Working (past ++ happenings) final next where
  closes := latest ▸ closes
  shown := by rw [made, latest, h.shown]
  substantial := latest ▸ h.substantial
  unfinished := made ▸ h.unfinished
  query := by rw [query, h.query, held_append]

theorem reported {own : Query} {progress : Progress} {next : Unit → Task Stage}
    (h : Working past session (.call (.report progress) next))
    (latest : final.latest? = (session.note own progress).1.latest?)
    (query : final.query? = held session.query? happenings)
    (made : final.made (past ++ happenings) =
      session.made past ++ (session.note own progress).2.toList) :
    Working (past ++ happenings) final (next ()) := by
  obtain ⟨rows, closes⟩ := h.closes
  rw [note_latest?] at latest
  constructor
  · rw [latest]
    exact (closes ()).2
  · rw [made, latest]
    cases progress with
    | logGroups resolved => exact (lastRows?_append_of_none rfl).trans h.shown
    | started queries => exact (congrArg lastRows? (List.append_nil _)).trans h.shown
    | results result changed =>
        simp [lastRows?, note, Message.rows?, Call.latest, Aggregate.counted]
  · rw [latest]
    cases progress with
    | logGroups resolved => exact h.substantial
    | started queries => exact h.substantial
    | results result changed =>
        rintro _ ⟨⟩
        exact rows
  · rw [made, List.forall_mem_append]
    refine ⟨h.unfinished, ?_⟩
    cases progress <;> simp [note, Message.isFinished]
  · rw [query, h.query, held_append]

/-- What the session keeps of the outcome is what was shown last, but for rows that have gone. -/
theorem concluded {own : Query} {outcome : Except QueryError Report}
    (h : Working past session (.done (.ended outcome))) (ends : final.task? = none)
    (latest : final.latest? = (session.conclude own outcome).1.latest?)
    (made : final.made (past ++ happenings) =
      session.made past ++ [(session.conclude own outcome).2]) :
    Conduct (past ++ happenings) final := by
  cases outcome with
  | error e =>
      refine .idle ends ?_
      rw [made]
      exact List.forall_mem_append.mpr ⟨h.unfinished, by simp [conclude, Message.isFinished]⟩
  | ok report =>
      refine .finished ends (session.made past) report.ending _ report.statistics report.result
        made h.unfinished latest ?_ fun completed => ?_
      · rw [h.shown]
        intro counted hmem
        obtain ⟨result, hresult, rfl⟩ := Option.map_eq_some_iff.mp hmem
        exact h.substantial result hresult
      · rw [h.shown]
        exact (h.closes completed).imp_right fun last => congrArg (Option.map _) last

end Working

namespace Conduct

theorem at_work {task : Task Stage} (h : Conduct past session)
    (current : session.task? = some task) :
    Working past session task := by
  cases h with
  | idle none => cases none.symm.trans current
  | finished none => cases none.symm.trans current
  | working task' current' working =>
      cases current'.symm.trans current
      exact working

theorem begins {block : String} {query : Query} {execution : Execution}
    (task : final.task? = some execution.start) (unsent : final.unsent? = none)
    (latest : final.latest? = none) (accepted : final.query? = some query) :
    Conduct (past ++ [.accepted block query]) final := by
  have none : final.made (past ++ [.accepted block query]) = [] := by
    rw [made, spoken_accepted, unsent]
    rfl
  refine .working _ task ⟨execution.start_closes, ?_, by simp [latest], by simp [none], ?_⟩
  · rw [none, latest]
    rfl
  · rw [accepted, held_append]
    rfl

theorem advance (h : Conduct past session) (advances : Advances session happenings final) :
    Conduct (past ++ happenings) final := by
  cases advances with
  | begins block query final ended task unsent latest accepted =>
      exact begins task unsent latest accepted
  | acts happenings final messages unaccepted told act =>
      have now : final.made (past ++ happenings) = session.made past ++ messages :=
        made_append unaccepted told
      cases act with
      | reported own progress next task goes latest query =>
          exact .working _ goes ((h.at_work task).reported latest query now)
      | concluded own outcome task ends latest query =>
          exact (h.at_work task).concluded ends latest now
      | answered c next answer task others goes latest query =>
          have closes := ((h.at_work task).closes.2 answer).2
          rw [Call.latest_of_not_report others] at closes
          exact .working _ goes
            ((h.at_work task).goes_on closes latest query (now.trans (List.append_nil _)))
      | turned execution stage task ongoing goes latest query =>
          have closes := execution.turn_closes (h.at_work task).closes
          exact .working _ goes
            ((h.at_work task).goes_on closes latest query (now.trans (List.append_nil _)))
      | rests same latest query =>
          -- The execution takes no part, so that each case stays what it is.
          rw [List.append_nil] at now
          cases h with
          | idle none unfinished => exact .idle (same.trans none) (now ▸ unfinished)
          | working task current working =>
              exact .working task (same.trans current)
                (working.goes_on working.closes latest query now)
          | finished none earlier ending title statistics result hmade unfinished latest'
              substantial final =>
              exact .finished (same.trans none) earlier ending title statistics result
                (now.trans hmade) unfinished (latest.trans latest') substantial final

end Conduct

theorem conduct_after (opens : session.Opens) (events : List Event) :
    Conduct (session.history events) (session.after events) := by
  have first : Conduct [] session := by
    refine .idle (by rw [task?, opens.idle.1]; rfl) ?_
    simp [made, spoken, unsent?, opens.idle.1]
  exact history_induction Conduct events (fun h move =>
    h.advance move.advances) opens.attends first

end Session

end LogQuery
