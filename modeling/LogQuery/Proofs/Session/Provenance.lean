import LogQuery.Proofs.Query.Reading
import LogQuery.Proofs.Session.Outcome
import Mathlib.Data.List.Induction

/-!
Where the rows come from that a session holds, and the field names of its query. Both are what an
execution of that very query has told or left; a query that takes its place begins without them.
-/

namespace LogQuery

open Display

/-- A query without its title and its field names, which are all of it that changes while it is
held. -/
def Query.bare (query : Query) : Query :=
  { query with title? := none, fieldNames? := none }

/-- What can be left of the turns of an execution, whatever its calls have been answered. -/
inductive Execution.Reaches (execution : Execution) : Task Stage → Prop
  | starts : Reaches execution execution.start
  | answered (c : Call) (next : c.Answer → Task Stage) (answer : c.Answer)
      (before : Reaches execution (.call c next)) : Reaches execution (next answer)
  | turned (stage : Stage) (before : Reaches execution (.done stage)) :
      Reaches execution (execution.turn stage)

namespace Session

variable {refusals : QueryError → Prop} {session final : Session}
    {past happenings : List Happening}

def Works (session : Session) (execution : Execution) (task : Task Stage) : Prop :=
  execution.Reaches task ∧ ∃ running, session.running? = some running ∧
    running.execution = execution ∧ running.unsent? = none ∧ running.task? = some task

/-- Whether the next step of an execution is to tell these rows, or to leave them behind. -/
inductive Gives (session : Session) (execution : Execution) (result : Aggregate) : Prop
  | tells (changed : Bool) (next : Unit → Task Stage)
      (works : session.Works execution (.call (.report (.results result changed)) next))
  | leaves (report : Report) (works : session.Works execution (.done (.ended (.ok report))))
      (rows : report.result = result)

/-- The field names of the query that the session holds. -/
def names? (session : Session) : Option (List String) :=
  session.query?.bind Query.fieldNames?

/-- Whether what the session holds is what it held before, or it holds nothing any more. -/
def Keeps (session : Session) (happenings : List Happening) (final : Session) : Prop :=
  (∀ happening ∈ happenings, ¬happening.isAccepted) ∧ final.latest? = session.latest? ∧
      final.names? = session.names? ∨
    final.latest? = none ∧ final.names? = none

theorem afterEnd_keeps (session : Session) (now : Int) :
    Keeps session (session.endHappenings now session.errand?) (session.afterEnd now).1 := by
  unfold endHappenings afterEnd
  cases session.errand? with
  | none => exact .inl ⟨by simp, rfl, rfl⟩
  | some errand =>
      cases errand with
      | fetch task => exact .inl ⟨by simp, rfl, rfl⟩
      | close => exact .inl ⟨by simp [Happening.isAccepted], rfl, rfl⟩
      | refresh block =>
          have same : { session with running? := none, errand? := none }.read now block =
              session.read now block := rfl
          simp only [run, same]
          cases read : session.read now block with
          | ok query => exact .inr ⟨rfl, (of_read read).2⟩
          | error problem => exact .inl ⟨by simp [Happening.isAccepted], rfl, rfl⟩

theorem stopFor_keeps (session : Session) (now : Int) (errand : Errand) :
    Keeps session (session.stopHappenings now errand) (session.stopFor now errand).1 := by
  have running : ({ session.cancel with errand? := some errand } : Session).isRunning =
      session.isRunning := session.isRunning_cancel
  unfold stopHappenings stopFor
  simp only [running]
  split
  · exact .inl ⟨by simp, rfl, rfl⟩
  · rw [← endHappenings_waiting]
    exact afterEnd_keeps { session.cancel with errand? := some errand } now

theorem sends_unaccepted (source : Source) (before after : Session) :
    ∀ happening ∈ sends source before after, ¬happening.isAccepted := by
  intro happening hmem
  obtain ⟨message, _, rfl⟩ := List.mem_map.mp hmem
  exact Bool.false_ne_true

theorem fetch_keeps (session : Session) (task : Task Message) :
    (session.fetch task).1.latest? = session.latest? ∧
    (session.fetch task).1.names? = session.names? := by
  cases task <;> exact ⟨rfl, rfl⟩

theorem handle_keeps (session : Session) (now : Int) (command : Command) :
    Keeps session (session.commandHappenings now command) (session.handle now command).1 := by
  cases command with
  | refresh block =>
      refine (session.stopFor_keeps now (.refresh block)).imp_left
        fun ⟨unaccepted, same⟩ => ⟨?_, same⟩
      exact List.forall_mem_cons.mpr ⟨Bool.false_ne_true, unaccepted⟩
  | close => exact session.stopFor_keeps now .close
  | changeTitle title =>
      refine .inl ⟨List.forall_mem_cons.mpr ⟨Bool.false_ne_true, sends_unaccepted _ _ _⟩, rfl, ?_⟩
      simp only [handle, changeTitle, names?, post]
      cases session.query? <;> rfl
  | openRaw => exact .inl ⟨sends_unaccepted _ _ _, rfl, rfl⟩
  | duplicate =>
      refine .inl ⟨sends_unaccepted _ _ _, ?_⟩
      simp only [handle]
      cases session.duplicate? <;> exact ⟨rfl, rfl⟩
  | goToLog pointer region =>
      refine .inl ⟨sends_unaccepted _ _ _, ?_⟩
      simp only [handle]
      cases session.query? with
      | none => exact ⟨rfl, rfl⟩
      | some query => exact session.fetch_keeps _

/-- What a session holds comes of nothing but the steps that its execution takes by itself. -/
theorem step_keeps (session : Session) {event : Event} (other : event ≠ .proceeded) :
    Keeps session (session.happenings event) (session.step event) := by
  cases event with
  | proceeded => exact absurd rfl other
  | command now command =>
      simp only [happenings, step]
      split
      · exact session.handle_keeps now command
      · exact .inl ⟨by simp, rfl, rfl⟩
  | fetched answers =>
      refine .inl ⟨sends_unaccepted _ _ _, ?_⟩
      simp only [step]
      split
      · exact session.fetch_keeps _
      · exact ⟨rfl, rfl⟩
  | answered answers =>
      refine .inl ⟨by simp [happenings], ?_⟩
      simp only [step]
      split
      · split
        · split <;> exact ⟨rfl, rfl⟩
        · exact ⟨rfl, rfl⟩
      · exact ⟨rfl, rfl⟩
  | delivered =>
      refine .inl ⟨List.forall_mem_append.mpr ⟨sends_unaccepted _ _ _, ?_⟩, ?_⟩
      · split <;> simp [Happening.isAccepted]
      · simp only [step, deliver]
        split
        · split <;> exact ⟨rfl, rfl⟩
        · exact ⟨rfl, rfl⟩
  | cancelled => exact .inl ⟨by simp [happenings], rfl, rfl⟩
  | resumed now =>
      simp only [happenings, step]
      split
      · exact .inl ⟨by simp, rfl, rfl⟩
      · exact session.afterEnd_keeps now
  | released =>
      refine .inl ⟨by simp [happenings], ?_⟩
      simp only [step]
      split <;> exact ⟨rfl, rfl⟩

/-- What is left of the turn of an execution has come from its start. -/
def Reaching (session : Session) : Prop :=
  ∀ running task, session.running? = some running → running.task? = some task →
    running.execution.Reaches task

theorem Reaching.cancel (h : session.Reaching) : session.cancel.Reaching := by
  intro running task current left
  obtain ⟨running, hrunning, rfl⟩ := Option.map_eq_some_iff.mp current
  exact h running task hrunning left

theorem Move.reaching (h : Move refusals session happenings final) (reaching : session.Reaching) :
    final.Reaching := by
  cases h with
  | attended | posted | renamed => exact reaching
  | asked | closing | cancelled => exact reaching.cancel
  | refused | closed | released => rintro running task ⟨⟩
  | accepted =>
      rintro running task ⟨⟩ ⟨⟩
      exact .starts
  | answered running c next answer current silent task =>
      rintro _ _ ⟨⟩ ⟨⟩
      exact .answered c next answer (reaching running _ current task)
  | reported running progress next current silent task =>
      rintro _ _ ⟨⟩ ⟨⟩
      exact .answered (.report progress) next () (reaching running _ current task)
  | consulted running next current silent task =>
      rintro _ _ ⟨⟩ ⟨⟩
      exact .answered .cancelled next running.cancelled (reaching running _ current task)
  | concluded => rintro _ _ ⟨⟩ ⟨⟩
  | turned running stage current silent task =>
      rintro _ _ ⟨⟩ ⟨⟩
      exact .turned stage (reaching running _ current task)
  | delivered running message current =>
      rintro _ task ⟨⟩ left
      exact reaching running task current left

theorem reaching_after (opens : session.Opens) (events : List Event) :
    (session.after events).Reaching :=
  history_induction (fun _ session => session.Reaching) events (fun h move => move.reaching h)
    opens.attends (by simp [Reaching, opens.idle.1])

theorem proceed_gives (reaching : session.Reaching) :
    (∀ result, session.proceed.latest? = some result → session.latest? = some result ∨
      ∃ execution, session.Gives execution result) ∧
    ∀ names, session.proceed.names? = some names → session.names? = some names ∨
      ∃ execution report, session.Works execution (.done (.ended (.ok report))) ∧
        report.fieldNames? = some names := by
  unfold proceed
  split
  · rename_i running current
    split
    · rename_i task silent left
      have works : session.Works running.execution task :=
        ⟨reaching running task current left, running, current, rfl, silent, left⟩
      cases task with
      | call c next =>
          cases c with
          | report progress =>
              cases progress with
              | results result changed =>
                  refine ⟨?_, fun names h => .inl h⟩
                  rintro _ ⟨⟩
                  exact .inr ⟨running.execution, .tells changed next works⟩
              | _ => exact ⟨fun result h => .inl h, fun names h => .inl h⟩
          | _ => exact ⟨fun result h => .inl h, fun names h => .inl h⟩
      | done stage =>
          cases stage with
          | ended outcome =>
              cases outcome with
              | error e => exact ⟨fun result h => .inl h, fun names h => .inl h⟩
              | ok report =>
                  refine ⟨?_, fun names h => .inr ⟨running.execution, report, works, ?_⟩⟩
                  · rintro _ ⟨⟩
                    exact .inr ⟨running.execution, .leaves report works rfl⟩
                  · simp only [take, conclude, names?] at h
                    obtain ⟨query, held, names⟩ := Option.bind_eq_some_iff.mp h
                    obtain ⟨current, _, rfl⟩ := Option.map_eq_some_iff.mp held
                    exact names
          | _ => exact ⟨fun result h => .inl h, fun names h => .inl h⟩
    · exact ⟨fun result h => .inl h, fun names h => .inl h⟩
  · exact ⟨fun result h => .inl h, fun names h => .inl h⟩

theorem proceeded_unaccepted (session : Session) :
    ∀ happening ∈ session.happenings .proceeded, ¬happening.isAccepted := by
  simp only [happenings]
  split <;> simp [Happening.isAccepted]

/-- What a session holds was there from the beginning, or was given by a step of its execution,
and no other query was accepted since. -/
theorem origin {α : Type} (value? : Session → Option α) (given : Session → α → Prop)
    (kept : ∀ (session : Session) {event : Event}, event ≠ .proceeded →
      (∀ happening ∈ session.happenings event, ¬happening.isAccepted) ∧
          value? (session.step event) = value? session ∨
        value? (session.step event) = none)
    (proceeds : ∀ earlier value, value? (session.after earlier).proceed = some value →
      value? (session.after earlier) = some value ∨ given (session.after earlier) value)
    {events : List Event} {value : α} (h : value? (session.after events) = some value) :
    value? session = some value ∧ (∀ happening ∈ session.history events, ¬happening.isAccepted) ∨
      ∃ earlier later, events = earlier ++ .proceeded :: later ∧
        (∀ happening ∈ (session.after earlier).history (.proceeded :: later),
          ¬happening.isAccepted) ∧
        given (session.after earlier) value := by
  induction events using List.reverseRecOn with
  | nil => exact .inl ⟨h, by simp [history]⟩
  | append_singleton events event ih =>
      rw [after_append] at h
      have last : value? (session.after events) = some value ∧
            (∀ happening ∈ (session.after events).happenings event, ¬happening.isAccepted) ∨
          event = .proceeded ∧ given (session.after events) value := by
        by_cases step : event = .proceeded
        · subst step
          exact (proceeds events value h).imp (fun before => ⟨before, proceeded_unaccepted _⟩)
            fun gave => ⟨rfl, gave⟩
        · rcases kept (session.after events) step with ⟨quiet, same⟩ | none
          · exact .inl ⟨same.symm.trans h, quiet⟩
          · cases none.symm.trans h
      rcases last with ⟨before, quiet⟩ | ⟨rfl, now⟩
      · rcases ih before with ⟨first, earlier⟩ | ⟨earlier, later, rfl, since, gave⟩
        · refine .inl ⟨first, ?_⟩
          rw [history_append]
          exact List.forall_mem_append.mpr ⟨earlier, by simpa [history] using quiet⟩
        · refine .inr ⟨earlier, later ++ [event], by simp, ?_, gave⟩
          rw [← List.cons_append, history_append, ← after_append]
          exact List.forall_mem_append.mpr ⟨since, by simpa [history] using quiet⟩
      · refine .inr ⟨events, [], rfl, ?_, now⟩
        simpa [history] using proceeded_unaccepted (session.after events)

theorem Opens.latest?_eq_none (opens : session.Opens) : session.latest? = none := by
  cases opens with
  | new interval => rfl
  | copy origin _ events opens duplicated =>
      obtain ⟨query, _, rfl⟩ := Option.map_eq_some_iff.mp duplicated
      rfl

theorem rows_origin (opens : session.Opens) {events : List Event} {result : Aggregate}
    (h : (session.after events).latest? = some result) :
    ∃ earlier later, events = earlier ++ .proceeded :: later ∧
      (∀ happening ∈ (session.after earlier).history (.proceeded :: later),
        ¬happening.isAccepted) ∧
      ∃ execution, (session.after earlier).Gives execution result := by
  refine (origin latest? (fun session result => ∃ execution, session.Gives execution result) ?_ ?_
    h).resolve_left fun first => ?_
  · exact fun session _ other =>
      (session.step_keeps other).imp (fun ⟨quiet, same, _⟩ => ⟨quiet, same⟩) fun none => none.1
  · exact fun earlier => (proceed_gives (reaching_after opens earlier)).1
  · cases opens.latest?_eq_none.symm.trans first.1

theorem names_origin (opens : session.Opens) {events : List Event} {names : List String}
    (h : (session.after events).names? = some names) :
    session.names? = some names ∧ (∀ happening ∈ session.history events, ¬happening.isAccepted) ∨
      ∃ earlier later, events = earlier ++ .proceeded :: later ∧
        (∀ happening ∈ (session.after earlier).history (.proceeded :: later),
          ¬happening.isAccepted) ∧
        ∃ execution report,
        (session.after earlier).Works execution (.done (.ended (.ok report))) ∧
          report.fieldNames? = some names := by
  refine origin names? (fun session names => ∃ execution report,
    session.Works execution (.done (.ended (.ok report))) ∧
    report.fieldNames? = some names) ?_ ?_ h
  · exact fun session _ other =>
      (session.step_keeps other).imp (fun ⟨quiet, _, same⟩ => ⟨quiet, same⟩) fun none => none.2
  · exact fun earlier => (proceed_gives (reaching_after opens earlier)).2

/-! ### The query that is held -/

theorem held_bare {query? other? : Option Query}
    (same : query?.map Query.bare = other?.map Query.bare) (happenings : List Happening) :
    (held query? happenings).map Query.bare = (held other? happenings).map Query.bare := by
  induction happenings generalizing query? other? with
  | nil => exact same
  | cons happening happenings ih =>
      rw [← List.singleton_append, held_append, held_append]
      refine ih ?_
      cases happening with
      | accepted block query => rfl
      | renamed title =>
          simp only [held, List.foldl_cons, List.foldl_nil, Option.map_map]
          exact same
      | _ => exact same

theorem conclude_bare (session : Session) (own : Query) (outcome : Except QueryError Report) :
    (session.conclude own outcome).1.query?.map Query.bare = session.query?.map Query.bare := by
  cases outcome with
  | error e => rfl
  | ok report =>
      simp only [conclude, Option.map_map]
      rfl

theorem Advances.bare (h : Advances session happenings final) :
    final.query?.map Query.bare = (held session.query? happenings).map Query.bare := by
  cases h with
  | begins block query final ended task unsent latest accepted => rw [accepted]; rfl
  | acts happenings final messages unaccepted told act =>
      cases act with
      | rests task latest query => rw [query]
      | answered c next answer task others goes latest query => rw [query]
      | turned execution stage task ongoing goes latest query => rw [query]
      | reported own progress next task goes latest query => rw [query]
      | concluded own outcome task ends latest query =>
          rw [query]
          exact held_bare (session.conclude_bare own outcome) happenings

theorem bare_after (attends : session.Attends) (events : List Event) :
    (session.after events).query?.map Query.bare =
      (held session.query? (session.history events)).map Query.bare := by
  refine history_induction (fun past final =>
    final.query?.map Query.bare = (held session.query? past).map Query.bare) events ?_ attends rfl
  intro past happenings before final same move
  rw [move.advances.bare, held_bare same, held_append]

theorem bare_of_unaccepted (attends : session.Attends) {events : List Event}
    (quiet : ∀ happening ∈ session.history events, ¬happening.isAccepted) :
    (session.after events).query?.map Query.bare = session.query?.map Query.bare := by
  rw [bare_after attends, held_of_not_isAccepted quiet, Option.map_map]
  rfl

theorem held_of_works (opens : session.Opens) {earlier later : List Event} {execution : Execution}
    {task : Task Stage} (works : (session.after earlier).Works execution task)
    (quiet : ∀ happening ∈ (session.after earlier).history later, ¬happening.isAccepted) :
    ((session.after (earlier ++ later)).query?.map Query.bare) = some execution.query.bare := by
  obtain ⟨-, running, current, rfl, -, left⟩ := works
  obtain ⟨before, block, since, past, silent⟩ :=
    (segmented_after opens earlier).begun current (running.live_of_task left)
  have first : (held session.query? (session.history earlier)).map Query.bare =
      some running.execution.query.bare := by
    rw [past, held_accepted _ _ _ _ fun happening hmem => (silent happening hmem).1]
    rfl
  rw [after_append, bare_of_unaccepted (attends_after opens.attends earlier) quiet,
    bare_after opens.attends, first]

/-- Whether an execution of this query left these field names, in the session or in the one from
which it was opened. -/
inductive Named : (session : Session) → (events : List Event) → Query → List String → Prop
  | left (session : Session) (earlier later : List Event) (execution : Execution)
      (report : Report) (query : Query) (names : List String)
      (works : (session.after earlier).Works execution (.done (.ended (.ok report))))
      (own : execution.query.bare = query.bare) (shown : report.fieldNames? = some names) :
      Named session (earlier ++ .proceeded :: later) query names
  | inherited (origin copy : Session) (before events : List Event) (query : Query)
      (names : List String) (opens : origin.Opens)
      (duplicated : (origin.after before).duplicate? = some copy)
      (named : Named origin before query names) : Named copy events query names

theorem Named.of_bare {events : List Event} {query other : Query} {names : List String}
    (h : Named session events query names) (same : query.bare = other.bare) :
    Named session events other names := by
  induction h with
  | left session earlier later execution report query names works own shown =>
      exact .left session earlier later execution report other names works (own.trans same) shown
  | inherited origin copy before events query names opens duplicated named ih =>
      exact .inherited origin copy before events other names opens duplicated (ih same)

theorem named_or_first (opens : session.Opens) {events : List Event} {query : Query}
    {names : List String} (held : (session.after events).query? = some query)
    (shown : query.fieldNames? = some names) :
    Named session events query names ∨ ∃ first, session.query? = some first ∧
      first.fieldNames? = some names ∧ first.bare = query.bare := by
  have now : (session.after events).names? = some names := by rw [names?, held]; exact shown
  rcases names_origin opens now with ⟨first, quiet⟩ | ⟨earlier, later, rfl, quiet, execution,
    report, works, left⟩
  · obtain ⟨first, hfirst, names⟩ := Option.bind_eq_some_iff.mp first
    have same := bare_of_unaccepted opens.attends quiet
    rw [held, hfirst] at same
    exact .inr ⟨first, hfirst, names, (Option.some.inj same).symm⟩
  · have same := held_of_works opens works quiet
    rw [held] at same
    exact .inl
      (.left session earlier later execution report query names works (Option.some.inj same).symm
      left)

theorem named_of_fieldNames? (opens : session.Opens) (events : List Event) {query : Query}
    {names : List String} (held : (session.after events).query? = some query)
    (shown : query.fieldNames? = some names) : Named session events query names := by
  induction opens generalizing events query names with
  | new interval =>
      rcases named_or_first (.new interval) held shown with named | ⟨first, ⟨⟩, _⟩
      exact named
  | copy origin copy before opens duplicated ih =>
      rcases named_or_first (.copy origin copy before opens duplicated) held shown with
        named | ⟨first, hfirst, names, same⟩
      · exact named
      · obtain ⟨query', horigin, rfl⟩ := Option.map_eq_some_iff.mp duplicated
        cases hfirst
        exact (Named.inherited origin _ before events _ _ opens duplicated
          (ih before horigin names)).of_bare same

/-- Rows and field names that a session holds are from an execution of the query that it holds,
here or in the session from which it was opened. -/
theorem holds_what_its_query_gave (opens : session.Opens) (events : List Event) :
    let final := session.after events
    (∀ result, final.latest? = some result → ∃ query, final.query? = some query ∧
      ∃ earlier later execution, events = earlier ++ .proceeded :: later ∧
        (∀ happening ∈ (session.after earlier).history (.proceeded :: later),
          ¬happening.isAccepted) ∧
        (session.after earlier).Gives execution result ∧ execution.query.bare = query.bare ∧
        final.rawTable =
          Table.render (execution.query.columns.order result.fieldNames) result.rows) ∧
    (∀ query names, final.query? = some query → query.fieldNames? = some names →
      Named session events query names) ∧
    final.title? = (lastRenamed (session.history events)).or session.title? ∧
    ∀ query title, final.query? = some query → final.title? = some title →
    query.title? = some title := by
  intro final
  have titled := titled_after opens opens.entitled events
  refine ⟨fun result latest => ?_, fun _ _ => named_of_fieldNames? opens events, titled.title, ?_⟩
  · obtain ⟨earlier, later, split, quiet, execution, gives⟩ := rows_origin opens latest
    have works : ∃ task, (session.after earlier).Works execution task := by
      cases gives with
      | tells changed next works => exact ⟨_, works⟩
      | leaves report works rows => exact ⟨_, works⟩
    obtain ⟨task, works⟩ := works
    have held := held_of_works opens works quiet
    rw [← split] at held
    obtain ⟨query, hquery, same⟩ := Option.map_eq_some_iff.mp held
    refine ⟨query, hquery, earlier, later, execution, split, quiet, gives, same.symm, ?_⟩
    have body : query.bare.body = execution.query.bare.body := congrArg Query.body same
    have columns : query.columns = execution.query.columns := congrArg Columns.ofQuery body
    simp only [final, rawTable, latest, hquery, columns]
  · intro query title hquery given
    have shown := titled.entitled title given
    simp only [final] at hquery
    simpa only [panel, hquery] using shown

/-- An execution that has shown a row, and a title that was given to the view since. -/
def showing : List Event :=
  emptying.take 10 ++ [.command 0 (.changeTitle "X")]

theorem holds_what_its_query_gave_showing :
    let final := (Session.new 0).after showing
    Session.Opens (.new 0) ∧
      final.latest?.map Aggregate.counted = some ([[⟨"@message", "a"⟩]], 1) ∧
    final.title? = some "X" ∧
    ∃ query result execution earlier, final.query? = some query ∧ final.latest? = some result ∧
      ((Session.new 0).after earlier).Gives execution result ∧ execution.query.bare = query.bare ∧
      query.title? = some "X" := by
  intro final
  have counted : final.latest?.map Aggregate.counted = some ([[⟨"@message", "a"⟩]], 1) := by
    decide +kernel
  have given : final.title? = some "X" := by decide +kernel
  obtain ⟨rows, -, -, title⟩ := holds_what_its_query_gave (.new 0) showing
  obtain ⟨result, latest, -⟩ := Option.map_eq_some_iff.mp counted
  obtain ⟨query, hquery, earlier, later, execution, -, -, gives, same, -⟩ := rows result latest
  exact ⟨.new 0, counted, given, query, result, execution, earlier, hquery, latest, gives, same,
    title query "X" hquery given⟩

end Session

end LogQuery
