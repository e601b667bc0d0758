import LogQuery.Proofs.Session.Lineage
import LogQuery.Proofs.Session.Provenance
import LogQuery.Proofs.Session.Refreshing

namespace LogQuery

/-- Whether the source of the query, read at the instant `now`, gives it but for title and field
names. -/
def Query.Rereads (now : Int) (query : Query) : Prop :=
  ∃ previousTitle? plain, read now previousTitle? query.source = .ok plain ∧
  plain.bare = query.bare

theorem Query.Rereads.of_bare {now : Int} {query other : Query} (h : query.Rereads now)
    (same : query.bare = other.bare) : other.Rereads now := by
  obtain ⟨previousTitle?, plain, read, bare⟩ := h
  have source : query.bare.source = other.bare.source := congrArg Query.source same
  exact ⟨previousTitle?, plain, source ▸ read, bare.trans same⟩

theorem Query.source_of_read {now : Int} {previousTitle? : Option String} {block : String}
    {query : Query} (h : read now previousTitle? block = .ok query) : query.source = block := by
  rw [read_eq] at h
  cases told : ofContents now (contents (linesOf block)) with
  | error problem => rw [told] at h; cases h
  | ok plain => rw [told] at h; cases h; rfl

theorem Query.eq_of_bare {query other : Query} (same : query.bare = other.bare)
    (title : query.title? = other.title?) :
    query = { other with fieldNames? := query.fieldNames? } := by
  cases query
  cases other
  cases title
  cases same
  rfl

theorem Happening.eq_accepted_of_isAccepted {happening : Happening} (h : happening.isAccepted) :
    ∃ block query, happening = accepted block query := by
  cases happening with
  | accepted block query => exact ⟨block, query, rfl⟩
  | _ => cases h

namespace Session

variable {refusals : QueryError → Prop} {session final : Session}
    {past happenings : List Happening}
  {now : Int} {block : String} {query : Query}

theorem exists_of_read (h : session.read now block = .ok query) :
    ∃ plain, Query.read now (session.query?.bind Query.title?) block = .ok plain ∧
      query = { plain with title? := session.title? <|> plain.title? } := by
  unfold read at h
  cases plain : Query.read now (session.query?.bind Query.title?) block with
  | error problem => rw [plain] at h; cases h
  | ok plain' => rw [plain] at h; cases h; exact ⟨plain', rfl, rfl⟩

theorem rereads_of_read (h : session.read now block = .ok query) :
    query.Rereads now ∧ query.source = block := by
  obtain ⟨plain, read, rfl⟩ := exists_of_read h
  have source : plain.source = block := Query.source_of_read read
  exact ⟨⟨_, plain, source.symm ▸ read, rfl⟩, source⟩

/-- The source of a query without a title gives itself none. -/
def Untitled (session : Session) : Prop :=
  ∀ query, session.query? = some query → query.title? = none →
    Query.ownTitle? (Query.linesOf query.source) = none

theorem Move.untitled (h : Move refusals session happenings final) (untitled : session.Untitled) :
    final.Untitled := by
  intro query held none
  cases h with
  | accepted now block query' ended errand read =>
      cases held
      rw [(rereads_of_read read).2]
      rw [(of_read read).1, Option.or_eq_none_iff, Option.or_eq_none_iff] at none
      exact none.2.2
  | renamed title =>
      obtain ⟨before, _, rfl⟩ := Option.map_eq_some_iff.mp held
      cases none
  | reported running progress =>
      refine untitled query ?_ none
      cases progress <;> exact held
  | concluded running outcome =>
      cases outcome with
      | error e => exact untitled query held none
      | ok report =>
          obtain ⟨before, current, rfl⟩ := Option.map_eq_some_iff.mp held
          exact untitled before current none
  | _ => exact untitled query held none

theorem Opens.untitled (opens : session.Opens) : session.Untitled := by
  induction opens with
  | new interval => exact fun query held => by cases held
  | copy origin copy events opens duplicated ih =>
      obtain ⟨query, held, rfl⟩ := Option.map_eq_some_iff.mp duplicated
      have reached : (origin.after events).Untitled :=
        history_induction (fun _ session => session.Untitled) events
          (fun h move => move.untitled h) opens.attends ih
      rintro _ ⟨⟩
      exact reached query held

theorem untitled_after (opens : session.Opens) (events : List Event) :
    (session.after events).Untitled :=
  history_induction (fun _ session => session.Untitled) events (fun h move => move.untitled h)
    opens.attends opens.untitled

theorem read_again (entitled : session.Entitled) (untitled : session.Untitled)
    (held : session.query? = some query) (rereads : query.Rereads now) :
    session.read now query.source = .ok { query with fieldNames? := none } := by
  obtain ⟨previousTitle?, plain, read, same⟩ := rereads
  have title : (session.title? <|>
      query.title?.or (Query.ownTitle? (Query.linesOf query.source))) = query.title? := by
    cases given : session.title? with
    | some title =>
        have shown := entitled title given
        simp only [panel, held] at shown
        rw [shown]
        rfl
    | none =>
        cases shown : query.title? with
        | some title => rfl
        | none => rw [untitled query held shown]; rfl
  cases told : Query.ofContents now (Query.contents (Query.linesOf query.source)) with
  | error problem =>
      rw [Query.read_of_error told] at read
      cases read
  | ok base =>
      have again : Query.read now query.title? query.source = .ok { base with
          source := query.source
          title? := query.title?.or (Query.ownTitle? (Query.linesOf query.source)) } :=
        Query.read_of_ok told
      have names : base.fieldNames? = none := (Query.of_read again).2
      have settings : { base with source := query.source, title? := query.title? } =
          { query with fieldNames? := none } := by
        rw [Query.read_of_ok told] at read
        cases read
        have restored := congrArg (fun bare : Query => { bare with title? := query.title? }) same
        rw [Query.bare, ← names] at restored
        exact restored
      rw [Session.read, held, Option.bind_some, again, ← settings]
      simp only [Except.map, title]

/-! ### The instant of the reading -/

/-- The instant at which a block is read if one is read at this event. -/
def Event.instant? : Event → Option Int
  | .command now _ | .resumed now => some now
  | _ => none

/-- Whether the query that is held after the events was read at the instant `now`, in the session
itself or in the one from which it was opened. -/
inductive ReadAt : (session : Session) → (events : List Event) → (now : Int) → Prop
  | accepted (session : Session) (earlier later : List Event) (event : Event) (now : Int)
    (block : String)
      (query : Query) (instant : event.instant? = some now)
      (accepts : .accepted block query ∈ (session.after earlier).happenings event)
      (kept : ∀ happening ∈ ((session.after earlier).step event).history later,
        ¬happening.isAccepted) :
      ReadAt session (earlier ++ event :: later) now
  | inherited (origin copy : Session) (before events : List Event) (now : Int)
      (opens : origin.Opens) (duplicated : (origin.after before).duplicate? = some copy)
      (kept : ∀ happening ∈ copy.history events, ¬happening.isAccepted)
      (readAt : ReadAt origin before now) : ReadAt copy events now

theorem ReadAt.append {events later : List Event} (h : session.ReadAt events now)
    (kept : ∀ happening ∈ (session.after events).history later, ¬happening.isAccepted) :
    session.ReadAt (events ++ later) now := by
  cases h with
  | accepted _ earlier since event _ block query instant accepts quiet =>
      rw [List.append_assoc, List.cons_append]
      refine .accepted session earlier (since ++ later) event now block query instant accepts ?_
      rw [history_append]
      rw [after_append] at kept
      exact List.forall_mem_append.mpr ⟨quiet, kept⟩
  | inherited origin _ before _ _ opens duplicated quiet readAt =>
      refine .inherited origin session before (events ++ later) now opens duplicated ?_ readAt
      rw [history_append]
      exact List.forall_mem_append.mpr ⟨quiet, kept⟩

theorem endHappenings_accepted {errand? : Option Errand}
    (h : .accepted block query ∈ session.endHappenings now errand?) :
    errand? = some (.refresh block) ∧ session.read now block = .ok query := by
  unfold endHappenings at h
  split at h
  · split at h
    · next read =>
        cases List.mem_singleton.mp h
        exact ⟨rfl, read⟩
    · cases List.mem_singleton.mp h
  · cases List.mem_singleton.mp h
  · cases h

theorem query?_of_run (read : session.read now block = .ok query) :
    (session.run now block).query? = some query := by
  simp only [run, read]

theorem afterEnd_accepts (errand : session.errand? = some (.refresh block))
    (read : session.read now block = .ok query) :
    (session.afterEnd now).1.query? = some query := by
  simp only [afterEnd, errand]
  exact query?_of_run read

theorem command_accepts {command : Command} (free : session.errand? = none)
    (h : .accepted block query ∈ session.commandHappenings now command) :
    session.read now block = .ok query ∧
    (session.step (.command now command)).query? = some query := by
  have sent (before after : Session) : .accepted block query ∉ sends .command before after :=
    fun hmem => sends_unaccepted _ _ _ _ hmem rfl
  cases command with
  | refresh block' =>
      have stops := (List.mem_cons.mp h).resolve_left (by simp)
      unfold stopHappenings at stops
      split at stops
      · cases stops
      · next ended =>
          obtain ⟨same, read⟩ := endHappenings_accepted stops
          cases same
          rw [asked_idle free ((Bool.not_eq_true _).mp ended)]
          exact ⟨read, query?_of_run read⟩
  | close =>
      have stops : .accepted block query ∈ session.stopHappenings now .close := h
      unfold stopHappenings at stops
      split at stops
      · cases stops
      · cases (endHappenings_accepted stops).1
  | changeTitle title => exact absurd ((List.mem_cons.mp h).resolve_left (by simp)) (sent _ _)
  | goToLog | openRaw | duplicate => exact absurd h (sent _ _)

theorem read_of_accepted {event : Event} (h : .accepted block query ∈ session.happenings event) :
    ∃ now, event.instant? = some now ∧ session.read now block = .ok query ∧
      (session.step event).query? = some query := by
  cases event with
  | command now command =>
      simp only [happenings] at h
      split at h
      · next free => exact ⟨now, rfl, command_accepts (Option.isNone_iff_eq_none.mp free) h⟩
      · cases h
  | resumed now =>
      simp only [happenings] at h
      split at h
      · cases h
      · next ended =>
          obtain ⟨errand, read⟩ := endHappenings_accepted h
          refine ⟨now, rfl, read, ?_⟩
          rw [step, if_neg ended]
          exact afterEnd_accepts errand read
  | fetched answers => exact absurd rfl (sends_unaccepted _ _ _ _ h)
  | proceeded => exact absurd rfl (session.proceeded_unaccepted _ h)
  | delivered =>
      rcases List.mem_append.mp h with sent | ended
      · exact absurd rfl (sends_unaccepted _ _ _ _ sent)
      · split at ended
        · cases List.mem_singleton.mp ended
        · cases ended
  | answered | cancelled | released => cases h

/-- What is held is read again at the instant at which it was read. -/
theorem ReadAt.rereads {events : List Event} (h : session.ReadAt events now)
    (opens : session.Opens) (held : (session.after events).query? = some query) :
    query.Rereads now := by
  induction h generalizing query with
  | accepted session earlier later event now block first instant accepts kept =>
      obtain ⟨now', same, read, accepted⟩ := read_of_accepted accepts
      cases same.symm.trans instant
      have attends : ((session.after earlier).step event).Attends := by
        have attends := attends_after opens.attends (earlier ++ [event])
        rwa [after_append] at attends
      have bare := bare_of_unaccepted attends kept
      rw [after_append] at held
      have held' : (((session.after earlier).step event).after later).query? = some query := held
      rw [held', accepted] at bare
      exact (rereads_of_read read).1.of_bare (Option.some.inj bare).symm
  | inherited origin copy before events now opens' duplicated kept readAt ih =>
      have bare := bare_of_unaccepted opens.attends kept
      obtain ⟨original, horiginal, rfl⟩ := Option.map_eq_some_iff.mp duplicated
      rw [held] at bare
      exact (ih opens' horiginal).of_bare (Option.some.inj bare).symm

theorem readAt_or_first (opens : session.Opens) (events : List Event)
    (held : (session.after events).query?.isSome) : (∃ now, session.ReadAt events now) ∨
      session.query?.isSome ∧ ∀ happening ∈ session.history events, ¬happening.isAccepted := by
  induction events using List.reverseRecOn with
  | nil => exact .inr ⟨held, List.forall_mem_nil _⟩
  | append_singleton events event ih =>
      by_cases quiet : ∀ happening ∈ (session.after events).history [event], ¬happening.isAccepted
      · have bare := bare_of_unaccepted (attends_after opens.attends events) quiet
        rw [after_append] at held
        rw [← Option.isSome_map, bare, Option.isSome_map] at held
        rcases ih held with ⟨now, readAt⟩ | ⟨first, earlier⟩
        · exact .inl ⟨now, readAt.append quiet⟩
        · rw [history_append]
          exact .inr ⟨first, List.forall_mem_append.mpr ⟨earlier, quiet⟩⟩
      · simp only [history_singleton, Classical.not_forall, Classical.not_not] at quiet
        obtain ⟨happening, hmem, accepted⟩ := quiet
        obtain ⟨block, query, rfl⟩ := Happening.eq_accepted_of_isAccepted accepted
        obtain ⟨now, instant, -, -⟩ := read_of_accepted hmem
        exact .inl ⟨now, .accepted session events [] event now block query instant hmem
          (List.forall_mem_nil _)⟩

theorem exists_readAt (opens : session.Opens) (events : List Event)
    (held : (session.after events).query?.isSome) : ∃ now, session.ReadAt events now := by
  induction opens generalizing events with
  | new interval =>
      rcases readAt_or_first (.new interval) events held with readAt | ⟨first, -⟩
      · exact readAt
      · cases first
  | copy origin copy before opens duplicated ih =>
      rcases readAt_or_first (.copy origin copy before opens duplicated) events held with
        readAt | ⟨first, quiet⟩
      · exact readAt
      · obtain ⟨query, horigin, -⟩ := Option.map_eq_some_iff.mp duplicated
        obtain ⟨now, readAt⟩ := ih before (by rw [horigin]; rfl)
        exact ⟨now, .inherited origin copy before events now opens duplicated quiet readAt⟩

/-! ### Reading it again -/

/-- What an execution does while it is stopped changes nothing of the query that is held but its
field names. -/
theorem held_stopping (opens : session.Opens) (events : List Event)
    (held : (session.after events).query? = some query) {between : List Event}
    (own : ∀ event ∈ between, event.ofExecution) :
    ∃ kept, (session.after (events ++ stopping between)).query? = some kept ∧
    kept.bare = query.bare ∧
      kept.title? = query.title? := by
  have quiet : ∀ happening ∈ (session.after events).history (stopping between),
      ¬happening.isAccepted ∧ ¬happening.isRenamed := by
    rw [history_stopping]
    intro happening hmem
    have ofExecution := own_history own happening hmem
    cases happening with
    | concluded | ended | queued => exact ⟨Bool.false_ne_true, Bool.false_ne_true⟩
    | _ => cases ofExecution
  have bare := bare_of_unaccepted (attends_after opens.attends events) fun happening hmem =>
    (quiet happening hmem).1
  rw [held, ← after_append] at bare
  obtain ⟨kept, hkept, same⟩ := Option.map_eq_some_iff.mp bare
  refine ⟨kept, hkept, same, ?_⟩
  have panel := (titled_after opens opens.entitled (events ++ stopping between)).panel
  rw [history_append, Panel.after_append, ← (titled_after opens opens.entitled events).panel,
    Panel.after_of_not_isAccepted fun happening hmem => (quiet happening hmem).1,
    lastRenamed_eq_none fun happening hmem => (quiet happening hmem).2] at panel
  simp only [Session.panel, hkept, held] at panel
  exact congrArg Panel.title? panel

theorem reads_again_after (opens : session.Opens) (events : List Event)
    (held : (session.after events).query? = some query) (rereads : query.Rereads now) :
    (session.after events).read now query.source = .ok { query with fieldNames? := none } :=
  read_again (titled_after opens opens.entitled events).entitled
    (untitled_after opens events) held rereads

theorem refreshes_again (opens : session.Opens) (events : List Event)
    (held : (session.after events).query? = some query) (rereads : query.Rereads now)
    (free : (session.after events).errand? = none) {between steps : List Event}
    (refreshes : (session.after events).Refreshes query.source now between steps) :
    (session.after (events ++ steps)).query? = some { query with fieldNames? := none } := by
  obtain ⟨kept, hkept, same, title⟩ := held_stopping opens events held refreshes.own
  have again := reads_again_after opens _ hkept (rereads.of_bare same.symm)
  have source : kept.bare.source = query.bare.source := congrArg Query.source same
  have settings : { kept with fieldNames? := none } = { query with fieldNames? := none } :=
    congrArg (fun query : Query =>
      { query with fieldNames? := none }) (Query.eq_of_bare same title)
  rw [settings, after_append] at again
  rw [after_append, refreshes.after_eq free]
  exact query?_of_run (source ▸ again)

end Session

namespace Lineage

open Session

variable {lineage : Lineage}

theorem step_other {members : List Lineage} {number : Nat}
    (there : members[number]? = some lineage) {event : Nat × Event} (other : event.1 ≠ number) :
    (step members event)[number]? = some lineage := by
  unfold step
  split
  · obtain ⟨bound, -⟩ := List.getElem?_eq_some_iff.mp there
    rw [List.getElem?_append_left (by simpa using bound), List.getElem?_set_ne other, there]
  · exact there

/-- The events for one of a family. -/
def eventsFor (number : Nat) (events : List (Nat × Event)) : List Event :=
  (events.filter fun event => event.1 == number).map Prod.snd

theorem family_getElem? (interval : Nat) (earlier later : List (Nat × Event)) {number : Nat}
    (there : (family interval earlier)[number]? = some lineage) :
    ∃ past, (family interval (earlier ++ later))[number]? =
      some ⟨lineage.session.after (eventsFor number later), past⟩ := by
  induction later using List.reverseRecOn with
  | nil => exact ⟨lineage.past, by rw [List.append_nil, there]; rfl⟩
  | append_singleton later event ih =>
      obtain ⟨past, reached⟩ := ih
      have steps : family interval (earlier ++ (later ++ [event])) =
          step (family interval (earlier ++ later)) event := by
        rw [← List.append_assoc, family, List.foldl_append]
        rfl
      have events : eventsFor number (later ++ [event]) =
          eventsFor number later ++ eventsFor number [event] := by
        simp only [eventsFor, List.filter_append, List.map_append]
      rw [steps, events, after_append]
      by_cases own : event.1 = number
      · obtain ⟨bound, -⟩ := List.getElem?_eq_some_iff.mp reached
        have alone : eventsFor number [event] = [event.2] := by simp [eventsFor, own]
        rw [step, own, reached, alone]
        simp only
        rw [List.getElem?_append_left (by simpa using bound), List.getElem?_set_self bound]
        exact ⟨_, rfl⟩
      · have none : eventsFor number [event] = [] := by simp [eventsFor, own]
        rw [none]
        exact ⟨past, step_other reached own⟩

end Lineage

namespace Session

/-- The source of a query that is held gives it again, but for its field names, at the instant at
which it was read: in a copy, and in the session itself once its execution has stopped. -/
theorem source_reads_again {session : Session} (opens : session.Opens) (events : List Event)
    {query : Query} (held : (session.after events).query? = some query) :
    let reached := session.after events
    let again := { query with fieldNames? := none }
    (∃ now, session.ReadAt events now) ∧
    (∃ copy, (∀ instant, reached.handle instant .duplicate = (reached, some (.duplicated copy))) ∧
      copy.query? = some query ∧ copy.title? = reached.title? ∧
      ∀ now, session.ReadAt events now →
        (copy.after [.command now (.refresh query.source)]).query? = some again) ∧
    (∀ now, session.ReadAt events now → reached.errand? = none →
      ∀ between steps, reached.Refreshes query.source now between steps →
        (reached.after steps).query? = some again) ∧
    ∀ interval earlier later (number : Nat) lineage,
      (Lineage.family interval earlier)[number]? = some lineage → lineage.session = reached →
        ∃ past, (Lineage.family interval (earlier ++ later))[number]? =
          some ⟨reached.after (Lineage.eventsFor number later), past⟩ := by
  intro reached again
  refine ⟨exists_readAt opens events (by rw [held]; rfl), ?_,
    fun now readAt free between steps refreshes => ?_, ?_⟩
  · let copy : Session :=
      { new reached.interval with query? := some query, title? := reached.title? }.post
      (.title (query.panelTitle 0))
    have duplicated : reached.duplicate? = some copy := by
      simp only [duplicate?, held, reached, Option.map_some]
      rfl
    have opens' : copy.Opens := .copy session copy events opens duplicated
    refine ⟨copy, fun instant =>
      by simp only [handle, duplicated], rfl, rfl, fun now readAt => ?_⟩
    exact refreshes_again opens' [] rfl (readAt.rereads opens held) rfl (.atOnce rfl)
  · have rereads := readAt.rereads opens held
    have refreshed := refreshes_again opens events held rereads free refreshes
    rwa [after_append] at refreshed
  · intro interval earlier later number lineage there here
    exact here ▸ Lineage.family_getElem? interval earlier later there

/-- An execution that has run to its end, and a title that was given to the view since. -/
def renamed : List Event := emptying ++ [.delivered, .command 0 (.changeTitle "X")]

theorem source_reads_again_renamed :
    let reached := (Session.new 0).after renamed
    ∃ query copy, reached.query? = some query ∧ query.title? = some "X" ∧
      query.fieldNames?.isSome ∧
      (Session.new 0).ReadAt renamed 0 ∧
      (reached.handle 0 .duplicate).2 = some (.duplicated copy) ∧
      (copy.after [.command 0 (.refresh query.source)]).query? =
        some { query with fieldNames? := none } := by
  intro reached
  have shown : reached.query?.map (fun query =>
      (query.title?, query.fieldNames?.isSome)) = some (some "X", true) := by decide +kernel
  obtain ⟨query, held, settings⟩ := Option.map_eq_some_iff.mp shown
  obtain ⟨title, names⟩ := Prod.ext_iff.mp settings
  let asked : Event := .command 0 (.refresh "p;r;g;1h\nfields @message")
  obtain ⟨block, first, accepts⟩ :
      ∃ block query, .accepted block query ∈ (Session.new 0).happenings asked := by
    have some : ((Session.new 0).happenings asked).any Happening.isAccepted := by decide +kernel
    obtain ⟨happening, hmem, accepted⟩ := List.any_eq_true.mp some
    obtain ⟨block, query, rfl⟩ := Happening.eq_accepted_of_isAccepted accepted
    exact ⟨block, query, hmem⟩
  have kept : ∀ happening ∈ ((Session.new 0).step asked).history (renamed.drop 1),
      ¬happening.isAccepted := by
    decide +kernel
  have readAt : (Session.new 0).ReadAt renamed 0 :=
    .accepted (.new 0) [] (renamed.drop 1) asked 0 block first rfl accepts kept
  obtain ⟨-, ⟨copy, duplicates, -, -, again⟩, -⟩ := source_reads_again (.new 0) renamed held
  exact ⟨query, copy, held, title, names, readAt, by rw [duplicates], again 0 readAt⟩

end Session

end LogQuery
