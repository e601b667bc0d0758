import LogQuery.Proofs.Query.Reading
import LogQuery.Proofs.Session.Titles
import Mathlib.Data.List.Induction

namespace LogQuery

/-- The title that an accepted block gives itself. -/
def Happening.ownTitle? : Happening → Option String
  | accepted block _ => Query.ownTitle? (Query.linesOf block)
  | _ => none

def firstTitle? (happenings : List Happening) : Option String :=
  happenings.findSome? Happening.ownTitle?

theorem firstTitle?_append (earlier later : List Happening) :
    firstTitle? (earlier ++ later) = (firstTitle? earlier).or (firstTitle? later) :=
  List.findSome?_append

theorem firstTitle?_of_not_isAccepted {happenings : List Happening}
    (none : ∀ happening ∈ happenings, ¬happening.isAccepted) :
    firstTitle? happenings = .none := by
  refine List.findSome?_eq_none_iff.mpr fun happening hmem => ?_
  cases happening with
  | accepted => exact absurd rfl (none _ hmem)
  | _ => rfl

namespace Session

variable {refusals : QueryError → Prop} {session final : Session}
    {past happenings : List Happening}

theorem title?_of_accepted (entitled : session.Entitled) {now : Int} {block : String}
    {query : Query} (read : session.read now block = .ok query) :
    query.title? = session.panel.title?.or (Query.ownTitle? (Query.linesOf block)) := by
  have shown : session.title?.or (session.query?.bind Query.title?) = session.panel.title? := by
    cases given : session.title? with
    | some title => exact (entitled title given).symm
    | none =>
        unfold panel
        cases session.query? with
        | none => exact given.symm
        | some current => rfl
  rw [(of_read read).1, ← Option.or_assoc, shown]

theorem Move.accepts (h : Move refusals session happenings final) (entitled : session.Entitled) :
    (∀ happening ∈ happenings, ¬happening.isAccepted) ∨ ∃ block query,
      happenings = [.accepted block query] ∧
        query.title? = session.panel.title?.or (Query.ownTitle? (Query.linesOf block)) := by
  cases h with
  | accepted now block query ended errand read =>
      exact .inr ⟨block, query, rfl, title?_of_accepted entitled read⟩
  | renamed title =>
      obtain ⟨shown, _, sends⟩ := session.sends_changeTitle title
      rw [sends]
      exact .inl (by simp [Happening.isAccepted])
  | delivered running =>
      left
      cases running.task? <;> simp [Happening.isAccepted]
  | _ => exact .inl (by simp [Happening.isAccepted])

theorem Move.title_goes {start : Session} (h : Move refusals session happenings final)
    (entitled : session.Entitled)
    (title : session.panel.title? =
      (lastRenamed past).or (start.panel.title?.or (firstTitle? past))) :
    final.panel.title? = (lastRenamed (past ++ happenings)).or
      (start.panel.title?.or (firstTitle? (past ++ happenings))) := by
  rw [h.panel_eq, lastRenamed_append, firstTitle?_append]
  rcases h.accepts entitled with quiet | ⟨block, query, rfl, read⟩
  · rw [Panel.after_of_not_isAccepted quiet, firstTitle?_of_not_isAccepted quiet, Option.or_none,
      Option.or_assoc, ← title]
  · have own : firstTitle? [.accepted block query] = Query.ownTitle? (Query.linesOf block) := by
      simp [firstTitle?, Happening.ownTitle?]
    have shown : (session.panel.after [.accepted block query]).title? = query.title? := rfl
    rw [shown, read, title, own, Option.or_assoc, Option.or_assoc]
    rfl

theorem panel_title_after (opens : session.Opens) (events : List Event) :
    (session.after events).panel.title? = (lastRenamed (session.history events)).or
      (session.panel.title?.or (firstTitle? (session.history events))) := by
  have first : session.Entitled ∧ session.panel.title? =
      (lastRenamed []).or (session.panel.title?.or (firstTitle? [])) :=
    ⟨opens.entitled, (Option.or_none).symm⟩
  refine (history_induction (fun past final => final.Entitled ∧ final.panel.title? =
    (lastRenamed past).or (session.panel.title?.or (firstTitle? past)))
      events ?_ opens.attends first).2
  rintro past happenings before final ⟨entitled, title⟩ move
  exact ⟨move.entitled entitled, move.title_goes entitled title⟩

theorem duplicate?_of_handle {now : Int} {command : Command} {copy : Session}
    (h : (session.handle now command).2 = some (.duplicated copy)) :
    session.duplicate? = some copy := by
  have stops (errand : Errand) : (session.stopFor now errand).2 ≠ some (.duplicated copy) := by
    simp only [stopFor]
    split
    · nofun
    · cases errand <;> nofun
  have fetches (task : Task Message) : (session.fetch task).2 ≠ some (.duplicated copy) := by
    cases task <;> nofun
  cases command with
  | refresh block => exact absurd h (stops _)
  | close => exact absurd h (stops _)
  | changeTitle => cases h
  | openRaw => cases h
  | goToLog pointer region =>
      simp only [handle] at h
      split at h
      · cases h
      · exact absurd h (fetches _)
  | duplicate =>
      simp only [handle] at h
      split at h
      · next opened =>
          cases h
          exact opened
      · cases h

end Session

/-- A session with all that has happened in it, and before in the sessions from which it was
duplicated. -/
structure Lineage where
  session : Session
  past : List Happening

namespace Lineage

open Session

def next (lineage : Lineage) (event : Event) : Lineage where
  session := lineage.session.step event
  past := lineage.past ++ lineage.session.happenings event

/-- The session that an event opens beside this one, if it does. -/
def copy? (lineage : Lineage) : Event → Option Lineage
  | .command now command =>
    if lineage.session.errand?.isNone then
      match (lineage.session.handle now command).2 with
      | some (.duplicated copy) => some ⟨copy, lineage.past⟩
      | _ => none
    else none
  | _ => none

/-- The sessions of a family after an event for one of them. -/
def step (family : List Lineage) (event : Nat × Event) : List Lineage :=
  match family[event.1]? with
  | some lineage => family.set event.1 (lineage.next event.2) ++ (lineage.copy? event.2).toList
  | none => family

/-- All sessions that come of a new one, after events for any of them in any order. -/
def family (interval : Nat) (events : List (Nat × Event)) : List Lineage :=
  events.foldl step [⟨.new interval, []⟩]

/-- Whether a lineage tells what has happened to the titles of a session. -/
def Tells (lineage : Lineage) : Prop :=
  ∃ (start : Session) (events : List Event) (before : List Happening), start.Opens ∧
    lineage.session = start.after events ∧ lineage.past = before ++ start.history events ∧
    start.title? = lastRenamed before ∧
    start.panel.title? = (lastRenamed before).or (firstTitle? before)

variable {lineage other : Lineage}

theorem Tells.title (h : lineage.Tells) : lineage.session.title? = lastRenamed lineage.past := by
  obtain ⟨start, events, before, opens, rfl', past, given, -⟩ := h
  rw [rfl', past, (titled_after opens opens.entitled events).title, given, lastRenamed_append]

theorem Tells.panel (h : lineage.Tells) : lineage.session.panel.title? =
    (lastRenamed lineage.past).or (firstTitle? lineage.past) := by
  obtain ⟨start, events, before, opens, rfl', past, -, shown⟩ := h
  rw [rfl', past, panel_title_after opens, shown, lastRenamed_append, firstTitle?_append]
  simp only [Option.or_assoc]

theorem Tells.next (h : lineage.Tells) (event : Event) : (lineage.next event).Tells := by
  obtain ⟨start, events, before, opens, rfl', past, given, shown⟩ := h
  refine ⟨start, events ++ [event], before, opens, ?_, ?_, given, shown⟩
  · rw [after_append, ← rfl']
    rfl
  · rw [history_append, ← rfl', ← List.append_assoc, ← past]
    simp [Lineage.next, history]

theorem Tells.copied (h : lineage.Tells) {event : Event}
    (opened : lineage.copy? event = some other) :
    other.Tells := by
  have title := h.title
  have panel := h.panel
  obtain ⟨start, events, before, opens, reached, -⟩ := h
  unfold copy? at opened
  split at opened
  · split at opened
    · split at opened
      · next copy reply =>
          cases opened
          have duplicated := duplicate?_of_handle reply
          have opens' : copy.Opens := .copy start copy events opens (reached ▸ duplicated)
          obtain ⟨query, held, rfl⟩ := Option.map_eq_some_iff.mp duplicated
          refine ⟨_, [], lineage.past, opens', rfl, by simp [history], title, ?_⟩
          simpa [Session.panel, held, post] using panel
      · cases opened
    · cases opened
  · cases opened

theorem family_tells (interval : Nat) (events : List (Nat × Event)) :
    ∀ lineage ∈ family interval events, lineage.Tells := by
  induction events using List.reverseRecOn with
  | nil =>
      refine List.forall_mem_singleton.mpr ⟨.new interval, [], [], .new interval, rfl, rfl, rfl,
        rfl⟩
  | append_singleton events event ih =>
      rw [family, List.foldl_append, ← family]
      simp only [List.foldl_cons, List.foldl_nil, step]
      split
      · next lineage there =>
          have tells := ih lineage (List.mem_of_getElem? there)
          refine List.forall_mem_append.mpr ⟨fun member hmem => ?_, fun member hmem => ?_⟩
          · rcases List.mem_or_eq_of_mem_set hmem with old | rfl
            · exact ih member old
            · exact tells.next event.2
          · exact tells.copied (Option.mem_toList.mp hmem)
      · exact ih

/-- The title of a query is the one that was given last in its family of sessions, or else the
first that an accepted block has given itself, here or in an original of the session. -/
theorem titles_by_lineage :
    (∀ interval events, ∀ lineage ∈ family interval events,
      lineage.session.title? = lastRenamed lineage.past ∧
      ∀ query, lineage.session.query? = some query →
        query.title? = (lastRenamed lineage.past).or (firstTitle? lineage.past)) ∧
    (∀ (origin copy : Session) (before events : List Event), origin.Opens →
      (origin.after before).duplicate? = some copy →
        ∃ original, (origin.after before).query? = some original ∧
          ∀ query, (copy.after events).query? = some query →
            query.title? = (lastRenamed (copy.history events)).or
              (original.title?.or (firstTitle? (copy.history events)))) ∧
    ∀ block title, Query.ownTitle? (Query.linesOf block) = some title ↔ ∃ before line behind,
      Text.lines (Text.trim block) = before ++ line :: behind ∧ Query.Directs line title ∧
        ∀ earlier ∈ before, ∀ other, ¬Query.Directs earlier other := by
  have shown {session : Session} {query : Query} (held : session.query? = some query) :
      session.panel.title? = query.title? := by simp only [panel, held]
  refine ⟨fun interval events lineage hmem => ?_, ?_, Query.ownTitle?_eq_some_iff⟩
  · have tells := family_tells interval events lineage hmem
    exact ⟨tells.title, fun query held => shown held ▸ tells.panel⟩
  · intro origin copy before events opens duplicated
    have after := panel_title_after (.copy origin copy before opens duplicated) events
    obtain ⟨original, held, rfl⟩ := Option.map_eq_some_iff.mp duplicated
    exact ⟨original, held, fun query held => shown held ▸ after⟩

/-- A session that is duplicated, then gets a title, while its copy runs a block with another
one. -/
def household : List (Nat × Event) :=
  [(0, .command 0 (.refresh "#@ A\np;r;g;1h\nfields @message")), (0, .command 0 .duplicate),
    (0, .command 0 (.changeTitle "B")),
    (1, .command 0 (.refresh "#@ C\np;r;g;1h\nfields @message"))]

theorem titles_by_lineage_household :
    (family 0 household).length = 2 ∧ ∃ copy ∈ family 0 household, ∃ query,
      copy.session.query? = some query ∧ lastRenamed copy.past = none ∧
        copy.past.countP Happening.isAccepted = 2 ∧ firstTitle? copy.past = some "A" ∧
          query.title? = some "A" := by
  have two : (family 0 household).length = 2 := by decide +kernel
  have past : ((family 0 household)[1]?.map fun copy => (lastRenamed copy.past,
      copy.past.countP Happening.isAccepted, firstTitle? copy.past, copy.session.query?.isSome)) =
      some (none, 2, some "A", true) := by decide +kernel
  obtain ⟨copy, there, told⟩ := Option.map_eq_some_iff.mp past
  simp only [Prod.mk.injEq] at told
  obtain ⟨renamed, accepted, first, held⟩ := told
  obtain ⟨query, held⟩ := Option.isSome_iff_exists.mp held
  have member := List.mem_of_getElem? there
  have title := (titles_by_lineage.1 0 household copy member).2 query held
  rw [renamed, first] at title
  exact ⟨two, copy, member, query, held, renamed, accepted, first, title⟩

end Lineage

end LogQuery
