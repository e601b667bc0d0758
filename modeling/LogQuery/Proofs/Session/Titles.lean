import LogQuery.Proofs.Session.Segments

namespace LogQuery

/-- What a view shows above its rows: a title, and the environment of its query if it has one. -/
structure Panel where
  title? : Option String
  environment? : Option String

namespace Panel

def heading (panel : Panel) (rowCount : Nat) : String :=
  match panel.environment? with
  | some environment =>
    let title := panel.title?.getD "Results"
    s!"{title} {environment} ({rowCount})"
  | none => panel.title?.getD ""

def next (panel : Panel) : Happening → Panel
  | .accepted _ query => { title? := query.title?, environment? := some query.environment }
  | .renamed title => { panel with title? := some title }
  | _ => panel

def after (panel : Panel) (happenings : List Happening) : Panel :=
  happenings.foldl next panel

theorem after_cons (panel : Panel) (happening : Happening) (later : List Happening) :
    panel.after (happening :: later) = (panel.next happening).after later := rfl

theorem after_append (panel : Panel) (earlier later : List Happening) :
    panel.after (earlier ++ later) = (panel.after earlier).after later :=
  List.foldl_append

end Panel

def lastRenamed : List Happening → Option String
  | [] => none
  | .renamed title :: later => (lastRenamed later).or (some title)
  | _ :: later => lastRenamed later

theorem lastRenamed_append (earlier later : List Happening) :
    lastRenamed (earlier ++ later) = (lastRenamed later).or (lastRenamed earlier) := by
  induction earlier with
  | nil => simp [lastRenamed]
  | cons happening earlier ih => cases happening <;> simp [lastRenamed, ih]

namespace Session

def panel (session : Session) : Panel :=
  match session.query? with
  | some query => { title? := query.title?, environment? := some query.environment }
  | none => { title? := session.title?, environment? := none }

end Session

namespace Panel

variable {panel : Panel} {happenings : List Happening}

theorem after_of_not_isAccepted (h : ∀ happening ∈ happenings, ¬happening.isAccepted) :
    panel.after happenings =
      { panel with title? := (lastRenamed happenings).or panel.title? } := by
  induction happenings generalizing panel with
  | nil => rfl
  | cons happening happenings ih =>
      obtain ⟨first, others⟩ := List.forall_mem_cons.mp h
      rw [after_cons, ih others]
      cases happening with
      | accepted => exact absurd rfl first
      | renamed title => simp [next, lastRenamed]
      | _ => rfl

theorem heading_eq_iff {environment : String} (query : panel.environment? = some environment)
    (title? : Option String) (rowCount : Nat) :
    panel.heading rowCount = heading { title?, environment? := some environment } rowCount ↔
      panel.title?.getD "Results" = title?.getD "Results" := by
  simp only [heading, query, toString, String.append_left_inj]

end Panel

namespace Happening

def isConcluded : Happening → Bool
  | concluded => true
  | _ => false

def isRenamed : Happening → Bool
  | renamed _ => true
  | _ => false

/-- Whether it is when a message is made up. -/
def stamps (happening : Happening) : Message → Bool
  | .started .. => happening.isAccepted
  | .finished .. => happening.isConcluded
  | .title _ => happening.isRenamed
  | _ => false

/-- Whether an execution tells that it has begun, under a title. -/
def tellsStart (shown : String) : Happening → Bool
  | queued .execution (.started title ..) => title == shown
  | _ => false

theorem eq_started_of_tellsStart {shown : String} {happening : Happening}
    (h : happening.tellsStart shown) : ∃ environment timeRange logGroups source,
      happening = queued .execution (.started shown environment timeRange logGroups source) := by
  unfold tellsStart at h
  split at h
  · cases beq_iff_eq.mp h
    exact ⟨_, _, _, _, rfl⟩
  · cases h

end Happening

def Message.Shows (panel : Panel) : Message → Prop
  | started shown environment .. =>
    panel.environment? = some environment ∧ shown = panel.heading 0
  | finished _ shown rowCount _ => panel.environment?.isSome ∧ shown = panel.heading rowCount
  | title shown => ∃ rowCount, shown = panel.heading rowCount
  | _ => True

/-- A message that shows the title of the moment `made` when it was made up. Since then no other
query has been accepted, and no other message of its kind was made up. -/
structure Dated (start : Panel) (message : Message) (made since : List Happening) : Prop where
  stamp : ∃ earlier happening, made = earlier ++ [happening] ∧ happening.stamps message
  quiet : ∀ happening ∈ since, ¬happening.isAccepted ∧ ¬happening.stamps message
  shows_made : message.Shows (start.after made)

theorem lastRenamed_eq_none {happenings : List Happening}
    (h : ∀ happening ∈ happenings, ¬happening.isRenamed) : lastRenamed happenings = none := by
  induction happenings with
  | nil => rfl
  | cons happening happenings ih =>
      obtain ⟨first, others⟩ := List.forall_mem_cons.mp h
      cases happening with
      | renamed => exact absurd rfl first
      | _ => exact ih others

namespace Dated

variable {start : Panel} {message : Message} {made since : List Happening}

theorem append (h : Dated start message made since) {happenings : List Happening}
    (quiet : ∀ happening ∈ happenings, ¬happening.isAccepted ∧ ¬happening.stamps message) :
    Dated start message made (since ++ happenings) :=
  ⟨h.stamp, List.forall_mem_append.mpr ⟨h.quiet, quiet⟩, h.shows_made⟩

/-- The title of such a message is still that of the view unless another one was given since. -/
theorem shows_iff (h : Dated start message made since) :
    message.Shows (start.after (made ++ since)) ↔ ∀ title, lastRenamed since = some title →
      (start.after made).title?.getD "Results" = title := by
  obtain ⟨⟨earlier, happening, -, stamps⟩, quiet, shows⟩ := h
  rw [Panel.after_append, Panel.after_of_not_isAccepted fun happening hmem =>
    (quiet happening hmem).1]
  cases renamed : lastRenamed since with
  | none => simpa using shows
  | some title =>
      cases message with
      | started shown environment =>
          obtain ⟨query, rfl⟩ := shows
          simp [Message.Shows, query, Panel.heading_eq_iff query]
      | finished ending shown rowCount =>
          obtain ⟨query, rfl⟩ := shows
          obtain ⟨environment, query⟩ := Option.isSome_iff_exists.mp query
          simp [Message.Shows, query, Panel.heading_eq_iff query]
      | title =>
          have none := lastRenamed_eq_none fun happening hmem => (quiet happening hmem).2
          rw [none] at renamed
          cases renamed
      | _ => cases stamps

end Dated

namespace Session

variable {refusals : QueryError → Prop} {session final : Session}
    {past happenings : List Happening}

def unsent? (session : Session) : Option Message :=
  session.running?.bind Running.unsent?

/-- The title that the view was given stands over all others. -/
def Entitled (session : Session) : Prop :=
  ∀ title, session.title? = some title → session.panel.title? = some title

theorem panel_of_note (query : Query) (progress : Progress) :
    (session.note query progress).1.panel = session.panel := by
  cases progress <;> rfl

theorem panel_of_conclude (query : Query) (outcome : Except QueryError Report) :
    (session.conclude query outcome).1.panel = session.panel := by
  cases outcome with
  | error => rfl
  | ok report =>
      simp only [panel, conclude]
      cases session.query? <;> rfl

theorem changeTitle_panel (title : String) :
    (session.changeTitle title).panel = { session.panel with title? := some title } := by
  simp only [panel, changeTitle, post]
  cases session.query? <;> rfl

theorem sends_changeTitle_heading (title : String) :
    ∃ rowCount, sends .command session (session.changeTitle title) =
      [.queued .command (.title ((session.changeTitle title).panel.heading rowCount))] := by
  refine ⟨(session.latest?.map Aggregate.rowCount).getD 0, sends_command_of_sent ?_⟩
  simp only [changeTitle, panel, post]
  cases session.query? <;> rfl

theorem Move.panel_eq (h : Move refusals session happenings final) :
    final.panel = session.panel.after happenings := by
  cases h with
  | renamed title =>
      obtain ⟨rowCount, sends⟩ := session.sends_changeTitle_heading title
      rw [sends]
      exact session.changeTitle_panel title
  | accepted => rfl
  | reported running progress => exact session.panel_of_note _ progress
  | concluded running outcome => exact session.panel_of_conclude _ outcome
  | delivered running => cases running.task? <;> rfl
  | _ => rfl

theorem Move.title?_eq (h : Move refusals session happenings final) :
    final.title? = (lastRenamed happenings).or session.title? := by
  cases h with
  | renamed title =>
      obtain ⟨rowCount, sends⟩ := session.sends_changeTitle_heading title
      rw [sends]
      rfl
  | reported running progress => cases progress <;> rfl
  | concluded running outcome => cases outcome <;> rfl
  | delivered running => cases running.task? <;> rfl
  | _ => rfl

theorem title?_of_read {now : Int} {block : String} {query : Query}
    (read : session.read now block = .ok query) {title : String}
    (given : session.title? = some title) : query.title? = some title := by
  unfold Session.read at read
  cases parsed : Query.read now (session.query?.bind Query.title?) block with
  | error problem =>
      rw [parsed] at read
      cases read
  | ok query =>
      rw [parsed] at read
      cases read
      simp [given]

theorem Move.entitled (h : Move refusals session happenings final) (entitled : session.Entitled) :
    final.Entitled := by
  intro title given
  rw [h.title?_eq] at given
  rw [h.panel_eq]
  cases h with
  | renamed title' =>
      obtain ⟨rowCount, sends⟩ := session.sends_changeTitle_heading title'
      rw [sends] at given ⊢
      exact given
  | accepted now block query ended errand read => exact title?_of_read read given
  | delivered running =>
      cases task : running.task? <;> rw [task] at given <;> exact entitled title given
  | _ => exact entitled title given

def Founded (session : Session) : Prop :=
  session.running?.isSome → session.query?.isSome

theorem Move.founded (h : Move refusals session happenings final) (founded : session.Founded) :
    final.Founded := by
  intro running
  cases h with
  | renamed => simpa [changeTitle, post] using founded running
  | accepted => rfl
  | refused => cases running
  | closed => cases running
  | released => cases running
  | asked | closing | cancelled => exact founded (by simpa [cancel] using running)
  | reported _ progress _ current =>
      have held := founded (by rw [current]; rfl)
      cases progress <;> exact held
  | concluded _ outcome current =>
      have held := founded (by rw [current]; rfl)
      cases outcome <;> simpa [conclude] using held
  | answered _ _ _ _ current => exact founded (by rw [current]; rfl)
  | consulted _ _ current => exact founded (by rw [current]; rfl)
  | turned _ _ current => exact founded (by rw [current]; rfl)
  | delivered _ _ current => exact founded (by rw [current]; rfl)
  | attended | posted => exact founded running

theorem dated_note (start : Panel) {query : Query} (begun : Begun past query)
    {progress : Progress} {message : Message}
    (made : (session.note query progress).2 = some message) (titled : message.showsTitle) :
    ∃ made since, past = made ++ since ∧
      Dated start message made since ∧ ∀ shown, message ≠ .title shown := by
  obtain ⟨earlier, block, since, rfl, quiet⟩ := begun
  cases progress with
  | started => cases made
  | results => cases made; cases titled
  | logGroups resolved =>
      cases made
      refine ⟨earlier ++ [.accepted block query], since, by simp, ?_, nofun⟩
      refine ⟨⟨earlier, _, rfl, rfl⟩, fun happening hmem => ?_, ?_⟩
      · exact ⟨(quiet happening hmem).1, (quiet happening hmem).1⟩
      · rw [Panel.after_append]
        exact ⟨rfl, rfl⟩

theorem dated_conclude {start : Panel} (current : session.panel = start.after past)
    {query : Query} (held : session.query?.isSome) {outcome : Except QueryError Report}
    (titled : (session.conclude query outcome).2.showsTitle) :
    Dated start (session.conclude query outcome).2 (past ++ [.concluded]) [] := by
  obtain ⟨current', hquery⟩ := Option.isSome_iff_exists.mp held
  cases outcome with
  | error => cases titled
  | ok report =>
      refine ⟨⟨past, _, rfl, rfl⟩, by simp, ?_⟩
      rw [Panel.after_append, ← current]
      simp only [panel, conclude, hquery]
      exact ⟨rfl, rfl⟩

/-- A session shows a title when one is given to the view, and in the messages of its
execution. -/
theorem Move.titled (h : Move refusals session happenings final) {before later : List Happening}
    {source : Source} {message : Message}
    (queued : happenings = before ++ .queued source message :: later)
    (titled : message.showsTitle) :
    (∃ title rowCount, before = [.renamed title] ∧
      message = .title (Panel.heading { session.panel with title? := some title } rowCount)) ∨
    before = [] ∧ session.unsent? = some message := by
  have hmem : .queued source message ∈ happenings := by simp [queued]
  cases h with
  | renamed title =>
      obtain ⟨rowCount, sends⟩ := session.sends_changeTitle_heading title
      rw [sends, changeTitle_panel] at queued
      cases before with
      | nil => cases (List.cons.inj queued).1
      | cons first before =>
          obtain ⟨rfl, rest⟩ := List.cons.inj queued
          rcases List.singleton_eq_append_iff.mp rest with ⟨rfl, same⟩ | ⟨_, none⟩
          · cases (List.cons.inj same).1
            exact .inl ⟨title, rowCount, rfl, rfl⟩
          · cases none
  | delivered running message' current unsent =>
      cases before with
      | nil =>
          cases (List.cons.inj queued).1
          exact .inr ⟨rfl, by rw [unsent?, current]; exact unsent⟩
      | cons first before =>
          have late : .queued source message ∈
              if running.task?.isNone then [Happening.ended] else [] := by
            obtain ⟨_, rest⟩ := List.cons.inj queued
            rw [rest]
            simp
          cases running.task? <;> simp at late
  | posted message' untitled =>
      cases List.mem_singleton.mp hmem
      simp [titled] at untitled
  | refused =>
      cases List.mem_singleton.mp hmem
      cases titled
  | _ => simp at hmem

structure Titled (refusals : QueryError → Prop) (start : Session) (past : List Happening)
    (session : Session) : Prop where
  segmented : Segmented refusals past session
  founded : session.Founded
  entitled : session.Entitled
  panel : session.panel = start.panel.after past
  title : session.title? = (lastRenamed past).or start.title?
  unsent (message : Message) (made : session.unsent? = some message)
    (titled : message.showsTitle) :
    ∃ made since, past = made ++ since ∧ Dated start.panel message made since ∧
      ∀ shown, message ≠ .title shown
  sent (before later : List Happening) (source : Source) (message : Message)
    (queued : past = before ++ .queued source message :: later) (titled : message.showsTitle) :
    (∀ title, (lastRenamed before).or start.title? = some title →
      (start.panel.after before).title? = some title) ∧
    ∃ made since, before = made ++ since ∧ Dated start.panel message made since

namespace Titled

variable {start : Session}

theorem unsent_append (h : Titled refusals start past session) {message : Message}
    (made : session.unsent? = some message) (titled : message.showsTitle)
    (quiet : ∀ happening ∈ happenings, ¬happening.isAccepted ∧ ¬happening.isConcluded) :
    ∃ made since, past ++ happenings = made ++ since ∧ Dated start.panel message made since ∧
      ∀ shown, message ≠ .title shown := by
  obtain ⟨made, since, rfl, dated, other⟩ := h.unsent message made titled
  refine ⟨made, since ++ happenings, List.append_assoc ..,
    dated.append fun happening hmem => ?_, other⟩
  refine ⟨(quiet happening hmem).1, ?_⟩
  cases message with
  | started => exact (quiet happening hmem).1
  | finished => exact (quiet happening hmem).2
  | title shown => exact absurd rfl (other shown)
  | _ => cases titled

theorem unsent_move (h : Titled refusals start past session)
    (move : Move refusals session happenings final) (message : Message)
    (made : final.unsent? = some message) (titled : message.showsTitle) :
    ∃ made since, past ++ happenings = made ++ since ∧ Dated start.panel message made since ∧
      ∀ shown, message ≠ .title shown := by
  have cancelled : session.cancel.unsent? = session.unsent? := by
    simp only [unsent?, cancel]
    cases session.running? <;> rfl
  cases move with
  | attended => exact h.unsent_append made titled (by simp)
  | posted =>
    exact h.unsent_append made titled (by simp [Happening.isAccepted, Happening.isConcluded])
  | renamed title =>
      obtain ⟨rowCount, sends⟩ := session.sends_changeTitle_heading title
      rw [sends]
      exact h.unsent_append made titled (by simp [Happening.isAccepted, Happening.isConcluded])
  | asked =>
      exact h.unsent_append (cancelled.symm.trans made) titled
        (by simp [Happening.isAccepted, Happening.isConcluded])
  | closing | cancelled => exact h.unsent_append (cancelled.symm.trans made) titled (by simp)
  | accepted | refused | closed | released | delivered => cases made
  | answered running c next answer current silent => cases silent.symm.trans made
  | consulted running next current silent => cases silent.symm.trans made
  | turned running stage current silent => cases silent.symm.trans made
  | reported running progress next current silent task =>
      rw [List.append_nil]
      exact dated_note start.panel
        (h.segmented.begun current (running.live_of_task task)) made titled
  | concluded running outcome current =>
      cases made
      refine ⟨_, [], (List.append_nil _).symm, ?_, ?_⟩
      · exact dated_conclude h.panel (h.founded (by rw [current]; rfl)) titled
      · cases outcome <;> exact fun shown other => by cases other

theorem given (h : Titled refusals start past session) {title : String}
    (given : (lastRenamed past).or start.title? = some title) :
    (start.panel.after past).title? = some title := by
  rw [← h.panel]
  exact h.entitled title (h.title.trans given)

theorem sent_move (h : Titled refusals start past session)
    (move : Move refusals session happenings final) (before later : List Happening)
    (source : Source) (message : Message)
    (queued : past ++ happenings = before ++ .queued source message :: later)
    (titled : message.showsTitle) :
    (∀ title, (lastRenamed before).or start.title? = some title →
      (start.panel.after before).title? = some title) ∧
    ∃ made since, before = made ++ since ∧ Dated start.panel message made since := by
  rcases append_eq_append_cons queued with ⟨more, rfl⟩ | ⟨more, rfl, rest⟩
  · exact h.sent before more source message rfl titled
  · rcases move.titled rest titled with ⟨title, rowCount, rfl, rfl⟩ | ⟨rfl, made⟩
    · have current : start.panel.after (past ++ [.renamed title]) =
          { session.panel with title? := some title } := by
        rw [Panel.after_append, ← h.panel]
        rfl
      refine ⟨fun other last => ?_, _, [], (List.append_nil _).symm,
        ⟨past, _, rfl, rfl⟩, by simp, ?_⟩
      · rw [lastRenamed_append] at last
        rw [current]
        exact last
      · rw [current]
        exact ⟨rowCount, rfl⟩
    · rw [List.append_nil]
      obtain ⟨made, since, split, dated, _⟩ := h.unsent message made titled
      exact ⟨fun _ => h.given, made, since, split, dated⟩

theorem move (h : Titled refusals start past session)
    (move : Move refusals session happenings final) :
    Titled refusals start (past ++ happenings) final where
  segmented := h.segmented.move move
  founded := move.founded h.founded
  entitled := move.entitled h.entitled
  panel := by rw [move.panel_eq, h.panel, Panel.after_append]
  title := by rw [move.title?_eq, h.title, lastRenamed_append, Option.or_assoc]
  unsent := h.unsent_move move
  sent := h.sent_move move

end Titled

theorem titled_after (opens : session.Opens) (entitled : session.Entitled) (events : List Event) :
    Titled (Refused events) session (session.history events) (session.after events) := by
  have first : Titled (Refused events) session [] session := {
    segmented := .resting (by rw [isRunning, opens.idle.1]) .nil
    founded := by simp [Founded, opens.idle.1]
    entitled
    panel := rfl
    title := rfl
    unsent := by simp [unsent?, opens.idle.1]
    sent := by simp }
  exact history_induction (Titled (Refused events) session) events Titled.move opens.attends first

theorem Opens.entitled (opens : session.Opens) : session.Entitled := by
  induction opens with
  | new interval => nofun
  | copy origin copy events opens duplicated ih =>
      obtain ⟨query, hquery, rfl⟩ := Option.map_eq_some_iff.mp duplicated
      intro title given
      have shown := (titled_after opens ih events).entitled title given
      simp only [panel, hquery] at shown
      exact shown

theorem Opens.shows (opens : session.Opens) :
    ∀ message ∈ session.sent, message.Shows session.panel := by
  cases opens with
  | new interval => simp [Session.new]
  | copy origin copy events opens duplicated =>
      obtain ⟨query, _, rfl⟩ := Option.map_eq_some_iff.mp duplicated
      intro message hmem
      cases List.mem_singleton.mp hmem
      exact ⟨0, rfl⟩

/-- A message shows the title of the moment when it was made up. This is the title of the moment
when it is sent exactly if no other title was given since. -/
theorem titles_when_queued (opens : session.Opens) (events : List Event) :
    let history := session.history events
    (session.after events).panel = session.panel.after history ∧
    (∀ message ∈ session.sent, message.Shows session.panel) ∧
    ∀ before later source message, history = before ++ .queued source message :: later →
      message.showsTitle →
      (∀ title, (lastRenamed before).or session.title? = some title →
        (session.panel.after before).title? = some title) ∧
      (∀ shown, message = .title shown → message.Shows (session.panel.after before)) ∧
      ∃ made since, before = made ++ since ∧ Dated session.panel message made since ∧
        (message.Shows (session.panel.after before) ↔ ∀ title, lastRenamed since = some title →
          (session.panel.after made).title?.getD "Results" = title) := by
  intro history
  have titled := titled_after opens opens.entitled events
  refine ⟨titled.panel, opens.shows, fun before later source message split shows => ?_⟩
  obtain ⟨given, made, since, rfl, dated⟩ := titled.sent before later source message split shows
  refine ⟨given, ?_, made, since, rfl, dated, dated.shows_iff⟩
  rintro shown rfl
  rw [dated.shows_iff, lastRenamed_eq_none fun happening hmem => (dated.quiet happening hmem).2]
  nofun

/-- A title is given while an execution looks for its log groups. -/
def retitling : List Event :=
  [.command 0 (.refresh "p;r;g;1h\nfields @message"), .command 0 (.changeTitle "X"),
    .answered welcome, .proceeded]

theorem retitling_starts : ∃ message later,
    (Session.new 0).history (retitling ++ [.delivered]) =
      (Session.new 0).history retitling ++ .queued .execution message :: later ∧
    message.isStarted ∧ lastRenamed ((Session.new 0).history retitling) = some "X" ∧
    ¬message.Shows ((Session.new 0).panel.after ((Session.new 0).history retitling)) := by
  have told : (((Session.new 0).after retitling).history [.delivered]).head?.any
      (Happening.tellsStart "Results p (0)") = true := by decide +kernel
  have renamed : lastRenamed ((Session.new 0).history retitling) = some "X" := by decide +kernel
  have current : ((Session.new 0).panel.after ((Session.new 0).history retitling)).heading 0 ≠
      "Results p (0)" := by decide +kernel
  have split := history_append (.new 0) retitling [.delivered]
  generalize ((Session.new 0).after retitling).history [.delivered] = rest at told split
  obtain ⟨happening, first, tells⟩ := (Option.any_eq_true _ _).mp told
  obtain ⟨environment, timeRange, logGroups, source, rfl⟩ :=
    Happening.eq_started_of_tellsStart tells
  obtain ⟨later, rfl⟩ := List.head?_eq_some_iff.mp first
  exact ⟨_, later, split, rfl, renamed, fun shows => current shows.2.symm⟩

theorem titles_when_queued_renamed :
    let history := (Session.new 0).history retitling
    let panel := (Session.new 0).panel
    Session.Opens (.new 0) ∧ ∃ message later,
      (Session.new 0).history (retitling ++ [.delivered]) =
        history ++ .queued .execution message :: later ∧
      message.isStarted ∧ (panel.after history).title? = some "X" ∧
      ∃ made since title, history = made ++ since ∧ Dated panel message made since ∧
        lastRenamed since = some title ∧ (panel.after made).title?.getD "Results" ≠ title := by
  intro history panel
  obtain ⟨message, later, split, starts, renamed, unseen⟩ := retitling_starts
  have shows : message.showsTitle := by cases message <;> first | rfl | cases starts
  obtain ⟨given, -, made, since, whole, dated, current⟩ :=
    (titles_when_queued (.new 0) (retitling ++ [.delivered])).2.2 _ later .execution
      message split shows
  obtain ⟨title, last, other⟩ : ∃ title, lastRenamed since = some title ∧
      (panel.after made).title?.getD "Results" ≠ title := by
    simpa only [Classical.not_forall, exists_prop] using mt current.mpr unseen
  exact ⟨.new 0, message, later, split, starts, given "X" (by rw [renamed]; rfl), made, since,
    title, whole, dated, last, other⟩

/-- An execution that is told of its log groups after a new title was given shows the old one. -/
theorem started_shows_older_title :
    ∃ events before message later,
      (Session.new 0).history events = before ++ .queued .execution message :: later ∧
      message.isStarted ∧ lastRenamed before = some "X" ∧
      ¬message.Shows ((Session.new 0).panel.after before) := by
  obtain ⟨message, later, split, told⟩ := retitling_starts
  exact ⟨_, _, message, later, split, told⟩

end Session

end LogQuery
