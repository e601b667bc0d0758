import LogQuery.Proofs.Execution.Phases
import LogQuery.Proofs.Session.Moves
import LogQuery.Service.Unreachable

namespace LogQuery

namespace Message

def isStarted : Message → Bool
  | started .. => true
  | _ => false

def isResults : Message → Bool
  | results .. => true
  | _ => false

def isFinished : Message → Bool
  | finished .. => true
  | _ => false

end Message

/-- All messages of an execution. Access is refused with none but the errors `refusals`. -/
inductive Segment (refusals : QueryError → Prop) : List Message → Prop
  | refused (e : QueryError) (refusal : refusals e) : Segment refusals [.error e.message]
  /-- The catalog of a region cannot be fetched. -/
  | unlisted (region text : String) :
      Segment refusals [.error (QueryError.catalogFetch region text).message]
  | unsubmitted (started : Message) (region text : String) (first : started.isStarted) :
      Segment refusals [started, .error (QueryError.querySubmit region text).message]
  | finished (started : Message) (rows : List Message) (last : Message)
      (first : started.isStarted) (results : ∀ message ∈ rows, message.isResults)
      (finished : last.isFinished) :
      Segment refusals (started :: (rows ++ [last]))
  /-- A call for results fails. -/
  | unpolled (started : Message) (rows : List Message) (region id text : String)
      (first : started.isStarted) (results : ∀ message ∈ rows, message.isResults) :
      Segment refusals
        (started :: (rows ++ [.error (QueryError.queryPoll region id text).message]))

def Phase.Told : Phase → List Message → Prop
  | nothing, messages => messages = []
  | logGroups, messages => ∃ started, Message.isStarted started ∧ messages = [started]
  | started, messages => ∃ started rows, Message.isStarted started ∧
      (∀ message ∈ rows, Message.isResults message) ∧ messages = started :: rows

namespace Happening

/-- Whether it belongs to the course of an execution, or stands where there is none. -/
def isCourse : Happening → Bool
  | accepted .. | ended | closed | queued .execution _ | queued (.refresh _) _ => true
  | _ => false

def isRefresh : Happening → Bool
  | asked _ | accepted .. | queued (.refresh _) _ => true
  | _ => false

def isTold : Happening → Bool
  | queued .execution _ => true
  | _ => false

theorem eq_queued_of_isTold {happening : Happening} (h : happening.isTold) :
    ∃ message, happening = queued .execution message := by
  unfold isTold at h
  split at h
  · exact ⟨_, rfl⟩
  · cases h

def isAccepted : Happening → Bool
  | accepted .. => true
  | _ => false

def isEnded : Happening → Bool
  | ended => true
  | _ => false

end Happening

/-- Executions one after the other, each with all its messages. In between, query blocks are
refused and the session is closed. -/
inductive Whole (refusals : QueryError → Prop) : List Happening → Prop
  | nil : Whole refusals []
  | refused (past : List Happening) (block : String) (e : QueryError)
      (whole : Whole refusals past) :
      Whole refusals (past ++ [.queued (.refresh block) (.error e.message)])
  | closed (past : List Happening) (whole : Whole refusals past) :
      Whole refusals (past ++ [.closed])
  | executed (past : List Happening) (block : String) (query : Query) (messages : List Message)
      (whole : Whole refusals past) (segment : Segment refusals messages) :
      Whole refusals (past ++ .accepted block query ::
        (messages.map (.queued .execution) ++ [.ended]))

/-- Query blocks that are asked for one after the other. Each is read, and accepted or refused,
before the next one. The last of them may have to wait. -/
inductive Answered : List Happening → Option String → Prop
  | nil : Answered [] none
  | asked (past : List Happening) (block : String) (answered : Answered past none) :
      Answered (past ++ [.asked block]) (some block)
  | accepted (past : List Happening) (session : Session) (now : Int) (block : String)
      (query : Query) (read : session.read now block = .ok query)
      (answered : Answered past (some block)) :
      Answered (past ++ [.accepted block query]) none
  | refused (past : List Happening) (session : Session) (now : Int) (block : String)
      (problem : Query.Problem) (read : session.read now block = .error problem)
      (answered : Answered past (some block)) :
      Answered (past ++ [.queued (.refresh block) (.error problem.toQueryError.message)]) none

variable {refusals : QueryError → Prop}

/-- Whether first come all messages of an execution, and its end. -/
def Executed (refusals : QueryError → Prop) (happenings : List Happening) : Prop :=
  ∃ messages later, Segment refusals messages ∧
    happenings = messages.map (.queued .execution) ++ .ended :: later

theorem Executed.append {happenings : List Happening} (h : Executed refusals happenings)
    (later : List Happening) : Executed refusals (happenings ++ later) := by
  obtain ⟨messages, rest, segment, rfl⟩ := h
  exact ⟨messages, rest ++ later, segment, by simp⟩

theorem Whole.executed_of {past before after : List Happening} {block : String} {query : Query}
    (h : Whole refusals past) (split : past = before ++ .accepted block query :: after) :
    Executed refusals after := by
  have extend {earlier more after : List Happening}
      (ih : ∀ {after}, earlier = before ++ .accepted block query :: after →
        Executed refusals after)
      (split : earlier ++ more = before ++ .accepted block query :: after)
      (other : ∀ rest, more = rest ++ .accepted block query :: after → Executed refusals after) :
      Executed refusals after := by
    rcases append_eq_append_cons split with ⟨rest, first⟩ | ⟨rest, -, new⟩
    · have whole : rest ++ more = after := by simpa [first] using split
      exact whole ▸ (ih first).append more
    · exact other rest new
  induction h generalizing after with
  | nil => simp at split
  | refused earlier _ _ _ ih | closed earlier _ ih =>
      refine extend ih split fun rest new => ?_
      rcases List.singleton_eq_append_iff.mp new with ⟨-, same⟩ | ⟨-, none⟩
      · cases same
      · cases none
  | executed earlier _ _ messages _ segment ih =>
      refine extend ih split fun rest new => ?_
      cases rest with
      | nil => exact ⟨messages, [], segment, (List.cons.inj new).2.symm⟩
      | cons happening rest =>
          have hmem : .accepted block query ∈
              messages.map (Happening.queued .execution) ++ [.ended] := by
            simp [(List.cons.inj new).2]
          simp at hmem

theorem Executed.segment {messages : List Message} {later : List Happening}
    (h : Executed refusals (messages.map (.queued .execution) ++ .ended :: later)) :
    Segment refusals messages := by
  obtain ⟨others, rest, segment, same⟩ := h
  suffices messages = others from this ▸ segment
  clear segment
  induction messages generalizing others with
  | nil => cases others <;> simp at same ⊢
  | cons message messages ih =>
      cases others with
      | nil => simp at same
      | cons other others =>
          simp only [List.map_cons, List.cons_append, List.cons.injEq,
            Happening.queued.injEq] at same
          rw [same.1.2, ih others same.2]

namespace Happening

/-- Whether an execution shows rows once and is told to be at its end, and then the session
closes. -/
def finishAndClose : List Happening → Bool
  | [accepted .., queued .execution first, queued .execution rows, queued .execution last, ended,
      closed] => first.isStarted && rows.isResults && last.isFinished
  | _ => false

theorem exists_of_finishAndClose {happenings : List Happening} (h : finishAndClose happenings) :
    ∃ block query first rows last, happenings = [accepted block query, queued .execution first,
        queued .execution rows, queued .execution last, ended, closed] ∧
      first.isStarted ∧ rows.isResults ∧ last.isFinished := by
  unfold finishAndClose at h
  split at h
  · obtain ⟨first, last⟩ := (Bool.and_eq_true _ _).mp h
    obtain ⟨first, rows⟩ := (Bool.and_eq_true _ _).mp first
    exact ⟨_, _, _, _, _, rfl, first, rows, last⟩
  · cases h

end Happening

namespace Phase

theorem Told.note {phase later : Phase} {messages : List Message} (h : phase.Told messages)
    {progress : Progress} (next : phase.next? (.report progress) = some later) (session : Session)
    (query : Query) : later.Told (messages ++ (session.note query progress).2.toList) := by
  cases phase <;> cases progress <;> cases next
  · cases h
    exact ⟨_, rfl, rfl⟩
  · obtain ⟨started, first, rfl⟩ := h
    exact ⟨started, [], first, by simp, rfl⟩
  · obtain ⟨started, rows, first, results, rfl⟩ := h
    refine ⟨started, _, first, List.forall_mem_append.mpr ⟨results, ?_⟩, rfl⟩
    simp [Session.note, Message.isResults]

theorem Told.conclude {phase : Phase} {messages : List Message} (h : phase.Told messages)
    {outcome : Except QueryError Report} (admits : phase.Admits refusals (.ended outcome))
    (session : Session) (query : Query) :
    Segment refusals (messages ++ [(session.conclude query outcome).2]) := by
  cases phase with
  | nothing =>
      cases h
      cases outcome with
      | ok report => exact admits.elim
      | error e =>
          rcases admits with refusal | ⟨region, text, rfl⟩
          · exact .refused e refusal
          · exact .unlisted region text
  | logGroups =>
      obtain ⟨started, first, rfl⟩ := h
      obtain ⟨region, text, ended⟩ := admits
      cases ended
      exact .unsubmitted started region text first
  | started =>
      obtain ⟨started, rows, first, results, rfl⟩ := h
      obtain ⟨queries, asks⟩ := admits
      cases outcome with
      | ok report => exact .finished started rows _ first results rfl
      | error e =>
          obtain ⟨region, id, text, rfl⟩ := asks
          exact .unpolled started rows region id text first results

theorem Told.begins {phase : Phase} {messages : List Message} (h : phase.Told messages) :
    ∃ later, Segment refusals (messages ++ later) := by
  cases phase with
  | nothing =>
      cases h
      exact ⟨_, .unlisted "" ""⟩
  | logGroups =>
      obtain ⟨started, first, rfl⟩ := h
      exact ⟨_, .unsubmitted started "" "" first⟩
  | started =>
      obtain ⟨started, rows, first, results, rfl⟩ := h
      exact ⟨_, .unpolled started rows "" "" "" first results⟩

end Phase

/-- Whether an execution can go on when these messages of it have been sent. -/
def Running.Tells (refusals : QueryError → Prop) (running : Running) (messages : List Message) :
    Prop :=
  match running.task? with
  | some task =>
    ∃ phase : Phase, phase.Runs refusals task ∧ phase.Told (messages ++ running.unsent?.toList)
  | none => Segment refusals (messages ++ running.unsent?.toList)

namespace Running

theorem Tells.begins {running : Running} {messages : List Message}
    (h : running.Tells refusals messages) :
    ∃ later, Segment refusals (messages ++ later) := by
  unfold Tells at h
  split at h
  · obtain ⟨phase, _, told⟩ := h
    obtain ⟨later, segment⟩ := told.begins
    exact ⟨running.unsent?.toList ++ later, by rwa [← List.append_assoc]⟩
  · exact ⟨_, h⟩

theorem tells_iff (running : Running) {task : Task Stage} {messages : List Message}
    (h : running.task? = some task) :
    running.Tells refusals messages ↔ ∃ phase : Phase,
      phase.Runs refusals task ∧ phase.Told (messages ++ running.unsent?.toList) := by
  simp only [Tells, h]

theorem live_of_task (running : Running) {task : Task Stage} (h : running.task? = some task) :
    running.ended = false := by
  simp [ended, h]

end Running

theorem Phase.next?_of_not_isOwn {phase : Phase} {c : Call} (h : c.isOwn = false) :
    phase.next? c = some phase := by
  cases phase <;> cases c <;> first | rfl | cases h

theorem Phase.next?_cancelled (phase : Phase) : phase.next? .cancelled = some phase := by
  cases phase <;> rfl

namespace Session

/-- What has come of a session: whole executions, and the beginning of the one that is at work. -/
inductive Segmented (refusals : QueryError → Prop) (past : List Happening) (session : Session) :
    Prop
  | resting (ended : session.isRunning = false)
      (whole : Whole refusals (past.filter Happening.isCourse))
  | running (running : Running) (earlier : List Happening) (block : String)
      (messages : List Message) (current : session.running? = some running)
      (live : running.ended = false) (whole : Whole refusals earlier)
      (course : past.filter Happening.isCourse =
        earlier ++ .accepted block running.execution.query :: messages.map (.queued .execution))
      (tells : running.Tells refusals messages)

theorem isRunning_of_current {session : Session} {running : Running}
    (current : session.running? = some running) : session.isRunning = !running.ended := by
  rw [isRunning, current]

namespace Segmented

variable {past happenings : List Happening} {session final : Session}

theorem whole (h : Segmented refusals past session) (ended : session.isRunning = false) :
    Whole refusals (past.filter Happening.isCourse) := by
  cases h with
  | resting _ whole => exact whole
  | running running earlier block messages current live =>
      rw [isRunning_of_current current, live] at ended
      cases ended

theorem at_work (h : Segmented refusals past session) {running : Running}
    (current : session.running? = some running) (live : running.ended = false) :
    ∃ earlier block messages, Whole refusals earlier ∧
      past.filter Happening.isCourse =
        earlier ++ .accepted block running.execution.query :: messages.map (.queued .execution) ∧
      running.Tells refusals messages := by
  cases h with
  | resting ended =>
      rw [isRunning_of_current current, live] at ended
      cases ended
  | running running' earlier block messages current' _ whole course tells =>
      cases current.symm.trans current'
      exact ⟨earlier, block, messages, whole, course, tells⟩

theorem goes (h : Segmented refusals past session) {running next : Running}
    (current : session.running? = some running) (live : running.ended = false)
    (silent : happenings.filter Happening.isCourse = []) (begun : final.running? = some next)
    (same : next.execution = running.execution) (ongoing : next.ended = false)
    (tells : ∀ messages, running.Tells refusals messages → next.Tells refusals messages) :
    Segmented refusals (past ++ happenings) final := by
  obtain ⟨earlier, block, messages, whole, course, told⟩ := h.at_work current live
  refine .running next earlier block messages begun ongoing whole ?_ (tells messages told)
  rw [List.filter_append, silent, List.append_nil, course, same]

theorem stays (h : Segmented refusals past session)
    (silent : happenings.filter Happening.isCourse = [])
    (same : final.running? = session.running?) :
    Segmented refusals (past ++ happenings) final := by
  cases h with
  | resting ended whole =>
      refine .resting ?_ ?_
      · rwa [isRunning, same]
      · rwa [List.filter_append, silent, List.append_nil]
  | running running earlier block messages current live whole course tells =>
      exact .goes
        (.running running earlier block messages current live whole course tells) current
        live silent (same.trans current) rfl live fun _ => id

theorem rests (whole : Whole refusals ((past ++ happenings).filter Happening.isCourse))
    (idle : final.running? = none) : Segmented refusals (past ++ happenings) final :=
  .resting (by rw [isRunning, idle]) whole

theorem cancel (h : Segmented refusals past session)
    (silent : happenings.filter Happening.isCourse = [])
    (told : final.running? = session.cancel.running?) :
    Segmented refusals (past ++ happenings) final := by
  cases current : session.running? with
  | none => exact h.stays silent (by rw [told, Session.cancel, current]; rfl)
  | some running =>
      have current' : final.running? = some { running with cancelled := true } := by
        rw [told, Session.cancel, current]
        rfl
      cases live : running.ended with
      | false => exact h.goes current live silent current' rfl live fun _ => id
      | true =>
          refine .resting ?_ ?_
          · rw [isRunning_of_current current']
            exact congrArg not live
          · rw [List.filter_append, silent, List.append_nil]
            exact h.whole (by rw [isRunning_of_current current, live]; rfl)

theorem delivered (h : Segmented refusals past session) {running : Running} {message : Message}
    (current : session.running? = some running) (unsent : running.unsent? = some message) :
    Segmented refusals
      (past ++ .queued .execution message :: if running.task?.isNone then [.ended] else [])
      ({ session with running? := some { running with unsent? := none } }.post message) := by
  have live : running.ended = false := by simp [Running.ended, unsent]
  obtain ⟨earlier, block, messages, whole, course, tells⟩ := h.at_work current live
  cases task : running.task? with
  | none =>
      simp only [Running.Tells, task, unsent] at tells
      refine .resting (by simp [isRunning, post, Running.ended]) ?_
      have all : (past ++ [Happening.queued .execution message, .ended]).filter
          Happening.isCourse =
          earlier ++ .accepted block running.execution.query ::
            ((messages ++ [message]).map (.queued .execution) ++ [.ended]) := by
        rw [List.filter_append, course]
        simp [Happening.isCourse]
      exact all ▸ .executed earlier block _ _ whole tells
  | some task' =>
      obtain ⟨phase, runs, told⟩ := (running.tells_iff task).mp tells
      rw [unsent] at told
      refine .running _ earlier block (messages ++ [message]) rfl (by simp [Running.ended]) whole
        ?_ ?_
      · rw [List.filter_append, course]
        simp [Happening.isCourse]
      · refine (Running.tells_iff _ rfl).mpr ⟨phase, runs, ?_⟩
        simpa using told

theorem move (h : Segmented refusals past session)
    (move : Move refusals session happenings final) :
    Segmented refusals (past ++ happenings) final := by
  cases move with
  | attended => exact h.stays rfl rfl
  | posted => exact h.stays rfl rfl
  | renamed title =>
      obtain ⟨shown, _, sends⟩ := session.sends_changeTitle title
      rw [sends]
      exact h.stays rfl rfl
  | asked block => exact h.cancel rfl rfl
  | closing => exact h.cancel rfl rfl
  | cancelled => exact h.cancel rfl rfl
  | released ended =>
      refine rests ?_ rfl
      rw [List.append_nil]
      exact h.whole ended
  | closed ended =>
      refine rests ?_ rfl
      rw [List.filter_append]
      exact .closed _ (h.whole ended)
  | refused now block problem ended =>
      refine rests ?_ rfl
      rw [List.filter_append]
      exact .refused _ block problem.toQueryError (h.whole ended)
  | accepted now block query ended =>
      refine .running _ _ block [] rfl rfl (h.whole ended) (List.filter_append ..) ?_
      exact ⟨.nothing, Execution.start_runs _, rfl⟩
  | answered running c next answer current silent task others admits =>
      refine h.goes current (running.live_of_task task) rfl rfl rfl rfl fun messages tells => ?_
      obtain ⟨phase, ⟨later, hnext, runs⟩, told⟩ := (running.tells_iff task).mp tells
      rw [Phase.next?_of_not_isOwn others] at hnext
      cases hnext
      exact ⟨phase, runs answer admits, told⟩
  | reported running progress next current silent task =>
      refine h.goes current (running.live_of_task task) rfl rfl rfl rfl fun messages tells => ?_
      obtain ⟨phase, ⟨later, hnext, runs⟩, told⟩ := (running.tells_iff task).mp tells
      rw [silent, Option.toList_none, List.append_nil] at told
      exact ⟨later, runs () trivial, told.note hnext session running.execution.query⟩
  | consulted running next current silent task =>
      refine h.goes current (running.live_of_task task) rfl rfl rfl rfl fun messages tells => ?_
      obtain ⟨phase, ⟨later, hnext, runs⟩, told⟩ := (running.tells_iff task).mp tells
      rw [Phase.next?_cancelled] at hnext
      cases hnext
      exact ⟨phase, runs _ trivial, told⟩
  | concluded running outcome current silent task =>
      refine h.goes current (running.live_of_task task) rfl rfl rfl rfl fun messages tells => ?_
      obtain ⟨phase, admits, told⟩ := (running.tells_iff task).mp tells
      rw [silent, Option.toList_none, List.append_nil] at told
      exact told.conclude admits session running.execution.query
  | turned running stage current silent task =>
      refine h.goes current (running.live_of_task task) rfl rfl rfl rfl fun messages tells => ?_
      obtain ⟨phase, admits, told⟩ := (running.tells_iff task).mp tells
      exact ⟨phase, running.execution.turn_runs admits, told⟩
  | delivered running message current unsent => exact h.delivered current unsent

end Segmented

theorem segmented_after {session : Session} (opens : session.Opens) (events : List Event) :
    Segmented (Refused events) (session.history events) (session.after events) := by
  have first : Segmented (Refused events) [] session :=
    .resting (by rw [isRunning, opens.idle.1]) .nil
  exact history_induction (Segmented (Refused events)) events Segmented.move opens.attends first

def waits? (session : Session) : Option String :=
  match session.errand? with
  | some (.refresh block) => some block
  | _ => none

theorem waits?_of_errand? {session final : Session} (h : final.errand? = session.errand?) :
    final.waits? = session.waits? := by
  rw [waits?, h, waits?]

theorem waits?_eq_none {session : Session}
    (h : ∀ block, session.errand? ≠ some (.refresh block)) : session.waits? = none := by
  unfold waits?
  split
  · rename_i block errand
    exact absurd errand (h block)
  · rfl

theorem waits?_resumed {session : Session} (ended : session.isRunning = false) (now : Int) :
    (session.step (.resumed now)).waits? = none := by
  simp only [step, ended, Bool.false_eq_true, if_false, waits?, afterEnd]
  cases errand : session.errand? with
  | none => simp [errand]
  | some errand' =>
      cases errand' with
      | fetch => simp [errand]
      | close => rfl
      | refresh block =>
          simp only [run]
          cases ({ session with running? := none, errand? := none } : Session).read now block <;>
            rfl

theorem waits?_eq_some {session : Session} {block : String}
    (h : session.errand? = some (.refresh block)) : session.waits? = some block := by
  rw [waits?, h]

theorem answered_move {past happenings : List Happening} {session final : Session}
    (h : Answered (past.filter Happening.isRefresh) session.waits?)
    (move : Move refusals session happenings final) :
    Answered ((past ++ happenings).filter Happening.isRefresh) final.waits? := by
  have stays (silent : happenings.filter Happening.isRefresh = [])
      (same : final.waits? = session.waits?) :
      Answered ((past ++ happenings).filter Happening.isRefresh) final.waits? := by
    rwa [List.filter_append, silent, List.append_nil, same]
  cases move with
  | attended running closing task? =>
      refine stays rfl ?_
      rw [waits?_eq_none running, waits?_eq_none]
      cases task? <;> simp
  | posted => exact stays rfl rfl
  | renamed title =>
      obtain ⟨shown, _, sends⟩ := session.sends_changeTitle title
      rw [sends] at stays ⊢
      exact stays rfl rfl
  | asked block free =>
      rw [waits?_eq_none (by simp [free])] at h
      rw [List.filter_append]
      exact .asked _ block h
  | closing free => exact stays rfl (waits?_eq_none (by simp [free])).symm
  | accepted now block query ended errand read =>
      rw [waits?_eq_some errand] at h
      rw [List.filter_append]
      exact .accepted _ session now block query read h
  | refused now block problem ended errand read =>
      rw [waits?_eq_some errand] at h
      rw [List.filter_append]
      exact .refused _ session now block problem read h
  | closed ended errand => exact stays rfl (waits?_eq_none (by simp [errand])).symm
  | cancelled => exact stays rfl rfl
  | released => exact stays rfl rfl
  | answered => exact stays rfl rfl
  | reported running progress =>
    exact stays rfl (waits?_of_errand? (session.note_errand? _ progress))
  | consulted => exact stays rfl rfl
  | concluded running outcome =>
      exact stays rfl (waits?_of_errand? (session.conclude_errand? _ outcome))
  | turned => exact stays rfl rfl
  | delivered running => exact stays (by cases running.task? <;> rfl) rfl

theorem answered_after {session : Session} (opens : session.Opens) (events : List Event) :
    Answered ((session.history events).filter Happening.isRefresh)
      (session.after events).waits? := by
  have first : Answered ([].filter Happening.isRefresh) session.waits? := by
    rw [waits?_eq_none (by simp [opens.idle.2])]
    exact .nil
  exact history_induction (fun past session =>
    Answered (past.filter Happening.isRefresh) session.waits?)
    events answered_move opens.attends first

end Session

theorem Happening.countP_messages {p : Happening → Bool}
    (h : ∀ message, p (queued .execution message) = false) (messages : List Message) :
    (messages.map (queued .execution)).countP p = 0 := by
  rw [List.countP_map, List.countP_eq_zero]
  exact fun message _ => by simp [h]

theorem Whole.balanced {past : List Happening} (h : Whole refusals past) :
    past.countP Happening.isAccepted = past.countP Happening.isEnded := by
  induction h with
  | nil => rfl
  | refused past block e whole ih => simp [ih, Happening.isAccepted, Happening.isEnded]
  | closed past whole ih => simp [ih, Happening.isAccepted, Happening.isEnded]
  | executed past block query messages whole segment ih =>
      have accepted : (messages.map (Happening.queued .execution)).countP Happening.isAccepted =
          0 := Happening.countP_messages (fun _ => rfl) messages
      have ended : (messages.map (Happening.queued .execution)).countP Happening.isEnded = 0 :=
        Happening.countP_messages (fun _ => rfl) messages
      simp only [List.countP_append, ih, List.countP_cons, accepted, ended]
      rfl

theorem Happening.isCourse_of_isAccepted {happening : Happening} (h : happening.isAccepted) :
    happening.isCourse := by
  cases happening <;> first | rfl | cases h

theorem Happening.isCourse_of_isEnded {happening : Happening} (h : happening.isEnded) :
    happening.isCourse := by
  cases happening <;> first | rfl | cases h

theorem Happening.countP_filter_isCourse {p : Happening → Bool}
    (h : ∀ happening, p happening → happening.isCourse) (past : List Happening) :
    (past.filter isCourse).countP p = past.countP p := by
  rw [List.countP_filter]
  refine List.countP_congr fun happening _ => ?_
  cases hp : p happening with
  | false => simp
  | true => simp [h happening hp]

namespace Session

theorem Segmented.balanced {past : List Happening} {session : Session}
    (h : Segmented refusals past session) :
    past.countP Happening.isAccepted =
      past.countP Happening.isEnded + if session.isRunning then 1 else 0 := by
  rw [← Happening.countP_filter_isCourse fun _ => Happening.isCourse_of_isAccepted,
    ← Happening.countP_filter_isCourse fun _ => Happening.isCourse_of_isEnded]
  cases h with
  | resting ended whole => simp [ended, whole.balanced]
  | running running earlier block messages current live whole course tells =>
      rw [isRunning_of_current current, live, course, List.countP_append, List.countP_append,
        whole.balanced, List.countP_cons_of_pos rfl, List.countP_cons_of_neg Bool.false_ne_true,
        Happening.countP_messages fun _ => rfl, Happening.countP_messages fun _ => rfl]
      rfl

/-- An execution has begun, and neither has it ended nor has the session been closed since. -/
def Begun (past : List Happening) (query : Query) : Prop :=
  ∃ earlier block later, past = earlier ++ .accepted block query :: later ∧
    ∀ happening ∈ later, ¬happening.isAccepted ∧ ¬happening.isEnded ∧ happening ≠ .closed

theorem Segmented.begun {past : List Happening} {session : Session}
    (h : Segmented refusals past session) {running : Running}
    (current : session.running? = some running) (live : running.ended = false) :
    Begun past running.execution.query := by
  obtain ⟨earlier, block, messages, -, course, -⟩ := h.at_work current live
  obtain ⟨first, second, rfl, _, hsecond⟩ := List.filter_eq_append_iff.mp course
  obtain ⟨third, later, rfl, _, _, hlater⟩ := List.filter_eq_cons_iff.mp hsecond
  refine ⟨first ++ third, block, later, by simp, fun happening hmem => ?_⟩
  have silent (h : happening.isCourse) : ∃ message, happening = .queued .execution message := by
    have := List.mem_filter.mpr ⟨hmem, h⟩
    rw [hlater] at this
    obtain ⟨message, _, rfl⟩ := List.mem_map.mp this
    exact ⟨message, rfl⟩
  refine ⟨fun h => ?_, fun h => ?_, fun h => ?_⟩
  · obtain ⟨message, rfl⟩ := silent (Happening.isCourse_of_isAccepted h)
    cases h
  · obtain ⟨message, rfl⟩ := silent (Happening.isCourse_of_isEnded h)
    cases h
  · subst h
    obtain ⟨message, h⟩ := silent rfl
    cases h

/-- A session speaks for its execution only while the execution is at work. -/
theorem Move.speaks {session final : Session} {happenings : List Happening}
    (h : Move refusals session happenings final) :
    (∀ message, Happening.queued .execution message ∉ happenings) ∨
      ∃ running message rest, session.running? = some running ∧ running.ended = false ∧
        happenings = .queued .execution message :: rest ∧
        ∀ message, Happening.queued .execution message ∉ rest := by
  cases h with
  | delivered running message current unsent =>
      refine .inr ⟨running, message, _, current, by simp [Running.ended, unsent], rfl, ?_⟩
      cases running.task? <;> simp
  | renamed title =>
      obtain ⟨shown, _, sends⟩ := session.sends_changeTitle title
      rw [sends]
      exact .inl (by simp)
  | _ => exact .inl (by simp)

def Placed (past : List Happening) : Prop :=
  ∀ before message later, past = before ++ .queued .execution message :: later →
    ∃ query, Begun before query

theorem placed_move {past happenings : List Happening} {session final : Session}
    (segmented : Segmented refusals past session) (placed : Placed past)
    (move : Move refusals session happenings final) : Placed (past ++ happenings) := by
  intro before message later h
  rcases append_eq_append_cons h with ⟨more, rfl⟩ | ⟨more, rfl, hmore⟩
  · exact placed before message more rfl
  · rcases move.speaks with silent | ⟨running, message', rest, current, live, rfl, silent⟩
    · exact absurd (by simp [hmore]) (silent message)
    · cases more with
      | nil =>
          rw [List.append_nil]
          exact ⟨_, segmented.begun current live⟩
      | cons happening more =>
          obtain ⟨rfl, rfl⟩ := List.cons.inj hmore
          exact absurd (by simp) (silent message)

theorem placed_after {session : Session} (opens : session.Opens) (events : List Event) :
    Placed (session.history events) := by
  have first : Segmented (Refused events) [] session ∧ Placed [] :=
    ⟨.resting (by rw [isRunning, opens.idle.1]) .nil, by simp [Placed]⟩
  refine (history_induction
    (fun past session => Segmented (Refused events) past session ∧ Placed past) events ?_
    opens.attends first).2
  exact fun h move => ⟨h.1.move move, placed_move h.1 h.2 move⟩

/-- Nothing is told of an execution between a closing and the next beginning. -/
theorem silent_since_closed {session : Session} (opens : session.Opens) (events : List Event)
    {before later : List Happening} (h : session.history events = before ++ .closed :: later)
    (none : ∀ block query, Happening.accepted block query ∉ later) (message : Message) :
    Happening.queued .execution message ∉ later := by
  intro hmem
  obtain ⟨first, second, rfl⟩ := List.append_of_mem hmem
  obtain ⟨query, earlier, block, middle, hbefore, since⟩ :=
    placed_after opens events (before ++ .closed :: first) message second (by simp [h])
  rcases append_eq_append_cons hbefore with ⟨more, rfl⟩ | ⟨more, rfl, hmore⟩
  · rw [List.append_assoc] at hbefore
    obtain ⟨_, rfl⟩ := List.cons.inj (List.append_cancel_left hbefore)
    exact (since .closed (by simp)).2.2 rfl
  · cases more with
    | nil => cases hmore
    | cons happening more =>
        obtain ⟨_, rfl⟩ := List.cons.inj hmore
        exact none block query (by simp)

theorem history_close {session : Session} {events : List Event}
    (idle : (session.after events).errand?.isNone)
    (ended : (session.after events).isRunning = false) (now : Int) (later : List Event) :
    session.history (events ++ .command now .close :: later) = session.history events ++
      .closed :: ((session.after events).step (.command now .close)).history later := by
  have closes : (session.after events).happenings (.command now .close) = [.closed] := by
    simp [happenings, commandHappenings, stopHappenings, endHappenings, idle, ended]
  rw [history_append, history, closes]
  rfl

theorem whole_of_ended {happenings : List Happening} {running : Bool}
    {begun : List Happening → Prop} (ended : running = false)
    (h : ∃ earlier rest, Whole refusals earlier ∧ happenings = earlier ++ rest ∧
      if running then begun rest else rest = []) : Whole refusals happenings := by
  obtain ⟨earlier, rest, whole, rfl, now⟩ := h
  rw [ended] at now
  rwa [show rest = [] from now, List.append_nil]

/-- Each block that is accepted has an execution, whose messages come together and are complete
before the next block is read and before the session closes. -/
theorem messages_come_in_segments {session : Session} (opens : session.Opens)
    (events : List Event) :
    let history := session.history events
    let final := session.after events
    final.sent = session.sent ++ history.filterMap Happening.message? ∧
    Answered (history.filter Happening.isRefresh) final.waits? ∧
    (final.isRunning = false → ∀ now, (final.step (.resumed now)).waits? = none) ∧
    (∃ earlier rest, Whole (Refused events) earlier ∧
      history.filter Happening.isCourse = earlier ++ rest ∧
      if final.isRunning then ∃ block query messages later,
        rest = .accepted block query :: messages.map (.queued .execution) ∧
          Segment (Refused events) (messages ++ later)
      else rest = []) ∧
    history.countP Happening.isAccepted =
      history.countP Happening.isEnded + (if final.isRunning then 1 else 0) ∧
    ∀ before later, history = before ++ .closed :: later →
      (∀ block query, .accepted block query ∉ later) →
        ∀ message, .queued .execution message ∉ later := by
  intro history final
  have segmented := segmented_after opens events
  refine ⟨sent_after opens.attends events, answered_after opens events, waits?_resumed, ?_,
    segmented.balanced, fun before later h none => silent_since_closed opens events h none⟩
  cases segmented with
  | resting ended whole =>
      refine ⟨_, [], whole, (List.append_nil _).symm, ?_⟩
      rw [if_neg (by simp [final, ended])]
  | running running earlier block messages current live whole course tells =>
      refine ⟨earlier, _, whole, course, ?_⟩
      rw [if_pos (by simp [final, isRunning_of_current current, live])]
      obtain ⟨later, segment⟩ := tells.begins
      exact ⟨block, _, messages, later, rfl, segment⟩

/-- Calls that are answered as long as nothing is asked of the log service itself. -/
def welcome (c : Call) : c.Answer :=
  Unreachable.answer (m := Id) (fun _ => .ok ()) (fun _ => ()) c

/-- Answers to an execution that may start its query, with the results of a region. -/
def serving (status : QueryStatus) (rows : List Row) (c : Call) : c.Answer :=
  match c with
  | .startQuery .. => .ok "1"
  | .results _ => fun _ => .ok { status, rows, valueRows := [], statistics? := none }
  | c => welcome c

/-- An execution that shows a row, and then has no rows any more when it has run to its end. -/
def emptying : List Event :=
  let running := Event.answered (serving .running [[⟨"@message", "a"⟩]])
  [.command 0 (.refresh "p;r;g;1h\nfields @message"), running, .proceeded, .delivered, running,
    .proceeded, .proceeded, running, .proceeded, .proceeded, .delivered, running, .proceeded,
    .proceeded, .answered (serving .complete []), .proceeded, .proceeded]

/-- An execution runs to its end. -/
def finishing : List Event :=
  emptying ++ [.delivered]

theorem messages_come_in_segments_closed :
    let events := finishing ++ [.command 0 .close, .command 0 (.changeTitle "X")]
    let history := (Session.new 0).history events
    Session.Opens (.new 0) ∧
      (∃ block query first rows last, history.filter Happening.isCourse =
          [.accepted block query, .queued .execution first, .queued .execution rows,
            .queued .execution last, .ended, .closed] ∧
        first.isStarted ∧ rows.isResults ∧ last.isFinished ∧
        Segment (Refused events) [first, rows, last]) ∧
      ∃ before later, history = before ++ .closed :: later ∧ later.length = 2 ∧
        ∀ message, .queued .execution message ∉ later := by
  intro events history
  have idle : ((Session.new 0).after finishing).errand?.isNone = true ∧
      ((Session.new 0).after finishing).isRunning = false := by decide +kernel
  have split := history_close idle.1 idle.2 0 [.command 0 (.changeTitle "X")]
  have finishes : Happening.finishAndClose (history.filter Happening.isCourse) = true := by
    decide +kernel
  have ended : ((Session.new 0).after events).isRunning = false := by decide +kernel
  have renames : ((((Session.new 0).after finishing).step (.command 0 .close)).history
      [.command 0 (.changeTitle "X")]).length = 2 ∧
      ∀ happening ∈ (((Session.new 0).after finishing).step (.command 0 .close)).history
        [.command 0 (.changeTitle "X")], ¬happening.isAccepted := by decide +kernel
  have segments := messages_come_in_segments (.new 0) events
  have whole := whole_of_ended ended segments.2.2.2.1
  have silent := segments.2.2.2.2.2 _ _ split fun block query hmem => renames.2 _ hmem rfl
  obtain ⟨block, query, first, rows, last, told, starts, shows, finished⟩ :=
    Happening.exists_of_finishAndClose finishes
  have executed : Executed (Refused events) ([first, rows, last].map (.queued .execution) ++
      .ended :: [.closed]) := whole.executed_of (told.trans (List.nil_append _).symm)
  exact ⟨.new 0,
    ⟨block, query, first, rows, last, told, starts, shows, finished, executed.segment⟩, _, _,
    split, renames.1, silent⟩

/-- A session that is closed still runs the next query block and tells of its execution. -/
theorem tells_after_closing :
    ∃ events before later message, (Session.new 0).history events = before ++ .closed :: later ∧
      .queued .execution message ∈ later := by
  let closed := (Session.new 0).step (.command 0 .close)
  let events : List Event :=
    [.command 0 (.refresh "p;r;g;1h\nfields @message"), .answered welcome, .proceeded, .delivered]
  have told : (closed.history events).any Happening.isTold = true := by decide +kernel
  obtain ⟨happening, hmem, h⟩ := List.any_eq_true.mp told
  obtain ⟨message, rfl⟩ := Happening.eq_queued_of_isTold h
  exact ⟨.command 0 .close :: events, [], closed.history events, message, rfl, hmem⟩

end Session

end LogQuery
