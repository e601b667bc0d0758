import LogQuery.Proofs.Console.Deeds

namespace LogQuery

namespace Switchboard

variable {interval : Nat} {record : List Deed} {board : Switchboard} {number : Nat}
    {event : Session.Event}

/-- What holds of the sessions and the lines of output on a console at all times. -/
structure Sound (interval : Nat) (record : List Deed) (board : Switchboard) : Prop where
  numbered : Numbered interval record board
  tells : Tells record board
  busy : Busy board none
  closes : Closes record board
  patient : Patient board

/-- What is done when a line of input comes. -/
def lineDeeds (board : Switchboard) (now : Int) (line : String) : List Deed :=
  if Text.blank line then []
  else match Command.ofLine line with
    | .error fault => [.complained ⟨0, .error s!"Invalid command: {fault.messageAt line.toList}"⟩]
    | .ok command =>
      if (board.open? command.session).isSome then
        board.attendDeeds command.session (.command now command.body)
      else [.complained ⟨command.session, .error s!"No open session {command.session}"⟩]

def openDeeds (board : Switchboard) (number : Nat) (event : Session.Event) : List Deed :=
  if (board.open? number).isSome then board.attendDeeds number event else []

theorem open?_eq_some {seat : Seat} :
    board.open? number = some seat ↔ board.seats[number]? = some seat ∧ seat.isOpen := by
  simp only [open?, Option.filter_eq_some_iff]

section Lines

variable {line : String} {command : Routed Command}

theorem receive_blank (board : Switchboard) (now : Int) (blank : Text.blank line) :
    board.receive now line = board ∧ board.lineDeeds now line = [] :=
  ⟨if_pos blank, if_pos blank⟩

theorem receive_fault (board : Switchboard) (now : Int) (solid : Text.blank line = false)
    {fault : Json.Fault} (told : Command.ofLine line = .error fault) :
    let text := s!"Invalid command: {fault.messageAt line.toList}"
    board.receive now line = board.complain 0 text ∧
      board.lineDeeds now line = [.complained ⟨0, .error text⟩] := by
  constructor
  · simp only [receive, solid, told, Bool.false_eq_true, if_false]
  · simp only [lineDeeds, solid, told, Bool.false_eq_true, if_false]

theorem receive_closed (now : Int) (solid : Text.blank line = false)
    (told : Command.ofLine line = .ok command) (closed : board.open? command.session = none) :
    let text := s!"No open session {command.session}"
    board.receive now line = board.complain command.session text ∧
      board.lineDeeds now line = [.complained ⟨command.session, .error text⟩] := by
  constructor
  · simp only [receive, solid, told, closed, Bool.false_eq_true, if_false]
  · simp only [lineDeeds, solid, told, closed, Option.isSome_none, Bool.false_eq_true, if_false]

theorem receive_open (now : Int) (solid : Text.blank line = false)
    (told : Command.ofLine line = .ok command) {seat : Seat}
    (isOpen : board.open? command.session = some seat) (free : seat.session.errand? = none) :
    board.receive now line =
      { board with waiting? := some command.session }.attend command.session
        (.command now command.body) ∧
      board.lineDeeds now line =
        board.attendDeeds command.session (.command now command.body) := by
  have there := (open?_eq_some.mp isOpen).1
  constructor
  · simp only [receive, attend, solid, told, isOpen, there, Session.react, free,
      Bool.false_eq_true, if_false, Option.isNone_none, if_true]
  · simp only [lineDeeds, solid, told, isOpen, Option.isSome_some, Bool.false_eq_true,
      if_false, if_true]

end Lines

theorem length_written_receive (board : Switchboard) (now : Int) (line : String) :
    board.written.length ≤ (board.receive now line).written.length := by
  have complains (number : Nat) (text : String) :
      board.written.length ≤ (board.complain number text).written.length := by
    rw [Switchboard.complain, List.length_append]
    exact Nat.le_add_right _ _
  unfold Switchboard.receive
  split
  · exact Nat.le_refl _
  · split
    · exact complains _ _
    · split
      · exact complains _ _
      · rw [settle_eq]

theorem endsInput_lineDeeds {now : Int} {line : String} {deed : Deed}
    (h : deed ∈ board.lineDeeds now line) : deed.endsInput = false := by
  unfold lineDeeds at h
  split at h
  · cases h
  · split at h
    · rw [List.mem_singleton.mp h]
      rfl
    · split at h
      · exact endsInput_attendDeeds h
      · rw [List.mem_singleton.mp h]
        rfl

theorem cancel_eq (board : Switchboard) (number : Nat) : board.cancel number =
    if (board.open? number).isSome then board.attend number .cancelled else board := by
  unfold Switchboard.cancel
  cases here : board.open? number with
  | none => rfl
  | some seat =>
      simp only [attend, (open?_eq_some.mp here).1]
      rfl

theorem release_eq (ended : ∀ seat, board.seats[number]? = some seat →
    seat.session.isRunning = false) :
    board.release number =
      if (board.open? number).isSome then board.attend number .released else board := by
  unfold Switchboard.release
  cases here : board.open? number with
  | none => rfl
  | some seat =>
      have there := (open?_eq_some.mp here).1
      simp only [attend, there, Session.react, Session.step, ended seat there]
      rfl

theorem ended_release (ended : ∀ seat, board.seats[number]? = some seat →
    seat.session.isRunning = false)
    {seat : Seat} (there : (board.release number).seats[number]? = some seat) :
    seat.session.isRunning = false := by
  unfold Switchboard.release at there
  split at there
  · exact ended seat there
  · next before here =>
      have bound := (List.getElem?_eq_some_iff.mp (open?_eq_some.mp here).1).1
      rw [List.getElem?_set_self bound] at there
      cases there
      rfl

/-- Whether the sessions are the same, whatever is forwarded of them. -/
def SameSessions (board other : Switchboard) : Prop :=
  board.seats.map (fun seat => (seat.session, seat.isOpen)) =
    other.seats.map fun seat => (seat.session, seat.isOpen)

theorem SameSessions.symm {other : Switchboard} (same : board.SameSessions other) :
    other.SameSessions board :=
  Eq.symm same

theorem SameSessions.exists_seat {other : Switchboard} (same : board.SameSessions other)
    {seat : Seat} (there : board.seats[number]? = some seat) :
    ∃ before, other.seats[number]? = some before ∧ before.session = seat.session ∧
      before.isOpen = seat.isOpen := by
  have here := congrArg (·[number]?) same
  simp only [List.getElem?_map, there, Option.map_some] at here
  obtain ⟨before, hbefore, pair⟩ := Option.map_eq_some_iff.mp here.symm
  exact ⟨before, hbefore, Prod.ext_iff.mp pair⟩

theorem mem_append_silent {deeds : List Deed} (silent : ∀ deed ∈ deeds, Deed.isSilent deed)
    {deed : Deed} (told : deed.isSilent = false) : deed ∈ record ++ deeds ↔ deed ∈ record := by
  rw [List.mem_append, or_iff_left]
  intro hmem
  rw [silent deed hmem] at told
  cases told

theorem Numbered.silent (h : Numbered interval record board) {other : Switchboard}
    (same : other.SameSessions board) {deeds : List Deed}
    (silent : ∀ deed ∈ deeds, Deed.isSilent deed) :
    Numbered interval (record ++ deeds) other := by
  have length : other.seats.length =
    board.seats.length := by simpa using congrArg List.length same
  have firsts : firstSessions interval (record ++ deeds) = firstSessions interval record := by
    rw [firstSessions_append, List.filterMap_eq_nil_iff.mpr, List.append_nil]
    intro deed hmem
    have quiet := silent deed hmem
    cases deed <;> first | rfl | cases quiet
  have events (n : Nat) : eventsOf n (record ++ deeds) = eventsOf n record := by
    have none : eventsOf n deeds = [] := by
      refine List.filterMap_eq_nil_iff.mpr fun deed hmem => ?_
      have quiet := silent deed hmem
      cases deed <;> first | rfl | cases quiet
    rw [eventsOf_append, none, List.append_nil]
  constructor
  case count => rw [length, firsts, h.count]
  case opens => rw [firsts]; exact h.opens
  case session =>
    intro n seat there
    obtain ⟨before, hbefore, session, -⟩ := same.exists_seat there
    rw [firsts, events, ← session]
    exact h.session n before hbefore
  case isOpen =>
    intro n seat there
    obtain ⟨before, hbefore, -, isOpen⟩ := same.exists_seat there
    rw [mem_append_silent silent rfl, ← isOpen]
    exact h.isOpen n before hbefore
  case known =>
    intro n event went
    rw [length]
    exact h.known n event ((mem_append_silent silent rfl).mp went)
  case known_closed =>
    intro n closed
    rw [length]
    exact h.known_closed n ((mem_append_silent silent rfl).mp closed)

theorem Busy.same (h : Busy board none) {other : Switchboard} (same : other.SameSessions board)
    (waiting : other.waiting? = board.waiting?) : Busy other none := by
  constructor
  case errand =>
    intro n seat there
    obtain ⟨before, hbefore, session, -⟩ := same.exists_seat there
    rw [waiting, ← session]
    exact h.errand n before hbefore
  case isOpen =>
    intro n waits
    obtain ⟨seat, there, isOpen⟩ := h.isOpen n (waiting ▸ waits)
    obtain ⟨after, hafter, -, same⟩ := same.symm.exists_seat there
    exact ⟨after, hafter, same.trans isOpen⟩

theorem Closes.silent (h : Closes record board) {other : Switchboard}
    (same : other.SameSessions board) {deeds : List Deed}
    (silent : ∀ deed ∈ deeds, Deed.isSilent deed) :
    Closes (record ++ deeds) other := by
  have moves {board other : Switchboard} {n : Nat} (same : other.SameSessions board)
      (pending : ∃ seat, board.seats[n]? = some seat ∧ seat.session.errand? = some .close) :
      ∃ seat, other.seats[n]? = some seat ∧ seat.session.errand? = some .close := by
    obtain ⟨seat, there, pending⟩ := pending
    obtain ⟨after, hafter, session, -⟩ := same.symm.exists_seat there
    exact ⟨after, hafter, session ▸ pending⟩
  intro n
  have went (now : Int) : .went n (.command now .close) ∈ record ++ deeds ↔
      .went n (.command now .close) ∈ record := mem_append_silent silent rfl
  rw [mem_append_silent silent rfl]
  simp only [went, h n]
  exact or_congr_right ⟨moves same, moves same.symm⟩

theorem Patient.same (h : Patient board) {other : Switchboard} (same : other.SameSessions board) :
    Patient other := by
  constructor
  case waits =>
    intro n seat there
    obtain ⟨before, hbefore, session, -⟩ := same.exists_seat there
    exact session ▸ h.waits n before hbefore
  case closed =>
    intro n seat there closed
    obtain ⟨before, hbefore, session, isOpen⟩ := same.exists_seat there
    exact session ▸ h.closed n before hbefore (isOpen.trans closed)

/-- What leaves the sessions as they are leaves all as it is but what is told of it. -/
theorem Sound.silent (h : Sound interval record board) {other : Switchboard}
    (same : other.SameSessions board) (waiting : other.waiting? = board.waiting?)
    {deeds : List Deed} (silent : ∀ deed ∈ deeds, Deed.isSilent deed)
    (tells : Tells (record ++ deeds) other) :
    Sound interval (record ++ deeds) other :=
  ⟨h.numbered.silent same silent, tells, h.busy.same same waiting, h.closes.silent same silent,
    h.patient.same same⟩

theorem messagesOf_append (number : Nat) (earlier later : List Written) :
    messagesOf number (earlier ++ later) = messagesOf number earlier ++ messagesOf number later :=
  List.filterMap_append

theorem forward_eq (board : Switchboard) (number : Nat) : board.forward number = board ∨
    ∃ seat message, board.seats[number]? = some seat ∧
      seat.session.sent[seat.forwarded]? = some message ∧ board.forward number =
        { board with
          seats := board.seats.set number { seat with forwarded := seat.forwarded + 1 }
          written := board.written ++ [.message ⟨number, message⟩] } := by
  unfold Switchboard.forward
  cases board.seats[number]? with
  | none => exact .inl rfl
  | some seat =>
      cases told : seat.session.sent[seat.forwarded]? with
      | none => simp [told]
      | some message => exact .inr ⟨seat, message, rfl, told, by simp [told]⟩

theorem waiting?_forward (board : Switchboard) (number : Nat) :
    (board.forward number).waiting? = board.waiting? := by
  rcases board.forward_eq number with same | ⟨_, _, -, -, forwarded⟩
  · rw [same]
  · rw [forwarded]

theorem length_written_forward (board : Switchboard) (number : Nat) :
    board.written.length ≤ (board.forward number).written.length := by
  rcases board.forward_eq number with same | ⟨_, _, -, -, forwarded⟩
  · rw [same]
  · rw [forwarded, List.length_append]
    exact Nat.le_add_right _ _

theorem forward_same (board : Switchboard) (number : Nat) :
    (board.forward number).SameSessions board := by
  rcases board.forward_eq number with same | ⟨seat, message, there, -, forwarded⟩
  · rw [same]
    rfl
  · obtain ⟨bound, rfl⟩ := List.getElem?_eq_some_iff.mp there
    rw [forwarded, SameSessions, List.map_set]
    refine List.ext_getElem? fun n => ?_
    rw [List.getElem?_set]
    split
    · next same =>
        subst same
        simp [bound]
    · rfl

theorem Tells.forward (h : Tells record board) (number : Nat) :
    Tells record (board.forward number) := by
  rcases board.forward_eq number with same | ⟨seat, message, there, sent, forwarded⟩
  · rwa [same]
  · obtain ⟨more, -⟩ := List.getElem?_eq_some_iff.mp sent
    have line (n : Nat) : messagesOf n [.message ⟨number, message⟩] =
        if number = n then [message] else [] := by
      simp only [messagesOf, List.filterMap_cons, Written.messageOf?]
      split <;> simp_all
    rw [forwarded]
    constructor
    case complaints =>
      rw [List.filterMap_append, h.complaints]
      exact List.append_nil _
    case messages =>
      intro n after hafter
      simp only [messagesOf_append, line]
      rw [List.getElem?_set] at hafter
      split at hafter
      · next same =>
          subst same
          obtain ⟨bound, told⟩ := h.messages number seat there
          rw [if_pos (List.getElem?_eq_some_iff.mp there).1] at hafter
          cases hafter
          refine ⟨more, ?_⟩
          rw [told, List.take_add_one, sent, if_pos rfl]
          rfl
      · next other =>
          rw [if_neg other, List.append_nil]
          exact h.messages n after hafter
    case strange =>
      intro n none
      rw [List.getElem?_eq_none_iff, List.length_set] at none
      have other : number ≠ n := by
        rintro rfl
        exact absurd (List.getElem?_eq_some_iff.mp there).1 (Nat.not_lt.mpr none)
      simp only [messagesOf_append, line]
      rw [if_neg other, List.append_nil]
      exact h.strange n (List.getElem?_eq_none none)

namespace Sound

theorem start (interval : Nat) : Sound interval [] (.start interval) := by
  have alone {n : Nat} {seat : Seat}
    (there : (Switchboard.start interval).seats[n]? = some seat) :
      n = 0 ∧ seat = Seat.opening (.new interval) := by
    cases n with
    | zero => exact ⟨rfl, (Option.some.inj there).symm⟩
    | succ n => cases there
  refine ⟨⟨rfl, ?_, ?_, ?_, by simp, by simp⟩, ⟨rfl, ?_, fun _ _ => rfl⟩,
    ⟨?_, by simp [Switchboard.start]⟩, ?_, ?_⟩
  · exact List.forall_mem_singleton.mpr (.new interval)
  · intro n seat there
    obtain ⟨rfl, rfl⟩ := alone there
    exact ⟨.new interval, rfl, rfl⟩
  · intro n seat there
    obtain ⟨rfl, rfl⟩ := alone there
    simp [Seat.opening]
  · intro n seat there
    obtain ⟨rfl, rfl⟩ := alone there
    exact ⟨Nat.le_refl _, rfl⟩
  · intro n seat there
    obtain ⟨rfl, rfl⟩ := alone there
    simp [Seat.opening, Session.new, Switchboard.start]
  · intro n
    refine iff_of_false (by simp) ?_
    rintro (closed | ⟨seat, there, pending⟩)
    · cases closed
    · obtain ⟨rfl, rfl⟩ := alone there
      cases pending
  · constructor
    all_goals
      intro n seat there
      obtain ⟨rfl, rfl⟩ := alone there
    · exact .of_free rfl
    · exact fun _ => rfl

theorem attend (h : Sound interval record board) (number : Nat) (event : Session.Event)
    (uncommanded : event.isCommand = false) :
    Sound interval (record ++ board.attendDeeds number event) (board.attend number event) where
  numbered := h.numbered.attend number event
  tells := h.tells.attend number event
  busy := h.busy.attend (by rw [uncommanded]; rfl)
  closes := h.closes.attend fun command => by simp [uncommanded] at command
  patient := h.patient.attend h.busy fun command => by simp [uncommanded] at command

theorem free (h : Sound interval record board) (free : board.waiting? = none) {seat : Seat}
    (there : board.seats[number]? = some seat) : seat.session.errand? = none := by
  have errand := h.busy.errand number seat there
  simpa [free] using errand

theorem command (h : Sound interval record board) (free : board.waiting? = none) {seat : Seat}
    (isOpen : board.open? number = some seat) (now : Int) (command : Command) :
    Sound interval (record ++ board.attendDeeds number (.command now command))
      ({ board with waiting? := some number }.attend number (.command now command)) := by
  let waiting : Switchboard := { board with waiting? := some number }
  have same : waiting.SameSessions board := rfl
  have silent := List.forall_mem_nil fun deed => Deed.isSilent deed
  have numbered := h.numbered.silent same silent
  have closes := h.closes.silent same silent
  rw [List.append_nil] at numbered closes
  have tells : Tells record waiting := ⟨h.tells.complaints, h.tells.messages, h.tells.strange⟩
  have busy : Busy waiting (some number) := by
    constructor
    case errand =>
      intro n seat there
      simp [waiting, h.free free there]
    case isOpen =>
      rintro n ⟨⟩
      exact ⟨seat, open?_eq_some.mp isOpen⟩
  exact ⟨numbered.attend number _, tells.attend number _, busy.attend rfl,
    closes.attend fun _ seat there => h.free free there,
    (h.patient.same same).attend busy fun _ => rfl⟩

theorem complain (h : Sound interval record board) (number : Nat) (text : String) :
    Sound interval (record ++ [.complained ⟨number, .error text⟩])
      (board.complain number text) := by
  have silent : ∀ deed ∈ [Deed.complained ⟨number, .error text⟩], deed.isSilent :=
    List.forall_mem_singleton.mpr rfl
  have same : (board.complain number text).SameSessions board := rfl
  refine h.silent same rfl silent ⟨?_, ?_, ?_⟩
  · rw [List.filterMap_append, ← h.tells.complaints]
    exact List.filterMap_append
  · intro n seat there
    rw [Switchboard.complain, messagesOf_append]
    exact (List.append_nil _).symm ▸ h.tells.messages n seat there
  · intro n none
    rw [Switchboard.complain, messagesOf_append]
    exact (List.append_nil _).trans (h.tells.strange n none)

theorem endsInput (h : Sound interval record board) {deed : Deed} (ends : deed.endsInput) :
    Sound interval (record ++ [deed]) board := by
  have silent : ∀ other ∈ [deed], other.isSilent := by
    refine List.forall_mem_singleton.mpr ?_
    cases deed <;> first | rfl | cases ends
  have told : [deed].filterMap Deed.complaint? = [] := by
    cases deed <;> first | rfl | cases ends
  refine h.silent rfl rfl silent ⟨?_, h.tells.messages, h.tells.strange⟩
  rw [List.filterMap_append, h.tells.complaints, told, List.append_nil]

theorem receive (h : Sound interval record board) (free : board.waiting? = none) (now : Int)
    (line : String) :
    Sound interval (record ++ board.lineDeeds now line) (board.receive now line) := by
  cases blank : Text.blank line with
  | true =>
      obtain ⟨received, deeds⟩ := receive_blank board now blank
      rwa [received, deeds, List.append_nil]
  | false =>
      cases told : Command.ofLine line with
      | error fault =>
          obtain ⟨received, deeds⟩ := receive_fault board now blank told
          rw [received, deeds]
          exact h.complain 0 _
      | ok command =>
          cases here : board.open? command.session with
          | none =>
              obtain ⟨received, deeds⟩ := receive_closed now blank told here
              rw [received, deeds]
              exact h.complain _ _
          | some seat =>
              obtain ⟨received, deeds⟩ :=
                receive_open now blank told here (h.free free (open?_eq_some.mp here).1)
              rw [received, deeds]
              exact h.command free here now command.body

theorem forward (h : Sound interval record board) (number : Nat) :
    Sound interval record (board.forward number) := by
  have sound := h.silent (board.forward_same number) (board.waiting?_forward number)
    (List.forall_mem_nil fun deed => Deed.isSilent deed)
  rw [List.append_nil] at sound
  exact sound (h.tells.forward number)

theorem attend_free (h : Sound interval record board) (free : board.waiting? = none)
    (uncommanded : event.isCommand = false) (number : Nat) :
    (board.attend number event).waiting? = none ∧
      ∀ n seat, (board.attend number event).seats[n]? = some seat →
        ∃ before, board.seats[n]? = some before ∧ seat.isOpen = before.isOpen ∧
          seat.forwarded = before.forwarded ∧
          seat.session = if n = number then before.session.step event else before.session := by
  have silent {seat : Seat} (there : board.seats[number]? = some seat) :
      (seat.session.react event).2 = none := by
    by_contra reply
    have waits := h.busy.of_reply (fun command => by simp [uncommanded] at command) there
      (Option.isSome_iff_ne_none.mpr reply)
    cases free.symm.trans waits
  constructor
  · cases here : board.seats[number]? with
    | none => simpa only [Switchboard.attend, here] using free
    | some seat => rw [waiting?_attend here, silent here, free]; rfl
  · intro n seat there
    rcases getElem?_attend board number event there with
      ⟨before, hbefore, rfl⟩ | ⟨rfl, origin, copy, here, reply, rfl⟩
    · refine ⟨before, hbefore, ?_⟩
      by_cases same : n = number
      · subst same
        simp [Seat.attended, silent hbefore, Session.react_step]
      · simp [same]
    · cases (silent here).symm.trans reply

end Sound

theorem SameSessions.anyOpen {other : Switchboard} (same : board.SameSessions other) :
    board.anyOpen = other.anyOpen := by
  have isOpen := congrArg (fun seats => seats.any Prod.snd) same
  simp only [List.any_map] at isOpen
  exact isOpen

theorem anyOpen_eq_false : board.anyOpen = false ↔
    ∀ (number : Nat) seat, board.seats[number]? = some seat → seat.isOpen = false := by
  rw [anyOpen, List.any_eq_false]
  constructor
  · exact fun closed number seat there => by simpa using closed seat (List.mem_of_getElem? there)
  · intro closed seat hmem
    obtain ⟨number, there⟩ := List.getElem?_of_mem hmem
    simpa using closed number seat there

end Switchboard

end LogQuery
