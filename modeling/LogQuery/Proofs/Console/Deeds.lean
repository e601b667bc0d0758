import LogQuery.Console.Desk
import LogQuery.Proofs.Session.Waiting

namespace LogQuery

/-- What is done on a console. -/
inductive Deed where
  /-- An event comes for the session with a number. -/
  | went (number : Nat) (event : Session.Event)
  /-- A session is opened under the next number. -/
  | opened (copy : Session)
  | closed (number : Nat)
  /-- A line of input is answered by a line of output. -/
  | complained (line : Routed Message)
  /-- The end of the input is reached. -/
  | exhausted
  /-- The input cannot be read. -/
  | broke (fault : FileFault)

namespace Deed

def copy? : Deed → Option Session
  | opened copy => some copy
  | _ => none

def event? (number : Nat) : Deed → Option Session.Event
  | went n event => if n = number then some event else none
  | _ => none

def complaint? : Deed → Option (Routed Message)
  | complained line => some line
  | _ => none

/-- Whether no more of the input is read. -/
def endsInput : Deed → Bool
  | exhausted | broke _ => true
  | _ => false

/-- Neither a complaint nor the end of the input is about a session. -/
def isSilent : Deed → Bool
  | complained _ | exhausted | broke _ => true
  | _ => false

/-- What becomes known of a session by the reply to its command. -/
def replied (number : Nat) : Option Reply → List Deed
  | some (.duplicated copy) => [.opened copy]
  | some .closed => [.closed number]
  | _ => []

end Deed

/-- The sessions as they were opened, by number. -/
def firstSessions (interval : Nat) (record : List Deed) : List Session :=
  .new interval :: record.filterMap Deed.copy?

def eventsOf (number : Nat) (record : List Deed) : List Session.Event :=
  record.filterMap (Deed.event? number)

namespace Written

def complaint? : Written → Option (Routed Message)
  | complaint line => some line
  | _ => none

def messageOf? (number : Nat) : Written → Option Message
  | message line => if line.session = number then some line.body else none
  | _ => none

end Written

def messagesOf (number : Nat) (written : List Written) : List Message :=
  written.filterMap (Written.messageOf? number)

def Seat.attended (seat : Seat) (event : Session.Event) : Seat where
  session := (seat.session.react event).1
  isOpen := seat.isOpen && !(seat.session.react event).2.any Reply.closes
  forwarded := seat.forwarded

def Seat.opening (session : Session) : Seat where
  session := session
  isOpen := true
  forwarded := 0

namespace Switchboard

def attend (board : Switchboard) (number : Nat) (event : Session.Event) : Switchboard :=
  match board.seats[number]? with
  | none => board
  | some seat => board.settle number seat (seat.session.react event)

def attendDeeds (board : Switchboard) (number : Nat) (event : Session.Event) : List Deed :=
  match board.seats[number]? with
  | none => []
  | some seat => .went number event :: Deed.replied number (seat.session.react event).2

theorem settle_eq (board : Switchboard) (number : Nat) (seat : Seat) (session : Session)
    (reply? : Option Reply) : board.settle number seat (session, reply?) =
      { seats := board.seats.set number
            { seat with session, isOpen := seat.isOpen && !reply?.any Reply.closes } ++
          ((reply?.bind Reply.copy?).map Seat.opening).toList
        waiting? := if reply?.isSome then none else board.waiting?
        written := board.written } := by
  cases reply? with
  | none => simp [settle]
  | some reply => cases reply <;> simp [settle, Reply.closes, Reply.copy?, Seat.opening]

/-- Whether the sessions are those that were opened, each after what has come for its number. -/
structure Numbered (interval : Nat) (record : List Deed) (board : Switchboard) : Prop where
  count : board.seats.length = (firstSessions interval record).length
  opens : ∀ first ∈ firstSessions interval record, first.Opens
  session (number : Nat) (seat : Seat) (there : board.seats[number]? = some seat) :
    ∃ first, (firstSessions interval record)[number]? = some first ∧
      seat.session = first.after (eventsOf number record)
  isOpen (number : Nat) (seat : Seat) (there : board.seats[number]? = some seat) :
    seat.isOpen ↔ .closed number ∉ record
  known (number : Nat) (event : Session.Event) (went : .went number event ∈ record) :
    number < board.seats.length
  known_closed (number : Nat) (closed : .closed number ∈ record) : number < board.seats.length

/-- Whether the lines of output are what the sessions have sent, as far as it is forwarded, each
under its number and in order, and the complaints of the record. -/
structure Tells (record : List Deed) (board : Switchboard) : Prop where
  complaints : board.written.filterMap Written.complaint? = record.filterMap Deed.complaint?
  messages (number : Nat) (seat : Seat) (there : board.seats[number]? = some seat) :
    seat.forwarded ≤ seat.session.sent.length ∧
      messagesOf number board.written = seat.session.sent.take seat.forwarded
  strange (number : Nat)
    (none : board.seats[number]? = none) : messagesOf number board.written = []

/-- Whether the session that the console waits for, which is open, is the one that is carrying
out a command, or is to be given one. -/
structure Busy (board : Switchboard) (given? : Option Nat) : Prop where
  errand (number : Nat) (seat : Seat) (there : board.seats[number]? = some seat) :
    (seat.session.errand?.isSome ∨ given? = some number) ↔ board.waiting? = some number
  isOpen (number : Nat) (waits : board.waiting? = some number) :
    ∃ seat, board.seats[number]? = some seat ∧ seat.isOpen

/-- Whether the sessions that were told to close are closed, or will be once their executions
have ended. -/
def Closes (record : List Deed) (board : Switchboard) : Prop :=
  ∀ number, (∃ now, .went number (.command now .close) ∈ record) ↔ .closed number ∈ record ∨
    ∃ seat, board.seats[number]? = some seat ∧ seat.session.errand? = some .close

/-- Whether what sessions wait for may come, and those that are closed have nothing left to do. -/
structure Patient (board : Switchboard) : Prop where
  waits (number : Nat) (seat : Seat)
    (there : board.seats[number]? = some seat) : seat.session.Patient
  closed (number : Nat) (seat : Seat) (there : board.seats[number]? = some seat)
    (closed : seat.isOpen = false) : seat.session.running? = none

variable {interval : Nat} {record : List Deed} {board : Switchboard} {number : Nat}
    {event : Session.Event}

theorem attend_eq {seat : Seat} (there : board.seats[number]? = some seat) :
    board.attend number event =
      { seats := board.seats.set number (seat.attended event) ++
          (((seat.session.react event).2.bind Reply.copy?).map Seat.opening).toList
        waiting? := if (seat.session.react event).2.isSome then none else board.waiting?
        written := board.written } := by
  simp only [attend, there]
  exact settle_eq board number seat _ _

theorem bind_copy?_eq_some {reply? : Option Reply} {copy : Session} :
    reply?.bind Reply.copy? = some copy ↔ reply? = some (.duplicated copy) := by
  cases reply? with
  | none => simp
  | some reply => cases reply <;> simp [Reply.copy?]

theorem getElem?_attend (board : Switchboard) (number : Nat) (event : Session.Event) {n : Nat}
    {seat : Seat} (there : (board.attend number event).seats[n]? = some seat) :
    (∃ before, board.seats[n]? = some before ∧
        seat = if n = number then before.attended event else before) ∨
      n = board.seats.length ∧ ∃ origin copy, board.seats[number]? = some origin ∧
        (origin.session.react event).2 = some (.duplicated copy) ∧ seat = Seat.opening copy := by
  cases here : board.seats[number]? with
  | none =>
      have same : board.attend number event = board := by simp only [attend, here]
      rw [same] at there
      refine .inl ⟨seat, there, (if_neg ?_).symm⟩
      rintro rfl
      cases here.symm.trans there
  | some origin =>
      rw [attend_eq here] at there
      rcases Nat.lt_or_ge n board.seats.length with old | new
      · rw [List.getElem?_append_left (by simpa using old), List.getElem?_set] at there
        left
        split at there
        · next same =>
            subst same
            rw [if_pos old] at there
            exact ⟨origin, here, by simpa using there.symm⟩
        · next other => exact ⟨seat, there, (if_neg (Ne.symm other)).symm⟩
      · rw [List.getElem?_append_right (by simpa using new), List.length_set] at there
        right
        cases copied : (origin.session.react event).2.bind Reply.copy? with
        | none =>
            rw [copied] at there
            cases there
        | some copy =>
            rw [copied] at there
            obtain ⟨bound, rfl⟩ := List.getElem?_eq_some_iff.mp there
            have last : n - board.seats.length < 1 := by simpa using bound
            refine ⟨by omega, origin, copy, rfl, bind_copy?_eq_some.mp copied, ?_⟩
            simp

theorem getElem?_attend_of {n : Nat} {seat : Seat} (there : board.seats[n]? = some seat) :
    (board.attend number event).seats[n]? =
      some (if n = number then seat.attended event else seat) := by
  obtain ⟨bound, -⟩ := List.getElem?_eq_some_iff.mp there
  cases here : board.seats[number]? with
  | none =>
      have same : board.attend number event = board := by simp only [attend, here]
      rw [same, there, if_neg]
      rintro rfl
      cases here.symm.trans there
  | some origin =>
      rw [attend_eq here, List.getElem?_append_left (by simpa using bound), List.getElem?_set]
      by_cases same : n = number
      · subst same
        cases here.symm.trans there
        simp [bound]
      · rw [if_neg (Ne.symm same), if_neg same, there]

theorem waiting?_attend {seat : Seat} (there : board.seats[number]? = some seat) :
    (board.attend number event).waiting? =
      if (seat.session.react event).2.isSome then none else board.waiting? := by
  rw [attend_eq there]

theorem written_attend (board : Switchboard) (number : Nat) (event : Session.Event) :
    (board.attend number event).written = board.written := by
  cases here : board.seats[number]? with
  | none => simp only [attend, here]
  | some seat => rw [attend_eq here]

theorem length_attend (board : Switchboard) (number : Nat) (event : Session.Event) :
    (board.attend number event).seats.length =
      board.seats.length + ((board.attendDeeds number event).filterMap Deed.copy?).length := by
  cases here : board.seats[number]? with
  | none => simp [attend, attendDeeds, here]
  | some origin =>
      rw [attend_eq here]
      simp only [attendDeeds, here, List.length_append, List.length_set]
      cases (origin.session.react event).2 with
      | none => rfl
      | some reply => cases reply <;> rfl

theorem firstSessions_append (interval : Nat) (record deeds : List Deed) :
    firstSessions interval (record ++ deeds) =
      firstSessions interval record ++ deeds.filterMap Deed.copy? := by
  rw [firstSessions, List.filterMap_append, ← List.cons_append, ← firstSessions]

theorem eventsOf_append (number : Nat) (record deeds : List Deed) :
    eventsOf number (record ++ deeds) = eventsOf number record ++ eventsOf number deeds :=
  List.filterMap_append

theorem mem_attendDeeds {deed : Deed} (h : deed ∈ board.attendDeeds number event) :
    ∃ seat, board.seats[number]? = some seat ∧
      (deed = .went number event ∨ deed ∈ Deed.replied number (seat.session.react event).2) := by
  unfold attendDeeds at h
  split at h
  · cases h
  · next seat there => exact ⟨seat, there, List.mem_cons.mp h⟩

theorem endsInput_attendDeeds {deed : Deed} (h : deed ∈ board.attendDeeds number event) :
    deed.endsInput = false := by
  obtain ⟨seat, there, rfl | replied⟩ := mem_attendDeeds h
  · rfl
  · unfold Deed.replied at replied
    split at replied
    · rw [List.mem_singleton.mp replied]
      rfl
    · rw [List.mem_singleton.mp replied]
      rfl
    · cases replied

theorem went_attendDeeds {n : Nat} {event' : Session.Event} :
    .went n event' ∈ board.attendDeeds number event ↔
      n = number ∧ event' = event ∧ number < board.seats.length := by
  cases here : board.seats[number]? with
  | none => simpa [attendDeeds, here] using fun _ _ => List.getElem?_eq_none_iff.mp here
  | some seat =>
      obtain ⟨bound, -⟩ := List.getElem?_eq_some_iff.mp here
      simp only [attendDeeds, here, bound, List.mem_cons, Deed.went.injEq, and_true]
      cases (seat.session.react event).2 with
      | none => simp [Deed.replied]
      | some reply => cases reply <;> simp [Deed.replied]

theorem eventsOf_attendDeeds_other {n : Nat} (other : n ≠ number) :
    eventsOf n (board.attendDeeds number event) = [] := by
  refine List.filterMap_eq_nil_iff.mpr fun deed hmem => ?_
  cases deed with
  | went number' event' =>
      obtain ⟨rfl, -⟩ := went_attendDeeds.mp hmem
      exact if_neg (Ne.symm other)
  | _ => rfl

theorem eventsOf_attendDeeds {seat : Seat} (there : board.seats[number]? = some seat) :
    eventsOf number (board.attendDeeds number event) = [event] := by
  simp only [eventsOf, attendDeeds, there, List.filterMap_cons, Deed.event?, if_true]
  cases (seat.session.react event).2 with
  | none => rfl
  | some reply => cases reply <;> rfl

theorem closed_attendDeeds {n : Nat} : .closed n ∈ board.attendDeeds number event ↔
    n = number ∧ ∃ seat, board.seats[number]? = some seat ∧
      (seat.session.react event).2.any Reply.closes := by
  cases here : board.seats[number]? with
  | none => simp [attendDeeds, here]
  | some seat =>
      simp only [attendDeeds, here, List.mem_cons, reduceCtorEq, false_or, Option.some.injEq,
        exists_eq_left']
      cases (seat.session.react event).2 with
      | none => simp [Deed.replied]
      | some reply => cases reply <;> simp [Deed.replied, Reply.closes]

theorem opened_attendDeeds {copy : Session} : .opened copy ∈ board.attendDeeds number event ↔
    ∃ seat, board.seats[number]? = some seat ∧
    (seat.session.react event).2 = some (.duplicated copy) := by
  cases here : board.seats[number]? with
  | none => simp [attendDeeds, here]
  | some seat =>
      simp only [attendDeeds, here, List.mem_cons, reduceCtorEq, false_or, Option.some.injEq,
        exists_eq_left']
      cases (seat.session.react event).2 with
      | none => simp [Deed.replied]
      | some reply => cases reply <;> simp [Deed.replied, eq_comm]

theorem mem_copies {copy : Session} {deeds : List Deed} :
    copy ∈ deeds.filterMap Deed.copy? ↔ .opened copy ∈ deeds := by
  rw [List.mem_filterMap]
  constructor
  · rintro ⟨deed, hmem, opens⟩
    cases deed with
    | opened => cases opens; exact hmem
    | _ => cases opens
  · exact fun hmem => ⟨_, hmem, rfl⟩

namespace Numbered

theorem eventsOf_eq_nil (h : Numbered interval record board) {number : Nat}
    (beyond : board.seats.length ≤ number) : eventsOf number record = [] := by
  refine List.filterMap_eq_nil_iff.mpr fun deed hmem => ?_
  cases deed with
  | went n event =>
      refine if_neg ?_
      rintro rfl
      exact absurd (h.known n event hmem) (Nat.not_lt.mpr beyond)
  | _ => rfl

theorem attend (h : Numbered interval record board) (number : Nat) (event : Session.Event) :
    Numbered interval (record ++ board.attendDeeds number event) (board.attend number event) := by
  have length := board.length_attend number event
  have grows : board.seats.length ≤ (board.attend number event).seats.length := by omega
  constructor
  case count => rw [length, firstSessions_append, List.length_append, h.count]
  case opens =>
    rw [firstSessions_append]
    refine List.forall_mem_append.mpr ⟨h.opens, fun copy hmem => ?_⟩
    obtain ⟨origin, there, reply⟩ := opened_attendDeeds.mp (mem_copies.mp hmem)
    obtain ⟨first, here, reached⟩ := h.session number origin there
    exact .copy first copy _ (h.opens first (List.mem_of_getElem? here))
      (reached ▸ ((origin.session.react_eq_duplicated event).mp reply).2.2)
  case session =>
    intro n seat there
    rw [firstSessions_append, eventsOf_append]
    rcases getElem?_attend board number event there with
      ⟨before, hbefore, rfl⟩ | ⟨rfl, origin, copy, here, reply, rfl⟩
    · obtain ⟨first, hfirst, reached⟩ := h.session n before hbefore
      obtain ⟨bound, -⟩ := List.getElem?_eq_some_iff.mp hfirst
      refine ⟨first, by rw [List.getElem?_append_left bound, hfirst], ?_⟩
      by_cases same : n = number
      · subst same
        rw [if_pos rfl, eventsOf_attendDeeds hbefore, Session.after_append, ← reached]
        exact before.session.react_step event
      · rw [if_neg same, eventsOf_attendDeeds_other same, List.append_nil, reached]
    · have other : board.seats.length ≠ number := by
        rintro rfl
        cases (List.getElem?_eq_none (Nat.le_refl _)).symm.trans here
      have opened : (board.attendDeeds number event).filterMap Deed.copy? = [copy] := by
        simp only [attendDeeds, here, reply]
        rfl
      refine ⟨copy, ?_, ?_⟩
      · rw [opened, h.count, List.getElem?_concat_length]
      · rw [h.eventsOf_eq_nil (Nat.le_refl _), eventsOf_attendDeeds_other other]
        rfl
  case isOpen =>
    intro n seat there
    rw [List.mem_append, not_or, closed_attendDeeds]
    rcases getElem?_attend board number event there with
      ⟨before, hbefore, rfl⟩ | ⟨rfl, origin, copy, here, reply, rfl⟩
    · rw [← h.isOpen n before hbefore]
      by_cases same : n = number
      · subst same
        simp [Seat.attended, hbefore]
      · simp [same]
    · have other : board.seats.length ≠ number := by
        rintro rfl
        cases (List.getElem?_eq_none (Nat.le_refl _)).symm.trans here
      simp only [Seat.opening, other, false_and, not_false_eq_true, and_true, true_iff]
      exact fun closed => Nat.lt_irrefl _ (h.known_closed _ closed)
  case known =>
    intro n event' went
    rcases List.mem_append.mp went with before | now
    · exact Nat.lt_of_lt_of_le (h.known n event' before) grows
    · obtain ⟨rfl, -, bound⟩ := went_attendDeeds.mp now
      exact Nat.lt_of_lt_of_le bound grows
  case known_closed =>
    intro n closed
    rcases List.mem_append.mp closed with before | now
    · exact Nat.lt_of_lt_of_le (h.known_closed n before) grows
    · obtain ⟨rfl, seat, there, -⟩ := closed_attendDeeds.mp now
      exact Nat.lt_of_lt_of_le (List.getElem?_eq_some_iff.mp there).1 grows

end Numbered

theorem complaints_attendDeeds (board : Switchboard) (number : Nat) (event : Session.Event) :
    (board.attendDeeds number event).filterMap Deed.complaint? = [] := by
  refine List.filterMap_eq_nil_iff.mpr fun deed hmem => ?_
  obtain ⟨seat, there, rfl | replied⟩ := mem_attendDeeds hmem
  · rfl
  · unfold Deed.replied at replied
    split at replied
    · cases List.mem_singleton.mp replied; rfl
    · cases List.mem_singleton.mp replied; rfl
    · cases replied

theorem Tells.attend (h : Tells record board) (number : Nat) (event : Session.Event) :
    Tells (record ++ board.attendDeeds number event) (board.attend number event) := by
  constructor
  case complaints =>
    rw [written_attend, h.complaints, List.filterMap_append, complaints_attendDeeds,
      List.append_nil]
  case messages =>
    intro n seat there
    rw [written_attend]
    rcases getElem?_attend board number event there with
      ⟨before, hbefore, rfl⟩ | ⟨rfl, origin, copy, here, reply, rfl⟩
    · obtain ⟨bound, told⟩ := h.messages n before hbefore
      split
      · obtain ⟨more, sent⟩ := before.session.react_sent event
        simp only [Seat.attended, sent, List.length_append]
        rw [List.take_append_of_le_length bound]
        exact ⟨by omega, told⟩
      · exact ⟨bound, told⟩
    · exact ⟨Nat.zero_le _, h.strange _ (List.getElem?_eq_none (Nat.le_refl _))⟩
  case strange =>
    intro n none
    rw [written_attend]
    refine h.strange n ?_
    have length := board.length_attend number event
    rw [List.getElem?_eq_none_iff] at none ⊢
    omega

theorem Busy.of_reply {given? : Option Nat} (h : Busy board given?)
    (given : event.isCommand → given? = some number) {seat : Seat}
    (there : board.seats[number]? = some seat) (reply : (seat.session.react event).2.isSome) :
    board.waiting? = some number := by
  refine (h.errand number seat there).mp ?_
  exact ((Bool.or_eq_true _ _).mp (seat.session.busy_of_reply event reply)).imp_right given

theorem Busy.attend {given? : Option Nat} (h : Busy board given?)
    (given : given? = if event.isCommand then some number else none) :
    Busy (board.attend number event) none := by
  have commanded {n : Nat} : given? = some n ↔ event.isCommand ∧ n = number := by
    rw [given]
    cases event.isCommand <;> simp [eq_comm]
  constructor
  case errand =>
    intro n seat there
    simp only [reduceCtorEq, or_false]
    rcases getElem?_attend board number event there with
      ⟨before, hbefore, rfl⟩ | ⟨rfl, origin, copy, here, reply, rfl⟩
    · have errand := h.errand n before hbefore
      rw [commanded] at errand
      by_cases same : n = number
      · subst same
        rw [if_pos rfl, waiting?_attend hbefore, Seat.attended, Session.react_errand?]
        cases (before.session.react event).2 with
        | none => simpa using errand
        | some reply => simp
      · simp only [same, and_false, or_false] at errand
        rw [if_neg same, errand]
        cases here : board.seats[number]? with
        | none => simp only [Switchboard.attend, here]
        | some origin =>
            rw [waiting?_attend here]
            cases reply : (origin.session.react event).2 with
            | none => simp
            | some reply =>
                have waits := h.of_reply (fun command => commanded.mpr ⟨command, rfl⟩) here
                  (by rw [reply]; rfl)
                simpa [waits] using Ne.symm same
    · have idle := (origin.session.idle_of_duplicated event reply).2
      rw [waiting?_attend here, reply]
      simp [Seat.opening, idle]
  case isOpen =>
    intro n waits
    cases here : board.seats[number]? with
    | none =>
        simp only [Switchboard.attend, here] at waits ⊢
        exact h.isOpen n waits
    | some origin =>
        rw [waiting?_attend here] at waits
        cases reply : (origin.session.react event).2 with
        | some reply => simp [reply] at waits
        | none =>
            simp only [reply, Option.isSome_none, Bool.false_eq_true, if_false] at waits
            obtain ⟨seat, there, isOpen⟩ := h.isOpen n waits
            refine ⟨_, getElem?_attend_of there, ?_⟩
            split
            · next same =>
                subst same
                cases here.symm.trans there
                simp [Seat.attended, reply, isOpen]
            · exact isOpen

theorem Closes.attend (h : Closes record board)
    (free : event.isCommand → ∀ seat, board.seats[number]? = some seat →
      seat.session.errand? = none) :
    Closes (record ++ board.attendDeeds number event) (board.attend number event) := by
  intro n
  simp only [List.mem_append, went_attendDeeds, closed_attendDeeds, exists_or, h n]
  by_cases same : n = number
  · subst same
    cases there : board.seats[n]? with
    | none =>
        have bound := Nat.not_lt.mpr (List.getElem?_eq_none_iff.mp there)
        simp [attend, bound]
    | some seat =>
        have bound := (List.getElem?_eq_some_iff.mp there).1
        have closes := seat.session.closing_react event fun command => free command seat there
        have reply : (seat.session.react event).2.any Reply.closes ↔
            (seat.session.react event).2 = some .closed := by
          cases (seat.session.react event).2 with
          | none => simp
          | some reply => cases reply <;> simp [Reply.closes]
        rw [getElem?_attend_of there]
        simp only [Session.Closing] at closes
        simp only [bound, reply, Seat.attended, eq_comm (b := event), Option.some.injEq,
          exists_eq_left', if_true, true_and, and_true]
        tauto
  · simp only [same, false_and, exists_const, or_false]
    refine or_congr_right ⟨?_, ?_⟩
    · rintro ⟨seat, there, pending⟩
      refine ⟨seat, ?_, pending⟩
      rw [getElem?_attend_of there, if_neg same]
    · rintro ⟨seat, there, pending⟩
      rcases getElem?_attend board number event there with
        ⟨before, hbefore, rfl⟩ | ⟨rfl, origin, copy, here, reply, rfl⟩
      · exact ⟨before, hbefore, by rwa [if_neg same] at pending⟩
      · cases (origin.session.idle_of_duplicated event reply).2.symm.trans pending

theorem Busy.free_of_closed {given? : Option Nat} (h : Busy board given?) {seat : Seat}
    (there : board.seats[number]? = some seat) (closed : seat.isOpen = false) :
    seat.session.errand? = none ∧ given? ≠ some number := by
  have waits (busy : seat.session.errand?.isSome ∨ given? = some number) : False := by
    obtain ⟨other, here, isOpen⟩ := h.isOpen number ((h.errand number seat there).mp busy)
    cases there.symm.trans here
    cases closed.symm.trans isOpen
  exact ⟨Option.not_isSome_iff_eq_none.mp fun busy => waits (.inl busy), fun given =>
    waits (.inr given)⟩

theorem Patient.attend (h : Patient board) {given? : Option Nat} (busy : Busy board given?)
    (given : event.isCommand → given? = some number) : Patient (board.attend number event) := by
  constructor
  case waits =>
    intro n seat there
    rcases getElem?_attend board number event there with
      ⟨before, hbefore, rfl⟩ | ⟨rfl, origin, copy, here, reply, rfl⟩
    · split
      · rw [Seat.attended, Session.react_step]
        exact (h.waits n before hbefore).step event
      · exact h.waits n before hbefore
    · exact .of_free (origin.session.idle_of_duplicated event reply).2
  case closed =>
    intro n seat there closed
    rcases getElem?_attend board number event there with
      ⟨before, hbefore, rfl⟩ | ⟨rfl, origin, copy, here, reply, rfl⟩
    · split
      · next same =>
          subst same
          cases isOpen : before.isOpen with
          | true =>
              rw [if_pos rfl, Seat.attended, isOpen, Bool.true_and, Bool.not_eq_false'] at closed
              obtain ⟨reply, replied, closes⟩ := (Option.any_eq_true _ _).mp closed
              cases reply with
              | closed => exact before.session.running?_of_closed event replied
              | _ => cases closes
          | false =>
              obtain ⟨free, others⟩ := busy.free_of_closed hbefore isOpen
              have uncommanded : event.isCommand = false :=
                Bool.eq_false_iff.mpr fun command => others (given command)
              rw [Seat.attended, Session.react_step]
              exact before.session.running?_step_free event
                (h.closed n before hbefore isOpen) free uncommanded
      · next other =>
          rw [if_neg other] at closed
          exact h.closed n before hbefore closed
    · exact (origin.session.idle_of_duplicated event reply).1

end Switchboard

end LogQuery
