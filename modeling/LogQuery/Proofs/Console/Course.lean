import LogQuery.Proofs.Console.Lines

/-!
The course of a console. Lines of input, executions, the forwarding of messages and the printing
of output come in any order; an `Occurrence` is whatever happens next, and the record lists what
has been done on the console so far.
-/

namespace LogQuery

/-- What may happen next on a console. An occurrence whose time has not come changes nothing. -/
inductive Occurrence where
  /-- The next line of input comes, or its end, or it cannot be read. -/
  | input (now : Int) (read : Except FileFault (Option String))
  /-- The console goes on with what comes after the input. -/
  | wentOn
  /-- An event comes for a session by itself. -/
  | came (number : Nat) (event : Session.Event)
  /-- A message of a session gets from there to the output. -/
  | forwarded (number : Nat)
  | printed

abbrev Occurrence.line (now : Int) (text : String) : Occurrence :=
  .input now (.ok (some text))

/-- Whether the session with a number has been stopped after the input. -/
def Mode.hasStopped (number : Nat) : Mode → Bool
  | reading | broken _ => false
  | stopping next => number < next
  | draining | left => true

namespace Desk

def step (desk : Desk) : Occurrence → Desk
  | .input now read => if desk.reads then desk.take now read else desk
  | .wentOn => desk.goOn
  | .came number event =>
    if event.comes then { desk with board := desk.board.attend number event } else desk
  | .forwarded number => { desk with board := desk.board.forward number }
  | .printed =>
    if desk.printed < desk.board.written.length then
      { desk with printed := desk.printed + 1 }
    else desk

/-- What is done when the console goes on. -/
def goOnDeeds (desk : Desk) : List Deed :=
  match desk.mode with
  | .reading => if desk.board.anyOpen then [] else desk.board.openDeeds 0 .cancelled
  | .stopping number =>
    match desk.board.seats[number]? with
    | some seat =>
      if seat.session.isRunning then []
      else desk.board.openDeeds number .released ++
        (desk.board.release number).openDeeds (number + 1) .cancelled
    | none => []
  | .draining | .left | .broken _ => []

def deeds (desk : Desk) : Occurrence → List Deed
  | .input now (.ok (some line)) => if desk.reads then desk.board.lineDeeds now line else []
  | .input _ (.ok none) =>
    if desk.reads then .exhausted :: desk.board.openDeeds 0 .cancelled else []
  | .input _ (.error fault) => if desk.reads then [.broke fault] else []
  | .wentOn => desk.goOnDeeds
  | .came number event => if event.comes then desk.board.attendDeeds number event else []
  | .forwarded _ | .printed => []

def after (desk : Desk) (occurrences : List Occurrence) : Desk :=
  occurrences.foldl step desk

def record : (desk : Desk) → List Occurrence → List Deed
  | _, [] => []
  | desk, occurrence :: occurrences =>
    desk.deeds occurrence ++ (desk.step occurrence).record occurrences

theorem after_append (desk : Desk) (earlier later : List Occurrence) :
    desk.after (earlier ++ later) = (desk.after earlier).after later :=
  List.foldl_append

theorem step_came (desk : Desk) (number : Nat) {event : Session.Event} (comes : event.comes) :
    desk.step (.came number event) = { desk with board := desk.board.attend number event } :=
  if_pos comes

/-- How a console comes to its end. -/
structure Orderly (interval : Nat) (record : List Deed) (desk : Desk) : Prop where
  sound : desk.board.Sound interval record
  printed : desk.printed ≤ desk.board.written.length
  past (deed : Deed) (done : deed ∈ record) (ends : deed.endsInput) : desk.mode ≠ .reading
  ended : desk.mode ≠ .reading →
    (∃ deed ∈ record, deed.endsInput) ∨ desk.board.anyOpen = false
  broke (fault : FileFault) : .broke fault ∈ record ↔ desk.mode = .broken fault
  free : desk.mode ≠ .reading → desk.board.waiting? = none
  stopped (number : Nat) (seat : Seat) (there : desk.board.seats[number]? = some seat)
    (hasStopped : desk.mode.hasStopped number) : seat.session.isRunning = false
  left : desk.mode = .left → desk.board.written.length ≤ desk.printed ∧
    ∀ seat ∈ desk.board.seats, seat.session.sent.length ≤ seat.forwarded

namespace Orderly

open Switchboard

variable {interval : Nat} {record : List Deed} {desk : Desk} {number : Nat}
    {event : Session.Event}

theorem start (interval : Nat) : Orderly interval [] (.start interval) where
  sound := .start interval
  printed := Nat.le_refl _
  past := fun deed done => by cases done
  ended := fun past => absurd rfl past
  broke := fun fault => iff_of_false List.not_mem_nil Mode.noConfusion
  free := fun past => absurd rfl past
  stopped := fun number seat there hasStopped => by cases hasStopped
  left := fun left => by cases left

theorem attend (h : Orderly interval record desk) (uncommanded : event.isCommand = false)
    (comes : desk.mode = .left → event.comes) :
    Orderly interval (record ++ desk.board.attendDeeds number event)
      { desk with board := desk.board.attend number event } := by
  have quiet (past : desk.mode ≠ .reading) :=
    h.sound.attend_free (h.free past) uncommanded number
  have before {deed : Deed} (done : deed ∈ record ++ desk.board.attendDeeds number event)
      (ends : deed.endsInput) : deed ∈ record :=
    (List.mem_append.mp done).resolve_right fun new =>
      Bool.noConfusion ((endsInput_attendDeeds new).symm.trans ends)
  constructor
  case sound => exact h.sound.attend number event uncommanded
  case printed => rw [written_attend]; exact h.printed
  case past => exact fun deed done ends => h.past deed (before done ends) ends
  case broke =>
    intro fault
    rw [← h.broke]
    exact ⟨fun done => before done rfl, List.mem_append_left _⟩
  case ended =>
    intro past
    rcases h.ended past with ⟨deed, done, ends⟩ | closed
    · exact .inl ⟨deed, List.mem_append_left _ done, ends⟩
    · right
      rw [anyOpen_eq_false] at closed ⊢
      intro n seat there
      obtain ⟨before, hbefore, isOpen, -⟩ := (quiet past).2 n seat there
      rw [isOpen, closed n before hbefore]
  case free => exact fun past => (quiet past).1
  case stopped =>
    intro n seat there hasStopped
    have past : desk.mode ≠ .reading := by
      intro reading
      rw [reading] at hasStopped
      cases hasStopped
    obtain ⟨before, hbefore, -, -, session⟩ := (quiet past).2 n seat there
    have ended := h.stopped n before hbefore hasStopped
    rw [session]
    split
    · exact before.session.ended_step event ended (h.sound.free (h.free past) hbefore) uncommanded
    · exact ended
  case left =>
    intro left
    have past : desk.mode ≠ .reading := fun reading => by cases reading.symm.trans left
    rw [written_attend]
    refine ⟨(h.left left).1, fun seat hmem => ?_⟩
    obtain ⟨n, there⟩ := List.getElem?_of_mem hmem
    obtain ⟨before, hbefore, -, forwarded, session⟩ := (quiet past).2 n seat there
    have ended := h.stopped n before hbefore (by rw [left]; rfl)
    have idle := before.session.react_of_idle event ended (h.sound.free (h.free past) hbefore)
      (comes left)
    rw [session, forwarded, ← before.session.react_step event, idle, ite_self]
    exact (h.left left).2 before (List.mem_of_getElem? hbefore)

theorem cancel (h : Orderly interval record desk) (running : desk.mode ≠ .left) (number : Nat) :
    Orderly interval (record ++ desk.board.openDeeds number .cancelled)
      { desk with board := desk.board.cancel number } := by
  rw [cancel_eq, openDeeds]
  split
  · exact h.attend rfl fun left => absurd left running
  · rwa [List.append_nil]

theorem release (h : Orderly interval record desk) (running : desk.mode ≠ .left)
    (ended : ∀ seat, desk.board.seats[number]? = some seat → seat.session.isRunning = false) :
    Orderly interval (record ++ desk.board.openDeeds number .released)
      { desk with board := desk.board.release number } := by
  rw [release_eq ended, openDeeds]
  split
  · exact h.attend rfl fun left => absurd left running
  · rwa [List.append_nil]

theorem unbroken (h : Orderly interval record desk) (reading : desk.mode = .reading)
    (fault : FileFault) : .broke fault ∉ record := by
  rw [h.broke, reading]
  exact Mode.noConfusion

/-- Behind the input nothing but the mode tells how far the console has come. -/
theorem goes (h : Orderly interval record desk) (past : desk.mode ≠ .reading) {mode : Mode}
    (later : mode ≠ .reading) (whole : ∀ fault, desk.mode ≠ .broken fault)
    (still : ∀ fault, mode ≠ .broken fault)
    (stopped : ∀ (number : Nat) seat, desk.board.seats[number]? = some seat →
      mode.hasStopped number → seat.session.isRunning = false)
    (left : mode = .left → desk.board.written.length ≤ desk.printed ∧
      ∀ seat ∈ desk.board.seats, seat.session.sent.length ≤ seat.forwarded) :
    Orderly interval record { desk with mode } where
  sound := h.sound
  printed := h.printed
  past := fun _ _ _ => later
  ended := fun _ => h.ended past
  broke := fun fault => iff_of_false ((h.broke fault).not.mpr (whole fault)) (still fault)
  free := fun _ => h.free past
  stopped := stopped
  left := left

theorem breaks (h : Orderly interval record desk) (reading : desk.mode = .reading)
    (free : desk.board.waiting? = none) (fault : FileFault) :
    Orderly interval (record ++ [.broke fault]) { desk with mode := .broken fault } where
  sound := h.sound.endsInput rfl
  printed := h.printed
  past := fun _ _ _ => by simp
  ended := fun _ => .inl ⟨.broke fault, by simp, rfl⟩
  broke := fun other => by simp [h.unbroken reading, eq_comm]
  free := fun _ => free
  stopped := fun number seat there hasStopped => by cases hasStopped
  left := fun left => by cases left

theorem stop_first (sound : desk.board.Sound interval record)
    (printed : desk.printed ≤ desk.board.written.length) (free : desk.board.waiting? = none)
    (unbroken : ∀ fault, .broke fault ∉ record)
    (ended : (∃ deed ∈ record, deed.endsInput) ∨ desk.board.anyOpen = false) :
    Orderly interval (record ++ desk.board.openDeeds 0 .cancelled) (desk.stop 0) := by
  have stopping : Orderly interval record { desk with mode := .stopping 0 } := by
    constructor
    case sound => exact sound
    case printed => exact printed
    case past => exact fun _ _ _ => by simp
    case ended => exact fun _ => ended
    case broke => exact fun fault => iff_of_false (unbroken fault) (by simp)
    case free => exact fun _ => free
    case stopped =>
      intro number seat there hasStopped
      exact absurd (of_decide_eq_true hasStopped : number < 0) (Nat.not_lt_zero number)
    case left => exact fun left => by cases left
  exact stopping.cancel (by simp) 0

theorem stop_next (h : Orderly interval record desk) (number : Nat)
    (stopping : desk.mode = .stopping number)
    (ended : ∀ seat, desk.board.seats[number]? = some seat → seat.session.isRunning = false) :
    Orderly interval (record ++ (desk.board.openDeeds number .released ++
        (desk.board.release number).openDeeds (number + 1) .cancelled))
      ({ desk with board := desk.board.release number }.stop (number + 1)) := by
  have released := h.release (by simp [stopping]) ended
  have past : desk.mode ≠ .reading := by simp [stopping]
  have next : Orderly interval (record ++ desk.board.openDeeds number .released)
      { desk with board := desk.board.release number, mode := .stopping (number + 1) } := by
    refine released.goes past (by simp) (by simp [stopping]) (by simp) ?_
      fun left => by cases left
    intro n seat there hasStopped
    have before : n < number + 1 := of_decide_eq_true hasStopped
    rcases Nat.lt_succ_iff_lt_or_eq.mp before with earlier | rfl
    · refine released.stopped n seat there ?_
      rw [stopping]
      exact decide_eq_true earlier
    · exact ended_release ended there
  rw [← List.append_assoc]
  exact next.cancel (by simp) (number + 1)

theorem goOn (h : Orderly interval record desk) :
    Orderly interval (record ++ desk.goOnDeeds) desk.goOn := by
  unfold Desk.goOn goOnDeeds
  cases mode : desk.mode with
  | reading =>
      cases anyOpen : desk.board.anyOpen with
      | true => simpa using h
      | false =>
          refine stop_first h.sound h.printed ?_ (h.unbroken mode) (.inr anyOpen)
          cases waits : desk.board.waiting? with
          | none => rfl
          | some number =>
              obtain ⟨seat, there, isOpen⟩ := h.sound.busy.isOpen number waits
              rw [anyOpen_eq_false.mp anyOpen number seat there] at isOpen
              cases isOpen
  | stopping number =>
      cases there : desk.board.seats[number]? with
      | none =>
          have past : desk.mode ≠ .reading := by simp [mode]
          simp only [List.append_nil, there]
          refine h.goes past (by simp) (by simp [mode]) (by simp) ?_ fun left => by cases left
          intro n seat hseat _
          refine h.stopped n seat hseat ?_
          rw [mode]
          refine decide_eq_true (Nat.lt_of_lt_of_le (List.getElem?_eq_some_iff.mp hseat).1 ?_)
          exact List.getElem?_eq_none_iff.mp there
      | some seat =>
          cases ended : seat.session.isRunning with
          | true => simpa [there, ended] using h
          | false =>
              simp only [there, ended, Bool.false_eq_true, if_false]
              refine h.stop_next number mode fun other here => ?_
              cases there.symm.trans here
              exact ended
  | draining =>
      simp only [List.append_nil]
      split
      · next done =>
          obtain ⟨forwarded, printed⟩ := (Bool.and_eq_true _ _).mp done
          have past : desk.mode ≠ .reading := by simp [mode]
          refine h.goes past (by simp) (by simp [mode]) (by simp) ?_
            fun _ => ⟨of_decide_eq_true printed, ?_⟩
          · intro n seat there _
            exact h.stopped n seat there (by rw [mode]; rfl)
          · intro seat hmem
            exact of_decide_eq_true (List.all_eq_true.mp forwarded seat hmem)
      · exact h
  | left | broken => simpa using h

theorem input (h : Orderly interval record desk) (reads : desk.reads) (now : Int)
    (read : Except FileFault (Option String)) :
    Orderly interval (record ++ desk.deeds (.input now read)) (desk.take now read) := by
  obtain ⟨mode, reads'⟩ := (Bool.and_eq_true _ _).mp reads
  have free : desk.board.waiting? = none := by simpa using ((Bool.and_eq_true _ _).mp reads').2
  have reading : desk.mode = .reading := beq_iff_eq.mp mode
  rcases read with fault | _ | line
  · have deeds : desk.deeds (.input now (.error fault)) = [.broke fault] := if_pos reads
    rw [deeds]
    exact h.breaks reading free fault
  · have deeds : desk.deeds (.input now (.ok none)) =
        [.exhausted] ++ desk.board.openDeeds 0 .cancelled := if_pos reads
    rw [deeds, ← List.append_assoc]
    refine stop_first (h.sound.endsInput rfl) h.printed free (fun fault => ?_)
      (.inl ⟨.exhausted, by simp, rfl⟩)
    simpa using h.unbroken reading fault
  · have deeds : desk.deeds (.input now (.ok (some line))) = desk.board.lineDeeds now line :=
      if_pos reads
    have before {deed : Deed} (done : deed ∈ record ++ desk.board.lineDeeds now line)
        (ends : deed.endsInput) : deed ∈ record :=
      (List.mem_append.mp done).resolve_right fun new =>
        Bool.noConfusion ((endsInput_lineDeeds new).symm.trans ends)
    rw [deeds]
    constructor
    case sound => exact h.sound.receive free now line
    case printed => exact Nat.le_trans h.printed (desk.board.length_written_receive now line)
    case past => exact fun deed done ends => h.past deed (before done ends) ends
    case broke =>
      intro fault
      rw [Desk.take, ← h.broke]
      exact ⟨fun done => before done rfl, List.mem_append_left _⟩
    case ended => exact fun past => absurd reading past
    case free => exact fun past => absurd reading past
    case stopped =>
      intro n seat there hasStopped
      rw [Desk.take, reading] at hasStopped
      cases hasStopped
    case left =>
      intro left
      cases reading.symm.trans left

theorem forwarded (h : Orderly interval record desk) (number : Nat) :
    Orderly interval record { desk with board := desk.board.forward number } := by
  have same := desk.board.forward_same number
  constructor
  case sound => exact h.sound.forward number
  case printed => exact Nat.le_trans h.printed (desk.board.length_written_forward number)
  case past => exact h.past
  case broke => exact h.broke
  case ended =>
    rw [same.anyOpen]
    exact h.ended
  case free =>
    rw [waiting?_forward]
    exact h.free
  case stopped =>
    intro n seat there hasStopped
    obtain ⟨before, hbefore, session, -⟩ := same.exists_seat there
    exact session ▸ h.stopped n before hbefore hasStopped
  case left =>
    intro left
    obtain ⟨printed, all⟩ := h.left left
    rcases desk.board.forward_eq number with same | ⟨seat, message, there, sent, -⟩
    · rw [same]
      exact ⟨printed, all⟩
    · have bound := (List.getElem?_eq_some_iff.mp sent).1
      exact absurd bound (Nat.not_lt.mpr (all seat (List.mem_of_getElem? there)))

theorem prints (h : Orderly interval record desk)
    (behind : desk.printed < desk.board.written.length) :
    Orderly interval record { desk with printed := desk.printed + 1 } where
  sound := h.sound
  printed := behind
  past := h.past
  ended := h.ended
  broke := h.broke
  free := h.free
  stopped := h.stopped
  left := fun left => absurd behind (Nat.not_lt.mpr (h.left left).1)

theorem step (h : Orderly interval record desk) (occurrence : Occurrence) :
    Orderly interval (record ++ desk.deeds occurrence) (desk.step occurrence) := by
  cases occurrence with
  | input now read =>
      cases reads : desk.reads with
      | true =>
          simp only [Desk.step, reads, if_true]
          exact h.input reads now read
      | false =>
          obtain fault | _ | line := read <;> simpa [Desk.step, deeds, reads] using h
  | wentOn => exact h.goOn
  | came number event =>
      simp only [Desk.step, deeds]
      split
      · next comes => exact h.attend (event.uncommanded comes) fun _ => comes
      · rwa [List.append_nil]
  | forwarded number =>
      rw [deeds, List.append_nil]
      exact h.forwarded number
  | printed =>
      rw [deeds, List.append_nil]
      simp only [Desk.step]
      split
      · next behind => exact h.prints behind
      · exact h

theorem after (h : Orderly interval record desk) (occurrences : List Occurrence) :
    Orderly interval (record ++ desk.record occurrences) (desk.after occurrences) := by
  induction occurrences generalizing record desk with
  | nil => rwa [Desk.record, List.append_nil]
  | cons occurrence occurrences ih =>
      rw [Desk.record, ← List.append_assoc]
      exact ih (h.step occurrence)

end Orderly

end Desk

end LogQuery
