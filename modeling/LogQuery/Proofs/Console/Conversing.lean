import LogQuery.Console.Program
import LogQuery.Proofs.Console.Sessions
import LogQuery.Proofs.Session.Resting
import Mathlib.Tactic.Choose

namespace LogQuery

namespace Switchboard

variable {board : Switchboard} {number : Nat} {seat : Seat}

/-- Whether all executions wait for somebody else. -/
def Rests (board : Switchboard) : Prop :=
  ∀ (number : Nat) seat, board.seats[number]? = some seat → seat.session.Rests

theorem Rests.same (h : board.Rests) {other : Switchboard} (same : other.SameSessions board) :
    other.Rests := by
  intro number seat there
  obtain ⟨before, hbefore, session, -⟩ := same.exists_seat there
  exact session ▸ h number before hbefore

theorem Rests.settle (h : board.Rests) {outcome : Session × Option Reply}
    (rests : outcome.1.Rests)
    (idle : ∀ copy, outcome.2 = some (.duplicated copy) → copy.running? = none) :
    (board.settle number seat outcome).Rests := by
  obtain ⟨session, reply?⟩ := outcome
  rw [settle_eq]
  intro n after there
  rcases List.mem_append.mp (List.mem_of_getElem? there) with old | new
  · rcases List.mem_or_eq_of_mem_set old with before | rfl
    · obtain ⟨k, here⟩ := List.getElem?_of_mem before
      exact h k after here
    · exact rests
  · obtain ⟨copy, opened, rfl⟩ := Option.map_eq_some_iff.mp (Option.mem_toList.mp new)
    exact Session.rests_of_none (idle copy (bind_copy?_eq_some.mp opened))

theorem Rests.receive (h : board.Rests) (now : Int) (line : String) :
    (board.receive now line).Rests := by
  unfold Switchboard.receive
  split
  · exact h
  · split
    · exact h
    · split
      · exact h
      · next command _ _ seat isOpen =>
          have waiting :
            ({ board with waiting? := some command.session } : Switchboard).Rests := h
          refine waiting.settle ((h _ seat (open?_eq_some.mp isOpen).1).handle command.body) ?_
          intro copy opened
          obtain ⟨query, -, rfl⟩ :=
            Option.map_eq_some_iff.mp (Session.duplicate?_of_handle opened)
          rfl

theorem Rests.set (h : board.Rests) {session : Session} (rests : session.Rests)
    {other : Switchboard} (seats : other.seats = board.seats.set number { seat with session }) :
    other.Rests := by
  intro n after there
  rw [seats] at there
  rcases List.mem_or_eq_of_mem_set (List.mem_of_getElem? there) with before | rfl
  · obtain ⟨k, here⟩ := List.getElem?_of_mem before
    exact h k after here
  · exact rests

theorem Rests.cancel (h : board.Rests) (number : Nat) : (board.cancel number).Rests := by
  unfold Switchboard.cancel
  split
  · exact h
  · next seat isOpen => exact h.set (h _ seat (open?_eq_some.mp isOpen).1).cancel rfl

theorem Rests.release (h : board.Rests) (number : Nat) : (board.release number).Rests := by
  unfold Switchboard.release
  split
  · exact h
  · next seat isOpen => exact h.set (Session.rests_of_none rfl) rfl

theorem foldl_forward_same (board : Switchboard) (numbers : List Nat) :
    (numbers.foldl forward board).SameSessions board := by
  induction numbers generalizing board with
  | nil => rfl
  | cons number numbers ih => exact (ih (board.forward number)).trans (board.forward_same number)

theorem forwardAll_eq (board : Switchboard) : ∃ numbers : List Nat,
    board.forwardAll = numbers.foldl forward board :=
  ⟨_, rfl⟩

theorem settle_set (board : Switchboard) (number : Nat) (seat : Seat) (session : Session)
    (outcome : Session × Option Reply) :
    settle { board with seats := board.seats.set number { seat with session } } number
      { seat with session } outcome = board.settle number seat outcome := by
  obtain ⟨after, reply?⟩ := outcome
  simp only [settle_eq, List.set_set]

theorem mem_waits {wait : Wait} (waits : wait ∈ board.waits) : ∃ (number : Nat) (seat : Seat),
    board.seats[number]? = some seat ∧
      ((∃ running c next, seat.session.running? = some running ∧
        running.task? = some (.call c next) ∧
          wait = ⟨c, fun now reply =>
            board.settle number seat (seat.session.advance now (next reply))⟩) ∨
        ∃ c next, seat.session.errand? = some (.fetch (.call c next)) ∧
          wait = ⟨c, fun _ reply =>
            board.settle number seat (seat.session.fetch (next reply))⟩) := by
  simp only [Switchboard.waits, List.mem_flatMap, List.mem_append, Option.mem_toList] at waits
  obtain ⟨⟨seat, number⟩, hmem, wait⟩ := waits
  refine ⟨number, seat, List.mem_zipIdx_iff_getElem?.mp hmem, wait.imp ?_ ?_⟩
  · intro execution
    simp only [executionWait?] at execution
    split at execution
    · next current => exact ⟨_, _, _, current, rfl, (Option.some.inj execution).symm⟩
    · cases execution
  · intro errand
    simp only [errandWait?] at errand
    split at errand
    · next pending => exact ⟨_, _, pending, (Option.some.inj errand).symm⟩
    · cases errand

end Switchboard

namespace Desk

variable {interval : Nat} {desk : Desk} {number : Nat} {seat : Seat}

/-- Whether a console is on one of its courses, at a time when all executions wait for somebody
else. -/
structure Reached (interval : Nat) (desk : Desk) : Prop where
  course : ∃ occurrences, desk = (start interval).after occurrences
  rests : desk.board.Rests

theorem after_forwarded (desk : Desk) (numbers : List Nat) :
    desk.after (numbers.map .forwarded) =
      { desk with board := numbers.foldl Switchboard.forward desk.board } := by
  induction numbers generalizing desk with
  | nil => rfl
  | cons number numbers ih => exact ih (desk.step (.forwarded number))

theorem after_printed (count : Nat) (left : desk.printed + count ≤ desk.board.written.length) :
    desk.after (List.replicate count .printed) =
      { desk with printed := desk.printed + count } := by
  induction count generalizing desk with
  | zero => rfl
  | succ count ih =>
      have behind : desk.printed < desk.board.written.length := by omega
      have first : desk.step .printed = { desk with printed := desk.printed + 1 } := if_pos behind
      rw [List.replicate_succ, Desk.after, List.foldl_cons, first, ← Desk.after,
        ih (by simpa using by omega)]
      simp only [Nat.add_assoc, Nat.add_comm 1]

theorem after_silent {events : List Session.Event} (there : desk.board.seats[number]? = some seat)
    (silent : ∀ event ∈ events, event.comes ∧ event.ofExecution) :
    desk.after (events.map (.came number)) = { desk with board := { desk.board with
      seats := desk.board.seats.set number
        { seat with session := seat.session.after events } } } := by
  induction events generalizing desk seat with
  | nil =>
      obtain ⟨bound, rfl⟩ := List.getElem?_eq_some_iff.mp there
      have same : desk.board.seats.set number { desk.board.seats[number] with
          session := desk.board.seats[number].session.after [] } = desk.board.seats :=
        List.set_getElem_self bound
      rw [same]
      rfl
  | cons event events ih =>
      obtain ⟨⟨comes, own⟩, silent⟩ := List.forall_mem_cons.mp silent
      have reacts : seat.session.react event = (seat.session.step event, none) := by
        cases event with
        | answered | proceeded | delivered => rfl
        | fetched | resumed => cases own
        | command | cancelled | released => cases comes
      let first : Desk := { desk with board := { desk.board with
        seats := desk.board.seats.set number { seat with session := seat.session.step event } } }
      have step : desk.step (.came number event) = first := by
        simp only [Desk.step, comes, if_true, Switchboard.attend, there, reacts,
          Switchboard.settle, first]
      have here : first.board.seats[number]? =
          some { seat with session := seat.session.step event } :=
        List.getElem?_set_self (List.getElem?_eq_some_iff.mp there).1
      rw [List.map_cons, Desk.after, List.foldl_cons, step, ← Desk.after, ih here silent]
      simp only [first, List.set_set]
      rfl

theorem exists_answers {c : Call} (reply : c.Answer) :
    ∃ answers : (c : Call) → c.Answer, answers c = reply := by
  classical
  exact ⟨fun asked =>
    if same : asked = c then same ▸ reply else Session.welcome asked, dif_pos rfl⟩

theorem exists_after_advance (rests : desk.board.Rests)
    (there : desk.board.seats[number]? = some seat) {running : Running} {c : Call}
    {next : c.Answer → Task Stage} (current : seat.session.running? = some running)
    (task : running.task? = some (.call c next)) (now : Int) (reply : c.Answer) :
    let board := desk.board.settle number seat (seat.session.advance now (next reply))
    board.Rests ∧ ∃ later, desk.after later = { desk with board } := by
  obtain ⟨answers, rfl⟩ := exists_answers reply
  have rested := rests number seat there
  obtain ⟨events, steps, advances⟩ := rested.advance_eq current task now answers
  have silent : ∀ event ∈ .answered answers :: events, event.comes ∧ event.ofExecution := by
    refine List.forall_mem_cons.mpr ⟨⟨rfl, rfl⟩, fun event hmem => ?_⟩
    rcases steps event hmem with rfl | rfl <;> exact ⟨rfl, rfl⟩
  refine ⟨rests.settle (rested.advance now _) fun copy opened => ?_,
    (.answered answers :: events).map (.came number) ++ [.came number (.resumed now)], ?_⟩
  · rw [advances] at opened
    exact (Session.idle_of_duplicated _ _ opened).1
  · let waited : Seat := { seat with session := seat.session.after (.answered answers :: events) }
    let reached : Desk :=
      { desk with board := { desk.board with seats := desk.board.seats.set number waited } }
    have here : reached.board.seats[number]? = some waited :=
      List.getElem?_set_self (List.getElem?_eq_some_iff.mp there).1
    have settles : reached.board.attend number (.resumed now) =
        desk.board.settle number seat (seat.session.advance now (next (answers c))) := by
      simp only [Switchboard.attend, here]
      rw [advances]
      exact Switchboard.settle_set ..
    rw [after_append, after_silent there silent]
    exact (step_came reached number rfl).trans
      (congrArg (fun board => { desk with board }) settles)

theorem exists_after_fetch (rests : desk.board.Rests)
    (there : desk.board.seats[number]? = some seat) {c : Call} {next : c.Answer → Task Message}
    (pending : seat.session.errand? = some (.fetch (.call c next))) (reply : c.Answer) :
    let board := desk.board.settle number seat (seat.session.fetch (next reply))
    board.Rests ∧ ∃ later, desk.after later = { desk with board } := by
  obtain ⟨answers, rfl⟩ := exists_answers reply
  have reacts : seat.session.react (.fetched answers) =
      seat.session.fetch (next (answers c)) := by
    simp only [Session.react, pending]
  refine ⟨rests.settle ((rests number seat there).fetch _) fun copy opened => ?_,
    [.came number (.fetched answers)], ?_⟩
  · rw [← reacts] at opened
    exact (seat.session.idle_of_duplicated _ opened).1
  · rw [Desk.after, List.foldl_cons, List.foldl_nil, step_came desk number rfl]
    simp only [Switchboard.attend, there, reacts]

theorem exists_after_resume (rests : desk.board.Rests) {wait : Switchboard.Wait}
    (waits : wait ∈ desk.board.waits) (now : Int) (reply : wait.call.Answer) :
    (wait.resume now reply).Rests ∧
      ∃ later, desk.after later = { desk with board := wait.resume now reply } := by
  obtain ⟨number, seat, there, execution | errand⟩ := Switchboard.mem_waits waits
  · obtain ⟨running, c, next, current, task, rfl⟩ := execution
    exact exists_after_advance rests there current task now reply
  · obtain ⟨c, next, pending, rfl⟩ := errand
    exact exists_after_fetch rests there pending reply

namespace Reached

theorem start (interval : Nat) : Reached interval (.start interval) := by
  refine ⟨⟨[], rfl⟩, fun number seat there => ?_⟩
  cases number with
  | zero =>
      cases there
      exact Session.rests_of_none rfl
  | succ number => cases there

theorem goes (h : Reached interval desk) {next : Desk} (later : List Occurrence)
    (goes : next = desk.after later) (rests : next.board.Rests) : Reached interval next := by
  obtain ⟨occurrences, reached⟩ := h.course
  exact ⟨⟨occurrences ++ later, by rw [goes, reached, after_append]⟩, rests⟩

theorem orderly (h : Reached interval desk) : ∃ record, Orderly interval record desk := by
  obtain ⟨occurrences, rfl⟩ := h.course
  exact ⟨_, (Orderly.start interval).after occurrences⟩

theorem take (h : Reached interval desk) (reads : desk.reads) (now : Int)
    (read : Except FileFault (Option String)) : Reached interval (desk.take now read) := by
  have step : desk.step (.input now read) = desk.take now read := if_pos reads
  refine h.goes [.input now read] step.symm ?_
  rcases read with fault | _ | line
  · exact h.rests
  · exact h.rests.cancel 0
  · exact h.rests.receive now line

theorem goOn (h : Reached interval desk) : Reached interval desk.goOn := by
  refine h.goes [.wentOn] rfl ?_
  unfold Desk.goOn
  split
  · split
    · exact h.rests
    · exact h.rests.cancel 0
  · split
    · split
      · exact h.rests
      · exact (h.rests.release _).cancel _
    · exact h.rests
  · split
    · exact h.rests
    · exact h.rests
  · exact h.rests
  · exact h.rests

theorem prints (h : Reached interval desk) :
    Reached interval { desk with
      board := desk.board.forwardAll, printed := desk.board.forwardAll.written.length } := by
  obtain ⟨record, orderly⟩ := h.orderly
  obtain ⟨numbers, all⟩ := desk.board.forwardAll_eq
  have forwarded : desk.after (numbers.map .forwarded) =
      { desk with board := desk.board.forwardAll } := by
    rw [after_forwarded, all]
  have bound := (orderly.after (numbers.map .forwarded)).printed
  rw [forwarded] at bound
  let count := desk.board.forwardAll.written.length - desk.printed
  have total : desk.printed + count = desk.board.forwardAll.written.length :=
    Nat.add_sub_cancel' bound
  refine h.goes (numbers.map .forwarded ++ List.replicate count .printed) ?_ ?_
  · rw [after_append, forwarded, after_printed count (Nat.le_of_eq total)]
    exact congrArg
      (fun printed => { desk with board := desk.board.forwardAll, printed }) total.symm
  · have same := desk.board.foldl_forward_same numbers
    rw [← all] at same
    exact h.rests.same same

end Reached

end Desk

namespace Console

/-- Whether all that a program may give is of a kind. -/
def Yields {m : Type → Type} [Monad m] {α : Type} (P : α → Prop) (program : m α) : Prop :=
  ∃ certified : m { a // P a }, Subtype.val <$> certified = program

namespace Yields

variable {m : Type → Type} [Monad m] [LawfulMonad m] {α β : Type} {P : α → Prop} {Q : β → Prop}

theorem anything (program : m α) : Yields (fun _ => True) program :=
  ⟨(fun a => ⟨a, trivial⟩) <$> program, by simp⟩

theorem pure {a : α} (h : P a) : Yields P (Pure.pure a : m α) :=
  ⟨Pure.pure ⟨a, h⟩, by simp⟩

theorem bind {program : m α} {next : α → m β} (first : Yields P program)
    (later : ∀ a, P a → Yields Q (next a)) : Yields Q (program >>= next) := by
  obtain ⟨certified, rfl⟩ := first
  choose continued same using later
  exact ⟨certified >>= fun a => continued a.1 a.2, by simp [same]⟩

theorem imp {R : α → Prop} {program : m α} (h : Yields P program) (weaker : ∀ a, P a → R a) :
    Yields R program := by
  obtain ⟨certified, rfl⟩ := h
  exact ⟨(fun a => ⟨a.1, weaker a.1 a.2⟩) <$> certified, by simp⟩

end Yields

namespace Surroundings

open Desk

variable {m : Type → Type} [Monad m] [LawfulMonad m] (machine : Surroundings m)
  (answer : (c : Call) → m c.Answer) {interval : Nat}

theorem print_reached {desk : Desk} (h : Reached interval desk) :
    Yields (Reached interval) (machine.print desk) :=
  (Yields.anything _).bind fun _ _ => .pure h.prints

theorem settle_reached (fuel : Nat) {desk : Desk} (h : Reached interval desk) :
    Yields (Reached interval) (machine.settle answer fuel desk) := by
  induction fuel generalizing desk with
  | zero => exact .pure h
  | succ fuel ih =>
      refine (print_reached machine h).bind fun desk h => ?_
      cases waits : desk.board.waits with
      | nil => exact .pure h
      | cons wait others =>
          refine (Yields.anything _).bind fun reply _ => ?_
          refine (Yields.anything _).bind fun now _ => ?_
          obtain ⟨rests, later, reached⟩ :=
            exists_after_resume h.rests (waits ▸ List.mem_cons_self) now reply
          exact ih (h.goes later reached.symm rests)

theorem converse_reached (fuel : Nat) {desk : Desk} (h : Reached interval desk) :
    Yields (Reached interval) (machine.converse answer fuel desk) := by
  induction fuel generalizing desk with
  | zero => exact .pure h
  | succ fuel ih =>
      refine (settle_reached machine answer maxCalls h).bind fun desk h => ?_
      cases reads : desk.reads with
      | true =>
          simp only [if_true]
          refine (Yields.anything _).bind fun read _ => ?_
          refine (Yields.anything _).bind fun now _ => ?_
          exact ih (h.take reads now read)
      | false =>
          simp only [Bool.false_eq_true, if_false]
          split
          · exact .pure h
          · exact ih h.goOn

/-- Whatever its surroundings do, the program is on a course of a console when it ends. -/
theorem converse_course (fuel interval : Nat) :
    Yields (fun desk => ∃ occurrences, desk = (Desk.start interval).after occurrences)
      (machine.converse answer fuel (.start interval)) :=
  (converse_reached machine answer fuel (.start interval)).imp fun _ => Reached.course

end Surroundings

end Console

end LogQuery
