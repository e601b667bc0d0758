import LogQuery.Console.Surroundings
import LogQuery.Proofs.Console.Ending

namespace LogQuery.Desk

open Switchboard

variable {interval : Nat} {record : List Deed} {desk : Desk} {number : Nat}

/-- Whether a line of input is answered by a line of output, and by that alone. -/
def Complains (desk : Desk) (now : Int) (line : String) (number : Nat) (text : String) : Prop :=
  desk.step (.line now line) = { desk with board := desk.board.complain number text } ∧
    desk.deeds (.line now line) = [.complained ⟨number, .error text⟩]

/-- Whether a line of input is a command that a session handles, and no other one is changed. A
session that is opened by it is put behind the others. -/
def Handles (desk : Desk) (now : Int) (line : String) (number : Nat) (command : Command) : Prop :=
  ∃ seat, desk.board.seats[number]? = some seat ∧ seat.isOpen ∧
    let handled := seat.session.handle now command
    let after : Seat := { seat with session := handled.1, isOpen := !handled.2.any Reply.closes }
    desk.step (.line now line) = { desk with board :=
      { seats := desk.board.seats.set number after ++
        ((handled.2.bind Reply.copy?).map Seat.opening).toList
        waiting? := if handled.2.isSome then none else some number
        written := desk.board.written } } ∧
    desk.deeds (.line now line) = .went number (.command now command) ::
      Deed.replied number handled.2

/-- What becomes of a line of input. -/
structure Answers (record : List Deed) (desk : Desk) (now : Int) (line : String) : Prop where
  blank (blank : Text.blank line) :
    desk.step (.line now line) = desk ∧ desk.deeds (.line now line) = []
  fault (solid : Text.blank line = false) (fault : Json.Fault)
    (told : Command.ofLine line = .error fault) :
    desk.Complains now line 0 s!"Invalid command: {fault.messageAt line.toList}"
  handled (solid : Text.blank line = false) (command : Routed Command)
    (told : Command.ofLine line = .ok command)
    (isOpen : command.session < desk.board.seats.length ∧ .closed command.session ∉ record) :
    desk.Handles now line command.session command.body
  refused (solid : Text.blank line = false) (command : Routed Command)
    (told : Command.ofLine line = .ok command)
    (closed : ¬ (command.session < desk.board.seats.length ∧ .closed command.session ∉ record)) :
    desk.Complains now line command.session s!"No open session {command.session}"

def Duplicates (desk : Desk) (line : String) (copy : Session) : Prop :=
  Text.blank line = false ∧ ∃ number seat, Command.ofLine line = .ok ⟨number, .duplicate⟩ ∧
    desk.board.open? number = some seat ∧ seat.session.duplicate? = some copy

/-- How long the input is read. -/
structure Reading (record : List Deed) (desk : Desk) : Prop where
  reads : desk.reads ↔ (∀ deed ∈ record, deed.endsInput = false) ∧
    (∃ number < desk.board.seats.length, .closed number ∉ record) ∧ desk.board.waiting? = none
  waits (number : Nat) : desk.board.waiting? = some number ↔
    ∃ seat, desk.board.seats[number]? = some seat ∧ seat.session.errand?.isSome
  ignores (unread : desk.reads = false) (now : Int) (read : Except FileFault (Option String)) :
    desk.step (.input now read) = desk ∧ desk.deeds (.input now read) = []
  past (ended : (∃ deed ∈ record, deed.endsInput) ∨
      ∀ number < desk.board.seats.length, .closed number ∈ record)
    (later : List Occurrence) : (desk.after later).reads = false

/-- What becomes of a console whose input cannot be read: it tells no session to stop and answers
nothing. -/
structure Breaks (record : List Deed) (desk : Desk) : Prop where
  breaks (reads : desk.reads) (now : Int) (fault : FileFault) :
    desk.step (.input now (.error fault)) = { desk with mode := .broken fault } ∧
      desk.deeds (.input now (.error fault)) = [.broke fault]
  broken (fault : FileFault) : .broke fault ∈ record ↔ desk.mode = .broken fault
  stays (fault : FileFault) (broken : desk.mode = .broken fault) :
    desk.isOver ∧ desk.step .wentOn = desk ∧ desk.deeds .wentOn = [] ∧
      ∀ later, (desk.after later).mode = .broken fault

theorem Orderly.isOpen_iff (h : Orderly interval record desk) :
    (∃ seat, desk.board.open? number = some seat) ↔
      number < desk.board.seats.length ∧ .closed number ∉ record := by
  simp only [open?_eq_some]
  constructor
  · rintro ⟨seat, there, isOpen⟩
    exact ⟨(List.getElem?_eq_some_iff.mp there).1,
      (h.sound.numbered.isOpen number seat there).mp isOpen⟩
  · rintro ⟨bound, unclosed⟩
    have there : desk.board.seats[number]? = some desk.board.seats[number] :=
      List.getElem?_eq_getElem bound
    exact ⟨_, there, (h.sound.numbered.isOpen number _ there).mpr unclosed⟩

theorem Orderly.anyOpen_iff (h : Orderly interval record desk) : desk.board.anyOpen ↔
    ∃ number < desk.board.seats.length, .closed number ∉ record := by
  rw [← Bool.not_eq_false, anyOpen_eq_false.not]
  simp only [← h.isOpen_iff, open?_eq_some, not_forall, Bool.not_eq_false, exists_prop]

theorem reads_eq_true (reads : desk.reads) :
    desk.mode = .reading ∧ desk.board.waiting? = none := by
  obtain ⟨reading, idle⟩ := (Bool.and_eq_true _ _).mp reads
  exact ⟨beq_iff_eq.mp reading, by simpa using ((Bool.and_eq_true _ _).mp idle).2⟩

theorem Orderly.answers (h : Orderly interval record desk) (reads : desk.reads) (now : Int)
    (line : String) : desk.Answers record now line := by
  have free := (reads_eq_true reads).2
  have reads' : desk.step (.line now line) = { desk with board := desk.board.receive now line } ∧
      desk.deeds (.line now line) = desk.board.lineDeeds now line := ⟨if_pos reads, if_pos reads⟩
  constructor
  case blank =>
    intro blank
    obtain ⟨received, deeds⟩ := receive_blank desk.board now blank
    rw [reads'.1, reads'.2, received, deeds]
    exact ⟨rfl, rfl⟩
  case fault =>
    intro solid fault told
    obtain ⟨received, deeds⟩ := receive_fault desk.board now solid told
    rw [Complains, reads'.1, reads'.2, received, deeds]
    exact ⟨rfl, rfl⟩
  case refused =>
    intro solid command told closed
    have nobody : desk.board.open? command.session = none := by
      rw [← h.isOpen_iff] at closed
      exact Option.eq_none_iff_forall_not_mem.mpr fun seat there => closed ⟨seat, there⟩
    obtain ⟨received, deeds⟩ := receive_closed now solid told nobody
    rw [Complains, reads'.1, reads'.2, received, deeds]
    exact ⟨rfl, rfl⟩
  case handled =>
    intro solid command told isOpen
    obtain ⟨seat, here⟩ := h.isOpen_iff.mpr isOpen
    obtain ⟨there, isOpen⟩ := open?_eq_some.mp here
    have idle := h.sound.free free there
    obtain ⟨received, deeds⟩ := receive_open now solid told here idle
    have reacts : seat.session.react (.command now command.body) =
        seat.session.handle now command.body := by
      simp only [Session.react, idle, Option.isNone_none, if_true]
    let waiting : Switchboard := { desk.board with waiting? := some command.session }
    have there' : waiting.seats[command.session]? = some seat := there
    refine ⟨seat, there, isOpen, ?_, ?_⟩
    · rw [reads'.1, received, attend_eq there', reacts, Seat.attended, reacts, isOpen]
      rfl
    · rw [reads'.2, deeds, attendDeeds, there]
      simp only [reacts]

/-- Whether no more of the input is read. -/
def Spent (desk : Desk) : Prop :=
  desk.mode ≠ .reading ∨ desk.board.anyOpen = false

theorem Spent.reads (spent : desk.Spent) : desk.reads = false := by
  refine Bool.eq_false_iff.mpr fun reads => ?_
  obtain ⟨reading, idle⟩ := (Bool.and_eq_true _ _).mp reads
  rcases spent with past | closed
  · exact past (beq_iff_eq.mp reading)
  · rw [Switchboard.reads, closed] at idle
    cases idle

theorem goOn_mode (spent : desk.Spent) : desk.goOn.mode ≠ .reading := by
  unfold goOn
  cases mode : desk.mode with
  | reading =>
      rw [if_neg (Bool.eq_false_iff.mp (spent.resolve_left fun past => past mode))]
      simp [stop]
  | stopping number =>
      cases there : desk.board.seats[number]? with
      | none => simp only [there, ne_eq, reduceCtorEq, not_false_eq_true]
      | some seat =>
          simp only [there]
          split
          · simp [mode]
          · simp [stop]
  | draining =>
      dsimp only
      split
      · simp
      · simp [mode]
  | left | broken => simp [mode]

theorem anyOpen_attend {event : Session.Event} (closed : desk.board.anyOpen = false)
    (uncommanded : event.isCommand = false) :
    (desk.board.attend number event).anyOpen = false := by
  rw [anyOpen_eq_false] at closed ⊢
  intro n seat there
  rcases getElem?_attend desk.board number event there with
    ⟨before, hbefore, rfl⟩ | ⟨-, origin, copy, here, reply, -⟩
  · split
    · simp only [Seat.attended, closed n before hbefore, Bool.false_and]
    · exact closed n before hbefore
  · obtain ⟨⟨now, rfl⟩, -⟩ := (origin.session.react_eq_duplicated event).mp reply
    cases uncommanded

theorem Spent.step (spent : desk.Spent) (occurrence : Occurrence) :
    (desk.step occurrence).Spent := by
  cases occurrence with
  | input now read =>
      rw [Desk.step, if_neg (Bool.eq_false_iff.mp spent.reads)]
      exact spent
  | wentOn => exact .inl (goOn_mode spent)
  | came number event =>
      simp only [Desk.step]
      split
      · next comes =>
          exact spent.imp_right fun closed => anyOpen_attend closed (event.uncommanded comes)
      · exact spent
  | forwarded number => exact spent.imp_right (desk.board.forward_same number).anyOpen.trans
  | printed =>
      simp only [Desk.step]
      split
      · exact spent
      · exact spent

theorem Spent.after (spent : desk.Spent) (later : List Occurrence) :
    (desk.after later).Spent := by
  induction later generalizing desk with
  | nil => exact spent
  | cons occurrence later ih => exact ih (spent.step occurrence)

theorem Orderly.spent_iff (h : Orderly interval record desk) : desk.Spent ↔
    (∃ deed ∈ record, deed.endsInput) ∨
      ∀ number < desk.board.seats.length, .closed number ∈ record := by
  have closed : desk.board.anyOpen = false ↔
      ∀ number < desk.board.seats.length, .closed number ∈ record := by
    rw [← Bool.not_eq_true, h.anyOpen_iff]
    push Not
    rfl
  rw [← closed]
  constructor
  · rintro (past | closed)
    · exact h.ended past
    · exact .inr closed
  · exact Or.imp_left fun ⟨deed, done, ends⟩ => h.past deed done ends

theorem reads_iff (desk : Desk) : desk.reads ↔ ¬ desk.Spent ∧ desk.board.waiting? = none := by
  simp [reads, Switchboard.reads, Spent, and_assoc]

theorem Orderly.reading (h : Orderly interval record desk) : desk.Reading record where
  reads := by
    rw [reads_iff, h.spent_iff]
    push Not
    simp only [and_assoc, Bool.not_eq_true]
  waits number := by
    constructor
    · intro waits
      obtain ⟨seat, there, -⟩ := h.sound.busy.isOpen number waits
      exact ⟨seat, there, by simpa using (h.sound.busy.errand number seat there).mpr waits⟩
    · rintro ⟨seat, there, busy⟩
      exact (h.sound.busy.errand number seat there).mp (.inl busy)
  ignores unread now read := by
    have unread := Bool.eq_false_iff.mp unread
    refine ⟨if_neg unread, ?_⟩
    obtain fault | _ | line := read <;> exact if_neg unread
  past ended later := ((h.spent_iff.mpr ended).after later).reads

theorem step_broken {fault : FileFault} (broken : desk.mode = .broken fault)
    (occurrence : Occurrence) : (desk.step occurrence).mode = .broken fault := by
  cases occurrence with
  | input now read =>
      have spent : desk.Spent := .inl (by simp [broken])
      rw [Desk.step, if_neg (Bool.eq_false_iff.mp spent.reads), broken]
  | wentOn => simp only [Desk.step, goOn, broken]
  | forwarded number => exact broken
  | came | printed =>
      simp only [Desk.step]
      split
      · exact broken
      · exact broken

theorem after_broken {fault : FileFault} (broken : desk.mode = .broken fault)
    (later : List Occurrence) : (desk.after later).mode = .broken fault := by
  induction later generalizing desk with
  | nil => exact broken
  | cons occurrence later ih => exact ih (step_broken broken occurrence)

theorem Orderly.breaking (h : Orderly interval record desk) : desk.Breaks record where
  breaks reads now fault := ⟨if_pos reads, if_pos reads⟩
  broken := h.broke
  stays fault broken := by
    refine ⟨by simp only [isOver, broken], ?_, ?_, after_broken broken⟩
    · simp only [Desk.step, Desk.goOn, broken]
    · simp only [deeds, goOnDeeds, broken]

theorem Orderly.output_eq (h : Orderly interval record desk) (left : desk.mode = .left) :
    desk.output = desk.board.written :=
  List.take_of_length_le (h.left left).1

theorem Orderly.told (h : Orderly interval record desk) (left : desk.mode = .left) {seat : Seat}
    (there : desk.board.seats[number]? = some seat) :
    seat.session.isRunning = false ∧ seat.session.errand? = none ∧
      messagesOf number desk.output = seat.session.sent := by
  have past : desk.mode ≠ .reading := by simp [left]
  refine ⟨h.stopped number seat there (by rw [left]; rfl), h.sound.free (h.free past) there, ?_⟩
  rw [h.output_eq left, (h.sound.tells.messages number seat there).2]
  exact List.take_of_length_le ((h.left left).2 seat (List.mem_of_getElem? there))

theorem not_opened_openDeeds {board : Switchboard} {event : Session.Event} {copy : Session}
    (uncommanded : event.isCommand = false) : .opened copy ∉ board.openDeeds number event := by
  unfold openDeeds
  split
  · rw [opened_attendDeeds]
    rintro ⟨seat, -, reply⟩
    obtain ⟨⟨now, rfl⟩, -⟩ := (seat.session.react_eq_duplicated event).mp reply
    cases uncommanded
  · exact List.not_mem_nil

theorem Orderly.opened_lineDeeds (h : Orderly interval record desk) (reads : desk.reads)
    (now : Int) (line : String) (copy : Session) :
    .opened copy ∈ desk.board.lineDeeds now line ↔ desk.Duplicates line copy := by
  unfold Duplicates
  cases blank : Text.blank line with
  | true => simp [(receive_blank desk.board now blank).2]
  | false =>
      cases told : Command.ofLine line with
      | error fault => simp [(receive_fault desk.board now blank told).2]
      | ok command =>
          cases here : desk.board.open? command.session with
          | none =>
              rw [(receive_closed now blank told here).2]
              refine iff_of_false (by simp) ?_
              rintro ⟨-, number, seat, same, isOpen, -⟩
              cases same
              cases here.symm.trans isOpen
          | some seat =>
              have there := (open?_eq_some.mp here).1
              have idle := h.sound.free (reads_eq_true reads).2 there
              rw [(receive_open now blank told here idle).2, opened_attendDeeds]
              constructor
              · rintro ⟨other, hother, reply⟩
                cases there.symm.trans hother
                obtain ⟨⟨now', same⟩, -, duplicated⟩ :=
                  (seat.session.react_eq_duplicated _).mp reply
                obtain ⟨number, body⟩ := command
                cases same
                exact ⟨rfl, number, seat, rfl, here, duplicated⟩
              · rintro ⟨-, number, other, same, isOpen, duplicated⟩
                cases same
                cases here.symm.trans isOpen
                refine ⟨seat, there, (seat.session.react_eq_duplicated _).mpr ?_⟩
                exact ⟨⟨now, rfl⟩, idle, duplicated⟩

theorem not_opened_goOnDeeds {copy : Session} : .opened copy ∉ desk.goOnDeeds := by
  unfold goOnDeeds
  split
  · split
    · exact List.not_mem_nil
    · exact not_opened_openDeeds rfl
  · split
    · split
      · exact List.not_mem_nil
      · simp only [List.mem_append, not_or]
        exact ⟨not_opened_openDeeds rfl, not_opened_openDeeds rfl⟩
    · exact List.not_mem_nil
  · exact List.not_mem_nil
  · exact List.not_mem_nil
  · exact List.not_mem_nil

/-- A session is opened by a command to duplicate one, and by nothing else. -/
theorem Orderly.opened_iff (h : Orderly interval record desk) (occurrence : Occurrence)
    (copy : Session) :
    .opened copy ∈ desk.deeds occurrence ↔
      desk.reads ∧ ∃ now line, occurrence = .line now line ∧ desk.Duplicates line copy := by
  cases occurrence with
  | input now read =>
      rcases read with fault | _ | line
      · refine iff_of_false ?_ (by simp)
        simp only [deeds]
        split <;> simp
      · refine iff_of_false ?_ (by simp)
        simp only [deeds]
        split
        · simp only [List.mem_cons, reduceCtorEq, false_or]
          exact not_opened_openDeeds rfl
        · exact List.not_mem_nil
      · cases reads : desk.reads with
        | true => simp [deeds, reads, h.opened_lineDeeds reads]
        | false => simp [deeds, reads]
  | wentOn => exact iff_of_false not_opened_goOnDeeds (by simp)
  | came number event =>
      refine iff_of_false ?_ (by simp)
      simp only [deeds]
      split
      · next comes =>
          rw [opened_attendDeeds]
          rintro ⟨seat, -, reply⟩
          obtain ⟨⟨now, rfl⟩, -⟩ := (seat.session.react_eq_duplicated event).mp reply
          cases comes
      · exact List.not_mem_nil
  | forwarded | printed =>
      exact iff_of_false List.not_mem_nil (by simp)

theorem sessions_keep_apart (interval : Nat) (occurrences : List Occurrence) :
    let desk := (start interval).after occurrences
    let record := (start interval).record occurrences
    Numbered interval record desk.board ∧
      (∀ occurrence copy, .opened copy ∈ desk.deeds occurrence ↔
        desk.reads ∧ ∃ now line, occurrence = .line now line ∧ desk.Duplicates line copy) ∧
      Closes record desk.board ∧
      (desk.reads → ∀ now line, desk.Answers record now line) ∧
      Tells record desk.board ∧
      (desk.mode = .left → desk.output = desk.board.written ∧
        ∀ (number : Nat) seat, desk.board.seats[number]? = some seat →
          seat.session.isRunning = false ∧ seat.session.errand? = none ∧
            messagesOf number desk.output = seat.session.sent) ∧
      desk.Reading record ∧
      desk.Breaks record ∧
      ((∀ fault, .broke fault ∉ record) → ∃ later, (desk.after later).mode = .left) := by
  intro desk record
  have orderly : Orderly interval record desk := (Orderly.start interval).after occurrences
  have stops : desk.Stops := (stops_start interval).after (.start interval) occurrences
  exact ⟨orderly.sound.numbered, orderly.opened_iff, orderly.sound.closes, orderly.answers,
    orderly.sound.tells, fun left => ⟨orderly.output_eq left, fun _ _ => orderly.told left⟩,
    orderly.reading, orderly.breaking, orderly.exists_left stops⟩

def refreshLine : String :=
  "\x7b\"command\":\"refresh\",\"query\":\"p;r;g;1h\\nfields @message\"\x7d"

/-- The input ends while a query is running. -/
def interrupted : List Occurrence :=
  .line 0 refreshLine ::
    (((Session.emptying.drop 1).take 10).map (.came 0) ++ [.input 0 (.ok none)] ++
      [.answered Session.welcome, .proceeded, .proceeded, .delivered].map (.came 0) ++
      [.wentOn, .wentOn] ++ List.replicate 3 (.forwarded 0) ++ List.replicate 3 .printed ++
      [.wentOn])

theorem sessions_keep_apart_interrupted :
    ((start 0).after (interrupted.take 11)).board.seats.map (·.session.sent.length) = [2] ∧
      ((start 0).after interrupted).mode = .left ∧
      ∃ seat, ((start 0).after interrupted).board.seats = [seat] ∧ seat.session.sent.length = 3 ∧
        messagesOf 0 ((start 0).after interrupted).output = seat.session.sent := by
  have before : ((start 0).after (interrupted.take 11)).board.seats.map
      (·.session.sent.length) = [2] := by
    decide +kernel
  have ended : ((start 0).after interrupted).mode = .left ∧
      ((start 0).after interrupted).board.seats.map (·.session.sent.length) =
        [3] := by decide +kernel
  obtain ⟨seat, rest, seats, sent, nobody⟩ := List.map_eq_cons_iff.mp ended.2
  rw [List.map_eq_nil_iff.mp nobody] at seats
  have there : ((start 0).after interrupted).board.seats[0]? = some seat := by rw [seats]; rfl
  obtain ⟨-, -, -, -, -, left, -⟩ := sessions_keep_apart 0 interrupted
  exact ⟨before, ended.1, seat, seats, sent, ((left ended.1).2 0 seat there).2.2⟩

/-- A line whose bytes are no text comes while a query is running. -/
def undecodable : List Occurrence :=
  interrupted.take 11 ++ [.input 0 (Console.lineOf [0xFF, 0x0A])]

def rawLine : String :=
  "\x7b\"command\":\"open_raw\"\x7d"

/-- A command comes behind the one that closes the only session. -/
def belated : List Occurrence :=
  [.line 0 "\x7b\"command\":\"close\"\x7d", .line 0 rawLine]

/-- Bytes that are no text are not answered, and they end the reading while a session is open. No
line is answered once the reading has ended. -/
theorem breaks_off_unanswered :
    let broken := (start 0).after undecodable
    let closed := (start 0).after belated
    broken.mode = .broken .notText ∧ broken.board.anyOpen ∧
      (∀ later, (broken.after later).reads = false) ∧
      broken.board.seats.map (fun seat => (seat.session.isRunning, seat.session.sent.length)) =
        [(true, 2)] ∧
      broken.step .wentOn = broken ∧ broken.board.written.length = 0 ∧ broken.output.length = 0 ∧
      (Command.ofLine rawLine).toOption.any (·.session == 0) ∧
      closed.board.seats.map Seat.isOpen = [false] ∧ closed.board.written.length = 0 := by
  intro broken closed
  have mode : broken.mode = .broken .notText := by decide +kernel
  have orderly : Orderly 0 _ broken := (Orderly.start 0).after undecodable
  have spent : broken.Spent := .inl (by simp [mode])
  refine ⟨mode, ?_, fun later => (spent.after later).reads, ?_,
    (orderly.breaking.stays .notText mode).2.1, ?_⟩
  all_goals decide +kernel

end LogQuery.Desk
