import LogQuery.Proofs.Console.Course

namespace LogQuery

namespace Switchboard

variable {board : Switchboard} {number : Nat} {seat : Seat}

/-- The messages that are still to be written. -/
def unwritten (board : Switchboard) : List Message :=
  board.seats.flatMap fun seat => seat.session.sent.drop seat.forwarded

theorem length_unwritten_forward (there : board.seats[number]? = some seat)
    (more : seat.forwarded < seat.session.sent.length) :
    (board.forward number).unwritten.length + 1 = board.unwritten.length := by
  obtain ⟨bound, rfl⟩ := List.getElem?_eq_some_iff.mp there
  let seat := board.seats[number]
  let rest (seat : Seat) : List Message := seat.session.sent.drop seat.forwarded
  have one : rest seat =
      seat.session.sent[seat.forwarded] :: rest { seat with forwarded := seat.forwarded + 1 } :=
    List.drop_eq_getElem_cons more
  have before : board.unwritten = (board.seats.take number).flatMap rest ++
      (rest seat ++ (board.seats.drop (number + 1)).flatMap rest) := by
    rw [← List.flatMap_cons, ← List.flatMap_append, List.getElem_cons_drop, List.take_append_drop]
    rfl
  have after : (board.forward number).unwritten = (board.seats.take number).flatMap rest ++
      (rest { seat with forwarded := seat.forwarded + 1 } ++
        (board.seats.drop (number + 1)).flatMap rest) := by
    rw [← List.flatMap_cons, ← List.flatMap_append]
    simp [unwritten, forward, bound, more, List.set_eq_take_append_cons_drop, rest, seat]
  rw [before, after, one]
  simp only [List.length_append, List.length_cons]
  omega

theorem exists_unwritten (left : board.allForwarded = false) : ∃ (number : Nat) (seat : Seat),
    board.seats[number]? = some seat ∧ seat.forwarded < seat.session.sent.length := by
  obtain ⟨seat, hmem, behind⟩ : ∃ seat ∈ board.seats, ¬ _ := List.all_eq_false.mp left
  obtain ⟨number, there⟩ := List.getElem?_of_mem hmem
  exact ⟨number, seat, there, Nat.not_le.mp fun done => behind (decide_eq_true done)⟩

theorem length_release (board : Switchboard) (number : Nat) :
    (board.release number).seats.length = board.seats.length := by
  unfold release
  split
  · rfl
  · exact List.length_set

theorem length_cancel (board : Switchboard) (number : Nat) :
    (board.cancel number).seats.length = board.seats.length := by
  unfold cancel
  split
  · rfl
  · exact List.length_set

end Switchboard

namespace Desk

variable {interval : Nat} {record : List Deed} {desk : Desk} {number : Nat}

/-- Whether the session that the console waits for after the input has been told to stop. -/
def Stops (desk : Desk) : Prop :=
  ∀ number seat, desk.mode = .stopping number → desk.board.seats[number]? = some seat →
    seat.session.Told

theorem stops_stop (patient : desk.board.Patient) (number : Nat) : (desk.stop number).Stops := by
  intro n seat stopping there
  cases stopping
  simp only [stop, Switchboard.cancel] at there
  split at there
  · next closed =>
      refine Session.told_of_none (patient.closed number seat there ?_)
      simpa [Switchboard.open?, there] using closed
  · next before isOpen =>
      have bound := (List.getElem?_eq_some_iff.mp (Switchboard.open?_eq_some.mp isOpen).1).1
      rw [List.getElem?_set_self bound] at there
      cases there
      exact before.session.told_cancel

theorem Stops.step (h : desk.Stops) (orderly : Orderly interval record desk)
    (occurrence : Occurrence) : (desk.step occurrence).Stops := by
  cases occurrence with
  | input now read =>
      simp only [Desk.step]
      split
      · next reads =>
          rcases read with fault | _ | line
          · intro n seat stopping
            cases stopping
          · exact stops_stop orderly.sound.patient 0
          · intro n seat stopping
            have reading : desk.mode = .reading :=
              beq_iff_eq.mp ((Bool.and_eq_true _ _).mp reads).1
            cases reading.symm.trans stopping
      · exact h
  | wentOn =>
      simp only [Desk.step, goOn]
      split
      · split
        · exact h
        · exact stops_stop orderly.sound.patient 0
      · next number stopping =>
          split
          · next seat there =>
              split
              · exact h
              · next ended =>
                  have ended (other : Seat) (here : desk.board.seats[number]? = some other) :
                      other.session.isRunning = false := by
                    cases there.symm.trans here
                    exact Bool.eq_false_iff.mpr ended
                  have released := orderly.release (by simp [stopping]) ended
                  exact stops_stop released.sound.patient (number + 1)
          · intro n other draining
            cases draining
      · split
        · intro n other left
          cases left
        · exact h
      · exact h
      · exact h
  | came number event =>
      simp only [Desk.step]
      split
      · next comes =>
          intro n seat stopping there
          have past : desk.mode ≠ .reading := fun reading => by cases reading.symm.trans stopping
          have free := orderly.free past
          obtain ⟨before, hbefore, -, -, session⟩ :=
            (orderly.sound.attend_free free (event.uncommanded comes) number).2 n seat there
          rw [session]
          split
          · exact (h n before stopping hbefore).step_free (orderly.sound.free free hbefore)
              (event.uncommanded comes)
          · exact h n before stopping hbefore
      · exact h
  | forwarded number =>
      intro n seat stopping there
      obtain ⟨before, hbefore, session, -⟩ := (desk.board.forward_same number).exists_seat there
      exact session ▸ h n before stopping hbefore
  | printed =>
      simp only [Desk.step]
      split
      · exact h
      · exact h

theorem stops_start (interval : Nat) : (start interval).Stops :=
  fun _ _ stopping => by cases stopping

theorem Stops.after (h : desk.Stops) (orderly : Orderly interval record desk)
    (occurrences : List Occurrence) : (desk.after occurrences).Stops := by
  induction occurrences generalizing record desk with
  | nil => exact h
  | cons occurrence occurrences ih =>
    exact ih (h.step orderly occurrence) (orderly.step occurrence)

section Coming

variable {seat : Seat} {events : List Session.Event}

/-- What comes for a session by itself comes for it alone, and the console waits no longer once
there is a reply. -/
theorem after_came (there : desk.board.seats[number]? = some seat)
    (come : ∀ event ∈ events, event.comes) :
    let next := desk.after (events.map (.came number))
    next.mode = desk.mode ∧
      (∃ after, next.board.seats[number]? = some after ∧
        after.session = seat.session.after events) ∧
      (next.board.waiting? = none ∨ next.board.waiting? = desk.board.waiting?) := by
  induction events generalizing desk seat with
  | nil => exact ⟨rfl, ⟨seat, there, rfl⟩, .inr rfl⟩
  | cons event events ih =>
      obtain ⟨comes, come⟩ := List.forall_mem_cons.mp come
      let first : Desk := { desk with board := desk.board.attend number event }
      have here : first.board.seats[number]? = some (seat.attended event) := by
        have attended : first.board.seats[number]? =
            some (if number = number then seat.attended event else seat) :=
              Switchboard.getElem?_attend_of there
        rwa [if_pos rfl] at attended
      have waiting : first.board.waiting? = none ∨
          first.board.waiting? = desk.board.waiting? := by
        simp only [first, Switchboard.waiting?_attend there]
        split
        · exact .inl rfl
        · exact .inr rfl
      obtain ⟨mode, ⟨after, hafter, session⟩, later⟩ := ih here come
      rw [List.map_cons, Desk.after, List.foldl_cons, step_came desk number comes]
      refine ⟨mode, ⟨after, hafter, ?_⟩, ?_⟩
      · rw [session, Seat.attended, Session.react_step]
        rfl
      · rcases later with free | same
        · exact .inl free
        · exact same.symm ▸ waiting

end Coming

theorem Orderly.exists_free (h : Orderly interval record desk) :
    ∃ later, (desk.after later).mode = desk.mode ∧ (desk.after later).board.waiting? = none := by
  cases waits : desk.board.waiting? with
  | none => exact ⟨[], rfl, waits⟩
  | some number =>
      obtain ⟨seat, there, -⟩ := h.sound.busy.isOpen number waits
      obtain ⟨events, come, free⟩ := (h.sound.patient.waits number seat there).exists_reply
      obtain ⟨mode, ⟨after, hafter, session⟩, waiting⟩ := after_came there come
      refine ⟨_, mode, waiting.resolve_right fun still => ?_⟩
      have busy := (h.after (events.map (.came number))).sound.busy.errand number after hafter
      rw [still, waits, session, free] at busy
      simp at busy

/-! ### After the input -/

theorem Orderly.length_came (h : Orderly interval record desk) (past : desk.mode ≠ .reading)
    (number : Nat) (events : List Session.Event) :
    (desk.after (events.map (.came number))).board.seats.length ≤ desk.board.seats.length := by
  induction events generalizing record desk with
  | nil => exact Nat.le_refl _
  | cons event events ih =>
      have stays : (desk.step (.came number event)).mode = desk.mode ∧
          (desk.step (.came number event)).board.seats.length ≤ desk.board.seats.length := by
        simp only [Desk.step]
        split
        · next comes =>
            refine ⟨rfl, Nat.le_of_not_lt fun more => ?_⟩
            obtain ⟨before, hbefore, -⟩ :=
              (h.sound.attend_free (h.free past) (event.uncommanded comes) number).2 _ _
                (List.getElem?_eq_getElem more)
            exact Nat.lt_irrefl _ (List.getElem?_eq_some_iff.mp hbefore).1
        · exact ⟨rfl, Nat.le_refl _⟩
      exact Nat.le_trans (ih (h.step (.came number event)) (stays.1 ▸ past)) stays.2

theorem goOn_of_none (stopping : desk.mode = .stopping number)
    (nobody : desk.board.seats[number]? = none) :
    desk.goOn = { desk with mode := .draining } := by
  simp only [goOn, stopping, nobody]

theorem goOn_of_ended (stopping : desk.mode = .stopping number) {seat : Seat}
    (there : desk.board.seats[number]? = some seat) (ended : seat.session.isRunning = false) :
    desk.goOn = { desk with board := desk.board.release number }.stop (number + 1) := by
  simp only [goOn, stopping, there, ended, Bool.false_eq_true, if_false]

theorem Orderly.exists_draining (h : Orderly interval record desk) (stops : desk.Stops)
    (count : Nat) (stopping : desk.mode = .stopping number)
    (bound : desk.board.seats.length ≤ number + count) :
    ∃ later, (desk.after later).mode = .draining := by
  induction count generalizing record desk number with
  | zero => exact ⟨[.wentOn], congrArg mode (goOn_of_none stopping (List.getElem?_eq_none bound))⟩
  | succ count ih =>
      cases there : desk.board.seats[number]? with
      | none => exact ⟨[.wentOn], congrArg mode (goOn_of_none stopping there)⟩
      | some seat =>
          have past : desk.mode ≠ .reading := by simp [stopping]
          obtain ⟨events, come, ended⟩ := (stops number seat stopping there).exists_end
          obtain ⟨mode, ⟨after, hafter, session⟩, -⟩ :=
            after_came there fun event hmem => (come event hmem).1
          have length := h.length_came past number events
          have waited := h.after (events.map (.came number))
          have goes := goOn_of_ended (mode.trans stopping) hafter (session ▸ ended)
          obtain ⟨later, draining⟩ := ih (waited.step .wentOn)
            ((stops.after h (events.map (.came number))).step waited .wentOn)
            (congrArg Desk.mode goes) (by
              rw [Desk.step, goes, stop, Switchboard.length_cancel, Switchboard.length_release]
              omega)
          refine ⟨events.map (.came number) ++ .wentOn :: later, ?_⟩
          rw [after_append]
          exact draining

theorem exists_printed (desk : Desk) : ∃ later, (desk.after later).mode = desk.mode ∧
    (desk.after later).board = desk.board ∧
    desk.board.written.length ≤ (desk.after later).printed := by
  induction lag : desk.board.written.length - desk.printed generalizing desk with
  | zero => exact ⟨[], rfl, rfl, Nat.sub_eq_zero_iff_le.mp lag⟩
  | succ lag' ih =>
      have behind : desk.printed < desk.board.written.length := by omega
      obtain ⟨later, mode, board, printed⟩ := ih { desk with printed := desk.printed + 1 } (by
        show desk.board.written.length - (desk.printed + 1) = lag'
        omega)
      refine ⟨.printed :: later, ?_⟩
      rw [Desk.after, List.foldl_cons, step, if_pos behind]
      exact ⟨mode, board, printed⟩

theorem exists_forwarded (desk : Desk) : ∃ later, (desk.after later).mode = desk.mode ∧
    (desk.after later).board.allForwarded := by
  induction count : desk.board.unwritten.length generalizing desk with
  | zero =>
      cases forwarded : desk.board.allForwarded with
      | true => exact ⟨[], rfl, forwarded⟩
      | false =>
          obtain ⟨number, seat, there, more⟩ := Switchboard.exists_unwritten forwarded
          have less := Switchboard.length_unwritten_forward there more
          omega
  | succ unwritten ih =>
      cases forwarded : desk.board.allForwarded with
      | true => exact ⟨[], rfl, forwarded⟩
      | false =>
          obtain ⟨number, seat, there, more⟩ := Switchboard.exists_unwritten forwarded
          have less := Switchboard.length_unwritten_forward there more
          obtain ⟨later, mode, all⟩ := ih (desk.step (.forwarded number))
            (Nat.succ.inj (less.trans count))
          exact ⟨.forwarded number :: later, mode, all⟩

theorem exists_left_of_draining (draining : desk.mode = .draining) :
    ∃ later, (desk.after later).mode = .left := by
  obtain ⟨forwards, mode, forwarded⟩ := desk.exists_forwarded
  obtain ⟨prints, mode', board, printed⟩ := (desk.after forwards).exists_printed
  refine ⟨forwards ++ prints ++ [.wentOn], ?_⟩
  rw [after_append, after_append]
  have draining : ((desk.after forwards).after prints).mode = .draining :=
    (mode'.trans mode).trans draining
  have done : (((desk.after forwards).after prints).board.allForwarded &&
      ((desk.after forwards).after prints).board.written.length ≤
        ((desk.after forwards).after prints).printed) = true := by
    rw [board, forwarded, Bool.true_and]
    exact decide_eq_true printed
  have leaves : ((desk.after forwards).after prints).goOn.mode = .left := by
    simp only [goOn, draining, done, if_true]
  exact leaves

/-- From wherever its course has led it there is a way on to the end, unless the console broke
off. -/
theorem Orderly.exists_left (h : Orderly interval record desk) (stops : desk.Stops)
    (unbroken : ∀ fault, .broke fault ∉ record) : ∃ later, (desk.after later).mode = .left := by
  have stopped {record : List Deed} {desk : Desk} {number : Nat}
      (h : Orderly interval record desk) (stops : desk.Stops)
      (stopping : desk.mode = .stopping number) :
      ∃ later, (desk.after later).mode = .left := by
    obtain ⟨drains, draining⟩ := h.exists_draining stops desk.board.seats.length stopping
      (Nat.le_add_left _ _)
    obtain ⟨later, left⟩ := exists_left_of_draining draining
    exact ⟨drains ++ later, (after_append desk drains later).symm ▸ left⟩
  cases mode : desk.mode with
  | broken fault => exact absurd ((h.broke fault).mpr mode) (unbroken fault)
  | left => exact ⟨[], mode⟩
  | draining => exact exists_left_of_draining mode
  | stopping number => exact stopped h stops mode
  | reading =>
      obtain ⟨waits, reading, free⟩ := h.exists_free
      have reading := reading.trans mode
      have ends : ∃ occurrence, ((desk.after waits).step occurrence).mode = .stopping 0 := by
        cases anyOpen : (desk.after waits).board.anyOpen with
        | true =>
            refine ⟨.input 0 (.ok none), ?_⟩
            have reads : (desk.after waits).reads := by
              simp only [reads, reading, Switchboard.reads, anyOpen, free]
              rfl
            simp only [Desk.step, reads, if_true]
            rfl
        | false =>
            refine ⟨.wentOn, ?_⟩
            simp only [Desk.step, Desk.goOn, reading, anyOpen, Bool.false_eq_true, if_false]
            rfl
      obtain ⟨occurrence, stopping⟩ := ends
      have reached := h.after waits
      obtain ⟨later, left⟩ := stopped (reached.step occurrence)
        ((stops.after h waits).step reached occurrence) stopping
      refine ⟨waits ++ occurrence :: later, ?_⟩
      rw [after_append]
      exact left

end Desk

end LogQuery
