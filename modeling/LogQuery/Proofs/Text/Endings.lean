import LogQuery.Proofs.Text.Lines

namespace LogQuery.Text

/-- Whether a new line starts after a text. -/
def Ended (s : String) : Prop :=
  ∀ c ∈ s.toList.getLast?, c = '\n'

def LineEnd (ending : String) : Prop :=
  ending = "\n" ∨ ending = "\r\n"

theorem Ended.eq_empty {s : String} (ended : Ended s)
    (full : ∀ c ∈ s.toList.getLast?, isBlank c = false) : s = "" := by
  by_contra nonempty
  have ends := List.getLast?_eq_some_getLast (String.toList_eq_nil_iff.not.mpr nonempty)
  have solid := full _ ends
  rw [ended _ ends] at solid
  exact absurd solid (by decide)

theorem lines_append {front : String} (ended : Ended front) (back : String) :
    lines (front ++ back) = lines front ++ lines back := by
  rcases List.eq_nil_or_concat front.toList with empty | ⟨before, c, chars⟩
  · rw [String.toList_eq_nil_iff.mp empty, String.empty_append]
    rfl
  · rw [List.concat_eq_append] at chars
    have feed : c = '\n' := ended c (by simp [chars])
    have apart (rest : String) :
        lines (front ++ rest) = (cut '\n' before).map (String.ofList ∘ dropReturn) ++
          lines rest := by
      rw [← String.ofList_toList (s := front ++ rest), String.toList_append, chars, feed,
        List.append_assoc, List.singleton_append, lines_append_feed, String.ofList_toList]
    have alone := apart ""
    rw [String.append_empty] at alone
    rw [apart back, alone]
    simp [lines, cut, linesOfPieces]

section Ending

variable {line ending : String}

theorem lines_feed (unbroken : '\n' ∉ line.toList) :
    lines (line ++ "\n") = [withoutReturn line] := by
  have chars : line ++ "\n" = String.ofList (line.toList ++ '\n' :: []) := by
    rw [← String.toList_inj]
    simp
  rw [chars, lines_append_feed, cut_of_not_mem unbroken]
  rfl

theorem lines_return_feed (unbroken : '\n' ∉ line.toList) : lines (line ++ "\r\n") = [line] := by
  have chars : line ++ "\r\n" = (line ++ "\r") ++ "\n" := by
    rw [← String.toList_inj]
    simp
  have unbroken' : '\n' ∉ (line ++ "\r").toList := by simpa using unbroken
  rw [chars, lines_feed unbroken', withoutReturn, String.toList_append]
  simp [dropReturn_concat]

theorem LineEnd.ended (h : LineEnd ending) (s : String) : Ended (s ++ ending) := by
  intro c last
  rcases h with rfl | rfl
  · simpa [eq_comm] using last
  · simpa [eq_comm] using last

theorem LineEnd.trimEnd_append (h : LineEnd ending) (s : String) :
    trimEnd (s ++ ending) = trimEnd s := by
  have blanks : ∀ c ∈ ending.toList, isBlank c = true := by
    rcases h with rfl | rfl
    · exact blank_iff.mp (by decide)
    · exact blank_iff.mp (by decide)
  rw [trimEnd, String.toList_append, stripEnd_append_of_blank blanks, trimEnd]

theorem LineEnd.lines_line (h : LineEnd ending) (unbroken : '\n' ∉ line.toList) :
    ∃ shown, lines (line ++ ending) = [shown] ∧ trimEnd shown = trimEnd line := by
  rcases h with rfl | rfl
  · refine ⟨withoutReturn line, lines_feed unbroken, ?_⟩
    rw [trimEnd, withoutReturn, String.toList_ofList, stripEnd_dropReturn, trimEnd]
  · exact ⟨line, lines_return_feed unbroken, rfl⟩

theorem exists_last_line (s : String) :
    ∃ front last, s = front ++ last ∧ Ended front ∧ '\n' ∉ last.toList := by
  suffices ∀ cs : List Char, ∃ front last, cs = front ++ last ∧
      (∀ c ∈ front.getLast?, c = '\n') ∧ '\n' ∉ last by
    obtain ⟨front, last, chars, ended, unbroken⟩ := this s.toList
    refine ⟨String.ofList front, String.ofList last, ?_, ?_, ?_⟩
    · rw [← String.ofList_append, ← chars, String.ofList_toList]
    · rwa [Ended, String.toList_ofList]
    · rwa [String.toList_ofList]
  intro cs
  induction cs using List.reverseRecOn with
  | nil => exact ⟨[], [], rfl, by simp, by simp⟩
  | append_singleton cs c ih =>
      obtain ⟨front, last, rfl, ended, unbroken⟩ := ih
      by_cases feed : c = '\n'
      · exact ⟨front ++ last ++ [c], [], by simp, by simp [feed], by simp⟩
      · exact ⟨front, last ++ [c], by simp, ended, by simp [unbroken, Ne.symm feed]⟩

theorem LineEnd.lines_text {s : String} (h : LineEnd ending) (nonempty : s ≠ "")
    (full : ∀ c ∈ s.toList.getLast?, isBlank c = false) : lines (s ++ ending) = lines s := by
  obtain ⟨front, last, rfl, ended, unbroken⟩ := exists_last_line s
  have solid {c : Char} (ends : last.toList.getLast? = some c) : isBlank c = false := by
    apply full
    simp [String.toList_append, ends]
  have remains : last ≠ "" := by
    rintro rfl
    rw [String.append_empty] at nonempty full
    exact nonempty (ended.eq_empty full)
  have plain : last.toList.getLast? ≠ some '\r' := by
    intro ends
    exact absurd (solid ends) (by decide)
  have same : withoutReturn last = last := by
    rw [withoutReturn, dropReturn_eq_self plain, String.ofList_toList]
  rw [String.append_assoc, lines_append ended, lines_append ended,
    lines_of_unbroken unbroken remains]
  rcases h with rfl | rfl
  · rw [lines_feed unbroken, same]
  · rw [lines_return_feed unbroken]

end Ending

section Returns

/-- What stands for a character when every line feed gets a carriage return before it. -/
def withReturn (c : Char) : List Char :=
  if c = '\n' then ['\r', '\n'] else [c]

theorem replaceFrom_feed (cs : List Char) :
    replaceFrom ['\n'] ['\r', '\n'] 0 cs = cs.flatMap withReturn := by
  induction cs with
  | nil => rfl
  | cons c cs ih =>
      rw [replaceFrom, List.flatMap_cons, withReturn]
      by_cases feed : c = '\n'
      · simp [feed, ih]
      · simp [feed, Ne.symm feed, ih]

theorem flatMap_withReturn_of_unbroken {cs : List Char} (unbroken : '\n' ∉ cs) :
    cs.flatMap withReturn = cs := by
  refine (List.flatMap_congr ?_).trans (List.flatMap_singleton' cs)
  intro c hmem
  apply if_neg
  rintro rfl
  exact unbroken hmem

theorem lines_withReturn {cs : List Char} (plain : '\r' ∉ cs) :
    lines (String.ofList (cs.flatMap withReturn)) = lines (String.ofList cs) := by
  by_cases broken : '\n' ∈ cs
  · obtain ⟨front, back, chars, unbroken⟩ := List.eq_append_cons_of_mem broken
    have shorter : back.length < cs.length := by
      simp only [chars, List.length_append, List.length_cons]
      omega
    simp only [chars, List.mem_append, List.mem_cons, not_or] at plain
    have below := lines_withReturn plain.2.2
    have unbroken' : '\n' ∉ front ++ ['\r'] := by simpa using unbroken
    have same : dropReturn front = front := by
      apply dropReturn_eq_self
      exact fun ends => plain.1 (List.mem_of_getLast? ends)
    have returned : (front ++ '\n' :: back).flatMap withReturn =
        (front ++ ['\r']) ++ '\n' :: back.flatMap withReturn := by
      simp [flatMap_withReturn_of_unbroken unbroken, withReturn]
    rw [chars, returned, lines_append_feed, lines_append_feed, below, cut_of_not_mem unbroken,
      cut_of_not_mem unbroken']
    simp [dropReturn_concat, same]
  · rw [flatMap_withReturn_of_unbroken broken]
termination_by cs.length

section Mapped

variable {f : Char → List Char} (blanks : ∀ c, isBlank c = true → ∀ d ∈ f c, isBlank d = true)
  (solid : ∀ c, isBlank c = false → f c = [c])

include blanks solid

theorem stripStart_flatMap (cs : List Char) :
    stripStart (cs.flatMap f) = (stripStart cs).flatMap f := by
  induction cs with
  | nil => rfl
  | cons c cs ih =>
      cases hc : isBlank c with
      | true =>
          rw [List.flatMap_cons, stripStart_append_of_blank (blanks c hc), ih, stripStart,
            stripStart, List.dropWhile_cons, if_pos hc]
      | false =>
          have kept (cs : List Char) : stripStart (c :: cs) = c :: cs :=
            stripStart_eq_self (by simpa using hc)
          rw [kept, List.flatMap_cons, solid c hc]
          exact kept _

theorem stripEnd_flatMap (cs : List Char) :
    stripEnd (cs.flatMap f) = (stripEnd cs).flatMap f := by
  have backwards := stripStart_flatMap (f := List.reverse ∘ f) (by simpa using blanks)
    (by simp +contextual [solid]) cs.reverse
  simp only [stripStart] at backwards
  rw [stripEnd, List.reverse_flatMap, backwards, stripEnd, List.reverse_flatMap]
  simp [Function.comp_def]

theorem strip_flatMap (cs : List Char) : strip (cs.flatMap f) = (strip cs).flatMap f := by
  rw [strip, stripStart_flatMap blanks solid, stripEnd_flatMap blanks solid, strip]

end Mapped

theorem replaceAll_feed (s : String) :
    replaceAll "\n" "\r\n" s = String.ofList (s.toList.flatMap withReturn) :=
  congrArg String.ofList (replaceFrom_feed s.toList)

theorem lines_replaceAll {s : String} (plain : '\r' ∉ s.toList) :
    lines (replaceAll "\n" "\r\n" s) = lines s := by
  rw [replaceAll_feed, lines_withReturn plain, String.ofList_toList]

theorem trim_replaceAll (s : String) :
    trim (replaceAll "\n" "\r\n" s) = replaceAll "\n" "\r\n" (trim s) := by
  have blanks : ∀ c, isBlank c = true → ∀ d ∈ withReturn c, isBlank d = true := by
    intro c hc d hmem
    rw [withReturn] at hmem
    split at hmem
    · rcases List.mem_pair.mp hmem with rfl | rfl
      · decide
      · decide
    · rwa [List.mem_singleton.mp hmem]
  have solid : ∀ c, isBlank c = false → withReturn c = [c] := by
    intro c hc
    apply if_neg
    rintro rfl
    exact absurd hc (by decide)
  rw [replaceAll_feed, replaceAll_feed, trim, String.toList_ofList, strip_flatMap blanks solid,
    trim, String.toList_ofList]

end Returns

end LogQuery.Text
