import LogQuery.Text.Blank
import Mathlib.Data.List.DropRight

namespace LogQuery.Text

variable {c : Char} {cs front back : List Char}

theorem stripStart_append_of_blank (blanks : ∀ c ∈ front, isBlank c = true) (back : List Char) :
    stripStart (front ++ back) = stripStart back :=
  List.dropWhile_append_of_pos blanks

theorem stripEnd_append_of_blank (blanks : ∀ c ∈ back, isBlank c = true) (front : List Char) :
    stripEnd (front ++ back) = stripEnd front := by
  have reversed : stripStart (back.reverse ++ front.reverse) = stripStart front.reverse :=
    stripStart_append_of_blank (by simpa using blanks) front.reverse
  simp only [stripStart] at reversed
  rw [stripEnd, List.reverse_append, reversed, stripEnd]

theorem stripStart_append_cons (solid : isBlank c = false) (front back : List Char) :
    stripStart (front ++ c :: back) = stripStart front ++ c :: back := by
  induction front with
  | nil => simp [stripStart, solid]
  | cons d front ih =>
      by_cases hd : isBlank d = true
      · simpa [stripStart, hd] using ih
      · simp [stripStart, hd]

theorem stripEnd_append_cons (solid : isBlank c = false) (front back : List Char) :
    stripEnd (front ++ c :: back) = front ++ c :: stripEnd back := by
  have reversed := stripStart_append_cons solid back.reverse front.reverse
  simp only [stripStart] at reversed
  simp [stripEnd, reversed]

theorem strip_append_cons (solid : isBlank c = false) (front back : List Char) :
    strip (front ++ c :: back) = stripStart front ++ c :: stripEnd back := by
  rw [strip, stripStart_append_cons solid, stripEnd_append_cons solid]

theorem blank_or_solid (cs : List Char) :
    (∀ c ∈ cs, isBlank c = true) ∨
      ∃ front c back, cs = front ++ c :: back ∧ isBlank c = false := by
  by_cases blanks : ∀ c ∈ cs, isBlank c = true
  · exact .inl blanks
  · push Not at blanks
    obtain ⟨c, hmem, solid⟩ := blanks
    obtain ⟨front, back, rfl⟩ := List.append_of_mem hmem
    exact .inr ⟨front, c, back, rfl, by simpa using solid⟩

theorem stripEnd_eq_nil_iff {cs : List Char} : stripEnd cs = [] ↔ ∀ c ∈ cs, isBlank c = true :=
  List.rdropWhile_eq_nil_iff

theorem blank_iff {s : String} : blank s = true ↔ ∀ c ∈ s.toList, isBlank c = true :=
  List.all_eq_true

theorem solid_of_blank_eq_false {s : String} (solid : blank s = false) :
    ∃ front c back, s.toList = front ++ c :: back ∧ isBlank c = false := by
  rcases blank_or_solid s.toList with blanks | split
  · rw [blank_iff.mpr blanks] at solid
    cases solid
  · exact split

theorem stripEnd_prefix_self (cs : List Char) : stripEnd cs <+: cs :=
  List.rdropWhile_prefix isBlank cs

theorem exists_stripEnd_append (cs : List Char) :
    ∃ back, stripEnd cs ++ back = cs ∧ ∀ c ∈ back, isBlank c = true :=
  ⟨cs.rtakeWhile isBlank, List.rdropWhile_append_rtakeWhile, fun _ => List.mem_rtakeWhile_imp⟩

theorem stripEnd_cons_stripEnd (c : Char) (cs : List Char) :
    stripEnd (c :: stripEnd cs) = stripEnd (c :: cs) := by
  obtain ⟨back, parts, blanks⟩ := exists_stripEnd_append cs
  have whole : c :: cs = (c :: stripEnd cs) ++ back := by rw [List.cons_append, parts]
  rw [whole, stripEnd_append_of_blank blanks]

theorem stripStart_stripStart (cs : List Char) : stripStart (stripStart cs) = stripStart cs :=
  List.dropWhile_idempotent isBlank cs

theorem stripEnd_stripEnd (cs : List Char) : stripEnd (stripEnd cs) = stripEnd cs :=
  List.rdropWhile_idempotent isBlank cs

theorem strip_of_blank (blanks : ∀ c ∈ cs, isBlank c = true) : strip cs = [] := by
  rw [strip, stripStart, List.dropWhile_eq_nil_iff.mpr blanks]
  rfl

theorem strip_stripStart (cs : List Char) : strip (stripStart cs) = strip cs := by
  rw [strip, stripStart_stripStart, strip]

theorem strip_stripEnd (cs : List Char) : strip (stripEnd cs) = strip cs := by
  rcases blank_or_solid cs with blanks | ⟨front, c, back, rfl, solid⟩
  · rw [strip_of_blank blanks, strip_of_blank]
    intro c hmem
    exact blanks c ((stripEnd_prefix_self cs).subset hmem)
  · rw [stripEnd_append_cons solid, strip_append_cons solid, strip_append_cons solid,
      stripEnd_stripEnd]

instance (cs : List Char) : Decidable (Trimmed cs) :=
  decidable_of_iff (cs.head?.all (!isBlank ·) = true ∧ cs.getLast?.all (!isBlank ·) = true)
    (by simp [Trimmed, Option.all_eq_true])

theorem strip_strip (cs : List Char) : strip (strip cs) = strip cs :=
  (strip_stripEnd (stripStart cs)).trans (strip_stripStart cs)

theorem Trimmed.around (hfront : Trimmed front) (hback : Trimmed back) (front_ne : front ≠ [])
    (back_ne : back ≠ []) (cs : List Char) : Trimmed (front ++ (cs ++ back)) := by
  constructor
  · rw [List.head?_append_of_ne_nil front front_ne]
    exact hfront.1
  · rw [← List.append_assoc, List.getLast?_append_of_ne_nil _ back_ne]
    exact hback.2

theorem strip_padded (hfront : ∀ c ∈ front, isBlank c = true)
    (hback : ∀ c ∈ back, isBlank c = true) (trimmed : Trimmed cs) :
    strip (front ++ cs ++ back) = cs := by
  cases cs with
  | nil =>
      rw [List.append_nil]
      exact strip_of_blank (List.forall_mem_append.mpr ⟨hfront, hback⟩)
  | cons c cs =>
      have start : stripStart (c :: cs ++ back) = c :: cs ++ back := stripStart_eq_self trimmed.1
      rw [List.append_assoc, strip, stripStart_append_of_blank hfront, start,
        stripEnd_append_of_blank hback, stripEnd_eq_self trimmed.2]

theorem trim_of_trimmed {s : String} (trimmed : Trimmed s.toList) : trim s = s := by
  rw [trim, strip_eq_self trimmed, String.ofList_toList]

theorem trimStart_eq_self {s : String} (solid : ∀ c ∈ s.toList.head?, isBlank c = false) :
    trimStart s = s := by
  rw [trimStart, stripStart_eq_self solid, String.ofList_toList]

theorem trimEnd_eq_self {s : String} (solid : ∀ c ∈ s.toList.getLast?, isBlank c = false) :
    trimEnd s = s := by
  rw [trimEnd, stripEnd_eq_self solid, String.ofList_toList]

theorem trimEnd_trimEnd (s : String) : trimEnd (trimEnd s) = trimEnd s := by
  rw [trimEnd, trimEnd, String.toList_ofList, stripEnd_stripEnd]

theorem trim_trimStart (s : String) : trim (trimStart s) = trim s := by
  rw [trim, trimStart, String.toList_ofList, strip_stripStart, trim]

theorem trim_trimEnd (s : String) : trim (trimEnd s) = trim s := by
  rw [trim, trimEnd, String.toList_ofList, strip_stripEnd, trim]

theorem trimEnd_trimStart (s : String) : trimEnd (trimStart s) = trim s := by
  rw [trim, trimEnd, trimStart, String.toList_ofList, strip]

theorem trim_trim (s : String) : trim (trim s) = trim s := by
  rw [← trimEnd_trimStart s, trim_trimEnd, trim_trimStart, trimEnd_trimStart]

theorem trim_isEmpty (s : String) : (trim s).isEmpty = blank s := by
  rw [Bool.eq_iff_iff, String.isEmpty_iff, trim, blank_iff]
  constructor
  · intro empty
    rcases blank_or_solid s.toList with blanks | ⟨front, c, back, chars, solid⟩
    · exact blanks
    · rw [chars, strip_append_cons solid] at empty
      simpa using congrArg String.toList empty
  · intro blanks
    rw [strip_of_blank blanks]

theorem not_mem_trimStart {s : String} (absent : c ∉ s.toList) : c ∉ (trimStart s).toList := by
  rw [trimStart, String.toList_ofList]
  exact fun hmem => absent ((List.dropWhile_suffix isBlank).subset hmem)

theorem not_mem_trimEnd {s : String} (absent : c ∉ s.toList) : c ∉ (trimEnd s).toList := by
  rw [trimEnd, String.toList_ofList]
  exact fun hmem => absent ((stripEnd_prefix_self s.toList).subset hmem)

theorem not_mem_trim {s : String} (absent : c ∉ s.toList) : c ∉ (trim s).toList := by
  rw [← trimEnd_trimStart]
  exact not_mem_trimEnd (not_mem_trimStart absent)

end LogQuery.Text
