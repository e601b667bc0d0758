import LogQuery.Proofs.Text.Joined

namespace LogQuery.Text

section Returns

variable {c : Char} {cs : List Char}

theorem dropReturn_prefix_self (cs : List Char) : dropReturn cs <+: cs := by
  unfold dropReturn
  split
  · exact List.dropLast_prefix cs
  · exact List.prefix_rfl

theorem dropReturn_eq_self (plain : cs.getLast? ≠ some '\r') : dropReturn cs = cs :=
  if_neg plain

theorem dropReturn_concat (cs : List Char) : dropReturn (cs ++ ['\r']) = cs := by
  simp [dropReturn]

theorem head?_dropReturn (other : c ≠ '\r') (head : cs.head? = some c) :
    (dropReturn cs).head? = some c := by
  obtain ⟨rest, rfl⟩ := List.head?_eq_some_iff.mp head
  unfold dropReturn
  split
  · next ends =>
      cases rest with
      | nil => exact absurd (Option.some.inj ends) other
      | cons d rest => rfl
  · rfl

theorem stripEnd_dropReturn (cs : List Char) : stripEnd (dropReturn cs) = stripEnd cs := by
  unfold dropReturn
  split
  · next ends =>
      -- Only a carriage return is gone, and it is blank.
      obtain ⟨front, rfl⟩ := List.getLast?_eq_some_iff.mp ends
      have gone : ∀ c ∈ ['\r'], isBlank c = true := List.forall_mem_singleton.mpr (by decide)
      rw [List.dropLast_concat, stripEnd_append_of_blank gone]
  · rfl

end Returns

/-- The line that a text makes when a line feed follows it. -/
def withoutReturn (s : String) : String :=
  String.ofList (dropReturn s.toList)

theorem linesOfPieces_append (front : List (List Char)) {back : List (List Char)}
    (nonempty : back ≠ []) :
    linesOfPieces (front ++ back) = front.map dropReturn ++ linesOfPieces back := by
  induction front with
  | nil => rfl
  | cons piece front ih =>
      cases rest : front ++ back with
      | nil => exact absurd (List.append_eq_nil_iff.mp rest).2 nonempty
      | cons next rest' =>
          rw [List.cons_append, rest, linesOfPieces, ← rest, ih, List.map_cons, List.cons_append]
          simp

theorem lines_append_feed (front back : List Char) :
    lines (String.ofList (front ++ '\n' :: back)) =
      (cut '\n' front).map (String.ofList ∘ dropReturn) ++ lines (String.ofList back) := by
  simp only [lines, String.toList_ofList]
  rw [cut_append_sep, linesOfPieces_append _ (cut_ne_nil '\n' back),
    List.map_append, List.map_map]

theorem prefix_of_mem_linesOfPieces {pieces : List (List Char)} {line : List Char}
    (hmem : line ∈ linesOfPieces pieces) : ∃ piece ∈ pieces, line <+: piece := by
  rcases List.eq_nil_or_concat' pieces with rfl | ⟨front, last, rfl⟩
  · cases hmem
  · rw [linesOfPieces_append front (List.cons_ne_nil last []), List.mem_append] at hmem
    rcases hmem with hmem | hmem
    · obtain ⟨piece, known, rfl⟩ := List.mem_map.mp hmem
      exact ⟨piece, List.mem_append_left _ known, dropReturn_prefix_self piece⟩
    · rw [linesOfPieces] at hmem
      split at hmem
      · cases hmem
      · exact ⟨last, by simp, List.mem_singleton.mp hmem ▸ List.prefix_rfl⟩

theorem unbroken_of_mem_lines {s line : String} (hmem : line ∈ lines s) : '\n' ∉ line.toList := by
  obtain ⟨cs, below, rfl⟩ := List.mem_map.mp hmem
  obtain ⟨piece, known, within⟩ := prefix_of_mem_linesOfPieces below
  rw [String.toList_ofList]
  exact fun feed => not_mem_of_mem_cut known (within.subset feed)

theorem splitOn_join_feeds {ls : List String} (unbroken : ∀ line ∈ ls, '\n' ∉ line.toList) :
    splitOn '\n' (String.join (ls.map (· ++ "\n"))) = ls ++ [""] := by
  induction ls with
  | nil => rfl
  | cons line ls ih =>
      rw [List.forall_mem_cons] at unbroken
      have first : (String.join ((line :: ls).map (· ++ "\n"))).toList =
          line.toList ++ '\n' :: (String.join (ls.map (· ++ "\n"))).toList := by
        rw [List.map_cons, String.join_cons, String.toList_append, String.toList_append,
          List.append_assoc]
        rfl
      rw [splitOn, first, cut_append_cons unbroken.1, List.map_cons, String.ofList_toList,
        ← splitOn, ih unbroken.2]
      rfl

section Joined

variable {line : String} {below : List String}

theorem toList_unlines_cons (line : String) (nonempty : below ≠ []) :
    (unlines (line :: below)).toList = line.toList ++ '\n' :: (unlines below).toList :=
  toList_intercalate_cons '\n' line nonempty

theorem unlines_singleton (line : String) : unlines [line] = line := by
  simp [unlines]

theorem trimEnd_eq_empty_iff {s : String} : trimEnd s = "" ↔ blank s = true := by
  rw [trimEnd, blank_iff, ← stripEnd_eq_nil_iff, ← String.toList_inj, String.toList_ofList]
  rfl

theorem blank_trimStart (s : String) : blank (trimStart s) = blank s := by
  rw [Bool.eq_iff_iff, blank_iff, blank_iff, trimStart, String.toList_ofList, stripStart,
    ← List.dropWhile_eq_nil_iff, List.dropWhile_idempotent, List.dropWhile_eq_nil_iff]

theorem trimEnd_unlines_cons_of_blank (line : String) (hb : blank (unlines below) = true) :
    trimEnd (unlines (line :: below)) = trimEnd line := by
  by_cases empty : below = []
  · rw [empty, unlines_singleton]
  · rw [trimEnd, toList_unlines_cons line empty, stripEnd_append_of_blank, trimEnd]
    rintro c (_ | ⟨_, hmem⟩)
    · decide
    · exact blank_iff.mp hb c hmem

theorem trimEnd_unlines_cons_of_solid (line : String) (hb : blank (unlines below) = false) :
    trimEnd (unlines (line :: below)) =
      String.ofList (line.toList ++ '\n' :: stripEnd (unlines below).toList) := by
  obtain ⟨front, c, back, chars, solid⟩ := solid_of_blank_eq_false hb
  have nonempty : below ≠ [] := by
    rintro rfl
    cases hb
  rw [trimEnd, toList_unlines_cons line nonempty, chars, stripEnd_append_cons solid,
    ← List.cons_append, ← List.append_assoc, stripEnd_append_cons solid]
  simp

theorem blank_unlines_cons (line : String) (below : List String) :
    blank (unlines (line :: below)) = (blank line && blank (unlines below)) := by
  by_cases empty : below = []
  · rw [empty, unlines_singleton]
    simp [blank, unlines]
  · have feed : isBlank '\n' = true := by decide
    simp [blank, toList_unlines_cons line empty, feed]

theorem trim_unlines_cons_of_blank (hb : blank line = true) (below : List String) :
    trim (unlines (line :: below)) = trim (unlines below) := by
  by_cases empty : below = []
  · rw [empty, unlines_singleton, trim, strip_of_blank (blank_iff.mp hb)]
    rfl
  · have blanks : ∀ c ∈ line.toList ++ ['\n'], isBlank c = true := by
      intro c hmem
      rcases List.mem_append.mp hmem with hmem | hmem
      · exact blank_iff.mp hb c hmem
      · cases List.mem_singleton.mp hmem
        decide
    rw [trim, toList_unlines_cons line empty, strip, List.append_cons,
      stripStart_append_of_blank blanks]
    rfl

theorem trim_unlines_cons_of_solid (hb : blank line = false) (below : List String) :
    trim (unlines (line :: below)) = trimEnd (unlines (trimStart line :: below)) := by
  obtain ⟨front, c, back, chars, solid⟩ := solid_of_blank_eq_false hb
  by_cases empty : below = []
  · rw [empty, unlines_singleton, unlines_singleton, trim, trimEnd, trimStart,
      String.toList_ofList]
    rfl
  · rw [trim, trimEnd, toList_unlines_cons _ empty, toList_unlines_cons _ empty, trimStart,
      String.toList_ofList, strip, chars, stripStart_append_cons solid, List.append_assoc,
      List.cons_append, stripStart_append_cons solid]
    simp

theorem toList_unlines_concat {ls : List String} (nonempty : ls ≠ []) (last : String) :
    (unlines (ls ++ [last])).toList = (unlines ls).toList ++ '\n' :: last.toList := by
  induction ls with
  | nil => exact absurd rfl nonempty
  | cons line ls ih =>
      rw [List.cons_append, toList_unlines_cons line (by simp)]
      by_cases more : ls = []
      · rw [more, List.nil_append, unlines_singleton, unlines_singleton]
      · rw [ih more, toList_unlines_cons line more, List.append_assoc, List.cons_append]

theorem trim_unlines_concat_of_blank {last : String} (hb : blank last = true) (ls : List String) :
    trim (unlines (ls ++ [last])) = trim (unlines ls) := by
  by_cases empty : ls = []
  · rw [empty, List.nil_append, unlines_singleton, trim, strip_of_blank (blank_iff.mp hb)]
    rfl
  · have blanks : ∀ c ∈ '\n' :: last.toList, isBlank c = true :=
      List.forall_mem_cons.mpr ⟨by decide, blank_iff.mp hb⟩
    rw [trim, toList_unlines_concat empty, ← strip_stripEnd, stripEnd_append_of_blank blanks,
      strip_stripEnd, trim]

end Joined

/-- What is left of a line when the blanks at the end of the text are gone. -/
def leftOf (line : String) (below : List String) : String :=
  if blank (unlines below) then trimEnd line else withoutReturn line

theorem stripEnd_leftOf (line : String) (below : List String) :
    stripEnd (leftOf line below).toList = stripEnd line.toList := by
  unfold leftOf
  split
  · rw [trimEnd, String.toList_ofList, stripEnd_stripEnd]
  · rw [withoutReturn, String.toList_ofList, stripEnd_dropReturn]

theorem trim_leftOf (line : String) (below : List String) :
    trim (leftOf line below) = trim line := by
  rw [trim, ← strip_stripEnd, stripEnd_leftOf, strip_stripEnd, trim]

theorem blank_leftOf (line : String) (below : List String) :
    blank (leftOf line below) = blank line := by
  rw [Bool.eq_iff_iff, blank_iff, blank_iff, ← stripEnd_eq_nil_iff, stripEnd_leftOf,
    stripEnd_eq_nil_iff]

theorem leftOf_prefix_self (line : String) (below : List String) :
    (leftOf line below).toList <+: line.toList := by
  unfold leftOf
  split
  · rw [trimEnd, String.toList_ofList]
    exact stripEnd_prefix_self line.toList
  · rw [withoutReturn, String.toList_ofList]
    exact dropReturn_prefix_self line.toList

theorem lines_of_unbroken {line : String} (unbroken : '\n' ∉ line.toList) (nonempty : line ≠ "") :
    lines line = [line] := by
  rw [lines, cut_of_not_mem unbroken, linesOfPieces, if_neg (by simpa using nonempty)]
  simp

theorem lines_trimEnd_unlines_cons {line : String} (unbroken : '\n' ∉ line.toList)
    {below : List String} (solid : blank (unlines (line :: below)) = false) :
    lines (trimEnd (unlines (line :: below))) =
      leftOf line below :: lines (trimEnd (unlines below)) := by
  cases hb : blank (unlines below) with
  | true =>
      have here : blank line = false := by simpa [blank_unlines_cons, hb] using solid
      have remains : trimEnd line ≠ "" := by
        rw [Ne, trimEnd_eq_empty_iff, here]
        exact Bool.false_ne_true
      rw [trimEnd_unlines_cons_of_blank line hb, trimEnd_eq_empty_iff.mpr hb, leftOf, if_pos hb,
        lines_of_unbroken (not_mem_trimEnd unbroken) remains]
      rfl
  | false =>
      rw [trimEnd_unlines_cons_of_solid line hb, lines_append_feed, cut_of_not_mem unbroken]
      simp [leftOf, hb, withoutReturn, trimEnd]

section Above

variable {above : List String} {line : String}

theorem blank_unlines_append (solid : blank line = false) (above below : List String) :
    blank (unlines (above ++ line :: below)) = false := by
  induction above with
  | nil => simp [blank_unlines_cons, solid]
  | cons l above ih => simp [blank_unlines_cons, ih]

theorem lines_trimEnd_unlines_append (unbroken : ∀ l ∈ above, '\n' ∉ l.toList)
    (hline : '\n' ∉ line.toList) (solid : blank line = false) (below : List String) :
    lines (trimEnd (unlines (above ++ line :: below))) =
      above.map withoutReturn ++ leftOf line below :: lines (trimEnd (unlines below)) := by
  induction above with
  | nil =>
      apply lines_trimEnd_unlines_cons hline
      simp [blank_unlines_cons, solid]
  | cons l above ih =>
      rw [List.forall_mem_cons] at unbroken
      rw [List.cons_append, lines_trimEnd_unlines_cons unbroken.1, ih unbroken.2, leftOf,
        blank_unlines_append solid]
      · rfl
      · exact blank_unlines_append solid (l :: above) below

/-- Blank lines above all others go, and the first that is left starts where it did, unless it is
`line` itself. -/
theorem lines_trim_unlines_append (unbroken : ∀ l ∈ above, '\n' ∉ l.toList)
    (flush : ∀ l ∈ above, blank l = false → trimStart l = l)
    (hline : '\n' ∉ line.toList) (solid : blank line = false) (below : List String) :
    ∃ first, (first = line ∨ first = trimStart line) ∧
      lines (trim (unlines (above ++ line :: below))) =
        (above.dropWhile blank).map withoutReturn ++
          leftOf first below :: lines (trimEnd (unlines below)) := by
  induction above with
  | nil =>
      refine ⟨trimStart line, .inr rfl, ?_⟩
      rw [List.nil_append, trim_unlines_cons_of_solid solid]
      apply lines_trimEnd_unlines_cons (not_mem_trimStart hline)
      rw [blank_unlines_cons, blank_trimStart, solid]
      rfl
  | cons l above ih =>
      rw [List.forall_mem_cons] at unbroken flush
      cases hl : blank l with
      | true =>
          obtain ⟨first, known, all⟩ := ih unbroken.2 flush.2
          refine ⟨first, known, ?_⟩
          rw [List.cons_append, trim_unlines_cons_of_blank hl,
            List.dropWhile_cons, if_pos hl, all]
      | false =>
          refine ⟨line, .inl rfl, ?_⟩
          rw [List.cons_append, trim_unlines_cons_of_solid hl, flush.1 hl, List.dropWhile_cons,
            if_neg (by simp [hl]), ← List.cons_append]
          exact lines_trimEnd_unlines_append (List.forall_mem_cons.mpr unbroken) hline solid below

end Above

section Whole

variable {s : String}

theorem lines_eq_splitOn (nonempty : s ≠ "") (full : s.toList.getLast? ≠ some '\n')
    (plain : ∀ line ∈ splitOn '\n' s, line.toList.getLast? ≠ some '\r') :
    lines s = splitOn '\n' s := by
  obtain ⟨front, last, pieces⟩ :=
    (List.eq_nil_or_concat _).resolve_left (cut_ne_nil '\n' s.toList)
  rw [List.concat_eq_append] at pieces
  have whole : ['\n'].intercalate (front ++ [last]) = s.toList := by
    rw [← pieces, intercalate_cut]
  have more : last ≠ [] := by
    rintro rfl
    by_cases empty : front = []
    · apply nonempty
      simpa [empty] using whole.symm
    · rw [← whole] at full
      exact full (getLast?_intercalate_nil '\n' empty)
  have kept : front.map dropReturn = front := by
    refine (List.map_congr_left ?_).trans (List.map_id front)
    intro piece hmem
    apply dropReturn_eq_self
    have line : String.ofList piece ∈ splitOn '\n' s := by
      rw [splitOn, pieces]
      exact List.mem_map_of_mem (List.mem_append_left _ hmem)
    simpa using plain _ line
  rw [lines, splitOn, pieces, linesOfPieces_append front (List.cons_ne_nil last []), kept,
    linesOfPieces, if_neg (by simpa using more)]

theorem lines_of_full (full : ∀ c ∈ s.toList.getLast?, isBlank c = false)
    (plain : ∀ line ∈ splitOn '\n' s, line.toList.getLast? ≠ some '\r') :
    lines s = if s = "" then [] else splitOn '\n' s := by
  split
  · next empty =>
      rw [empty]
      rfl
  · next nonempty =>
      apply lines_eq_splitOn nonempty _ plain
      intro ends
      exact absurd (full '\n' ends) (by decide)

theorem unlines_lines (full : ∀ c ∈ s.toList.getLast?, isBlank c = false)
    (plain : ∀ line ∈ splitOn '\n' s, line.toList.getLast? ≠ some '\r') :
    unlines (lines s) = s := by
  rw [lines_of_full full plain]
  split
  · next empty =>
      rw [empty]
      rfl
  · exact intercalate_splitOn '\n' s

end Whole

end LogQuery.Text
