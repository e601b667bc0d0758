import LogQuery.Proofs.Text.Blank
import LogQuery.Text.Lines

namespace LogQuery.Text

theorem cut_eq_splitOn (sep : Char) (cs : List Char) : cut sep cs = cs.splitOn sep := by
  induction cs with
  | nil => rw [List.splitOn_nil, cut]
  | cons c cs ih =>
      rw [cut, ih, List.splitOn_cons_eq_if_modifyHead]
      cases pieces : cs.splitOn sep with
      | nil => exact absurd pieces (List.splitOn_ne_nil sep cs)
      | cons piece pieces => simp

theorem cut_append_sep (sep : Char) (front back : List Char) :
    cut sep (front ++ sep :: back) = cut sep front ++ cut sep back := by
  simp only [cut_eq_splitOn]
  exact List.splitOn_append_cons_self front back

theorem exists_cut_cons (sep c : Char) (cs : List Char) :
    ∃ piece pieces, cut sep cs = piece :: pieces ∧
      cut sep (c :: cs) = if c = sep then [] :: piece :: pieces else (c :: piece) :: pieces := by
  obtain ⟨piece, pieces, rests⟩ := List.exists_cons_of_ne_nil (cut_ne_nil sep cs)
  refine ⟨piece, pieces, rests, ?_⟩
  rw [cut, rests]

theorem mem_of_mem_cut {sep c : Char} {cs piece : List Char} (hpiece : piece ∈ cut sep cs)
    (hmem : c ∈ piece) : c ∈ cs := by
  induction cs generalizing piece with
  | nil =>
      rw [cut, List.mem_singleton] at hpiece
      exact hpiece ▸ hmem
  | cons d cs ih =>
      obtain ⟨first, pieces, rests, begins⟩ := exists_cut_cons sep d cs
      rw [rests] at ih
      rw [begins] at hpiece
      by_cases separates : d = sep
      · rw [if_pos separates, List.mem_cons] at hpiece
        rcases hpiece with rfl | hpiece
        · contradiction
        · exact List.mem_cons_of_mem d (ih hpiece hmem)
      · rw [if_neg separates, List.mem_cons] at hpiece
        rcases hpiece with rfl | hpiece
        · rcases List.mem_cons.mp hmem with rfl | hmem
          · exact List.mem_cons_self
          · exact List.mem_cons_of_mem d (ih List.mem_cons_self hmem)
        · exact List.mem_cons_of_mem d (ih (List.mem_cons_of_mem first hpiece) hmem)

theorem not_mem_of_mem_cut {sep : Char} {cs piece : List Char} (hpiece : piece ∈ cut sep cs) :
    sep ∉ piece := by
  induction cs generalizing piece with
  | nil =>
      rw [cut, List.mem_singleton] at hpiece
      exact hpiece ▸ List.not_mem_nil
  | cons c cs ih =>
      obtain ⟨first, pieces, rests, begins⟩ := exists_cut_cons sep c cs
      rw [rests] at ih
      rw [begins] at hpiece
      by_cases separates : c = sep
      · rw [if_pos separates, List.mem_cons] at hpiece
        rcases hpiece with rfl | hpiece
        · exact List.not_mem_nil
        · exact ih hpiece
      · rw [if_neg separates, List.mem_cons] at hpiece
        rcases hpiece with rfl | hpiece
        · exact List.not_mem_cons_of_ne_of_not_mem (Ne.symm separates) (ih List.mem_cons_self)
        · exact ih (List.mem_cons_of_mem first hpiece)

theorem intercalate_cut (sep : Char) (cs : List Char) : [sep].intercalate (cut sep cs) = cs := by
  rw [cut_eq_splitOn]
  exact List.intercalate_splitOn sep

theorem splitOn_intercalate {sep : Char} {parts : List String}
    (unbroken : ∀ part ∈ parts, sep ∉ part.toList) (nonempty : parts ≠ []) :
    splitOn sep ((String.singleton sep).intercalate parts) = parts := by
  have pieces : cut sep ([sep].intercalate (parts.map String.toList)) =
      parts.map String.toList := by
    rw [cut_eq_splitOn]
    exact List.splitOn_intercalate sep (by simpa using unbroken) (by simpa using nonempty)
  rw [splitOn, String.toList_intercalate, String.toList_singleton, pieces, List.map_map]
  simp

theorem intercalate_splitOn (sep : Char) (s : String) :
    (String.singleton sep).intercalate (splitOn sep s) = s := by
  rw [← String.toList_inj, String.toList_intercalate, String.toList_singleton,
    splitOn, List.map_map]
  simp [Function.comp_def, intercalate_cut]

theorem toList_intercalate_cons (sep : Char) (first : String) {rest : List String}
    (nonempty : rest ≠ []) :
    ((String.singleton sep).intercalate (first :: rest)).toList =
      first.toList ++ sep :: ((String.singleton sep).intercalate rest).toList := by
  simp [String.toList_intercalate, List.intercalate_cons_of_ne_nil, nonempty]

theorem not_mem_intercalate {c sep : Char} (other : c ≠ sep) {parts : List String}
    (absent : ∀ part ∈ parts, c ∉ part.toList) :
    c ∉ ((String.singleton sep).intercalate parts).toList := by
  induction parts with
  | nil => simp
  | cons part parts ih =>
      rw [List.forall_mem_cons] at absent
      by_cases empty : parts = []
      · simpa [empty] using absent.1
      · rw [toList_intercalate_cons sep part empty, List.mem_append, List.mem_cons]
        rintro (hmem | same | hmem)
        · exact absent.1 hmem
        · exact other same
        · exact ih absent.2 hmem

theorem getLast?_intercalate_nil (sep : Char) {front : List (List Char)} (nonempty : front ≠ []) :
    ([sep].intercalate (front ++ [[]])).getLast? = some sep := by
  induction front with
  | nil => exact absurd rfl nonempty
  | cons piece front ih =>
      rw [List.cons_append, List.intercalate_cons_of_ne_nil (by simp), List.getLast?_append]
      by_cases last : front = []
      · simp [last]
      · simp [ih last]

theorem stripEnd_intercalate {sep : Char} (solid : isBlank sep = false) (front : List (List Char))
    (last : List Char) :
    stripEnd ([sep].intercalate (front ++ [last])) =
      [sep].intercalate (front ++ [stripEnd last]) := by
  induction front with
  | nil => simp
  | cons piece front ih =>
      have nonempty (l : List Char) : front ++ [l] ≠ [] := by simp
      simp only [List.cons_append, List.intercalate_cons_of_ne_nil (nonempty _),
        List.append_assoc, List.nil_append]
      rw [stripEnd_append_cons solid, ih]

theorem trim_intercalate {sep : Char} (solid : isBlank sep = false) (first : String)
    (middle : List String) (last : String) :
    trim ((String.singleton sep).intercalate (first :: (middle ++ [last]))) =
      (String.singleton sep).intercalate (trimStart first :: (middle ++ [trimEnd last])) := by
  have joined (f l : List Char) :
      [sep].intercalate (f :: (middle.map String.toList ++ [l])) =
        f ++ sep :: [sep].intercalate (middle.map String.toList ++ [l]) := by
    rw [List.intercalate_cons_of_ne_nil (by simp)]
    simp
  rw [← String.toList_inj]
  simp only [trim, trimStart, trimEnd, String.toList_intercalate, String.toList_ofList,
    String.toList_singleton, List.map_cons, List.map_append, List.map_nil]
  rw [joined, joined, strip_append_cons solid, stripEnd_intercalate solid]

theorem run_append {p : Char → Bool} {front back : List Char} (all : ∀ c ∈ front, p c = true)
    (stops : ∀ c ∈ back.head?, p c = false) :
    (front ++ back).takeWhile p = front ∧ (front ++ back).dropWhile p = back := by
  have rest : back.takeWhile p = [] ∧ back.dropWhile p = back := by
    cases back with
    | nil => exact ⟨rfl, rfl⟩
    | cons c back => simp [stops c rfl]
  rw [List.takeWhile_append_of_pos all, List.dropWhile_append_of_pos all, rest.1, rest.2,
    List.append_nil]
  exact ⟨rfl, rfl⟩

theorem cutAtFirst_of_not_mem {c : Char} {needle : List Char} (hneedle : c ∈ needle)
    {cs : List Char} (absent : c ∉ cs) : cutAtFirst needle cs = none := by
  induction cs with
  | nil =>
      rw [cutAtFirst, if_neg]
      rw [List.isEmpty_iff]
      exact List.ne_nil_of_mem hneedle
  | cons d cs ih =>
      have other : ¬needle.isPrefixOf (d :: cs) = true := fun occurs =>
        absent ((List.isPrefixOf_iff_prefix.mp occurs).subset hneedle)
      rw [cutAtFirst, if_neg other, ih fun hmem => absent (List.mem_cons_of_mem d hmem)]
      rfl

/-- A needle of two characters first occurs behind a text without its second character. -/
theorem cutAtFirst_append {a z : Char} (differ : a ≠ z) {front : List Char} (absent : z ∉ front)
    (back : List Char) : cutAtFirst [a, z] (front ++ a :: z :: back) = some (front, back) := by
  induction front with
  | nil => simp [cutAtFirst]
  | cons c front ih =>
      have other : ¬[a, z].isPrefixOf (c :: (front ++ a :: z :: back)) = true := by
        cases front with
        | nil => simp [differ.symm]
        | cons d front => simp_all
      rw [List.cons_append, cutAtFirst, if_neg other, ih fun hmem =>
        absent (List.mem_cons_of_mem c hmem)]
      rfl

end LogQuery.Text
