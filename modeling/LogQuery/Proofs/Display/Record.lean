import LogQuery.Display.Record
import LogQuery.Proofs.Display.Table
import LogQuery.Proofs.Json.Canonical
import LogQuery.Proofs.Ordering
import LogQuery.Proofs.Text.Lines
import LogQuery.Service.Api

namespace LogQuery.Display

open Text

section Order

variable {record : LogRecord}

/-- Whether a field is shown above another: by name without regard to case, then by name as it
is. -/
def Above (a b : String × String) : Prop :=
  lowercase a.1 < lowercase b.1 ∨ lowercase a.1 = lowercase b.1 ∧ a.1 < b.1

instance (a b : String × String) : Decidable (Above a b) :=
  inferInstanceAs (Decidable (_ ∨ _ ∧ _))

theorem Above.asymm {a b : String × String} (ab : Above a b) : ¬Above b a := by
  rintro (back | ⟨same, back⟩)
  · rcases ab with lt | ⟨same, -⟩
    · exact String.lt_asymm lt back
    · exact String.lt_irrefl _ (same ▸ back)
  · rcases ab with lt | ⟨-, lt⟩
    · exact String.lt_irrefl _ (same ▸ lt)
    · exact String.lt_asymm lt back

theorem ascending_of_logRecord {region pointer : String} {response : HttpResponse}
    (h : Api.logRecord region pointer response = .ok record) : Json.Ascending record := by
  unfold Api.logRecord at h
  cases answer : (Operation.logRecord pointer).answer region response with
  | error causes =>
      rw [answer] at h
      cases h
  | ok value =>
      simp only [answer, Except.bind, bind] at h
      split at h
      · cases h
        exact Json.ascending_sortMembers _
      · cases h
        exact .nil

theorem recordFields_perm (record : LogRecord) :
    (recordFields record).Perm (record.map fun cell => (cell.1, shownValue cell.1 cell.2)) :=
  List.mergeSort_perm _ _

theorem pairwise_above_recordFields (ascending : Json.Ascending record) :
    (recordFields record).Pairwise Above := by
  have before :
      (record.map fun cell => (cell.1, shownValue cell.1 cell.2)).Pairwise fun a b =>
        a.1 < b.1 := by
    rwa [List.pairwise_map]
  refine (pairwise_mergeSort_of_pairwise (fun a b c => ?_) (fun a b => ?_) before).imp ?_
  · simpa using String.le_trans
  · simpa using String.le_total (lowercase a.1) (lowercase b.1)
  · rintro a b ⟨le, tied⟩
    rw [decide_eq_true_eq] at le tied
    by_cases back : lowercase b.1 ≤ lowercase a.1
    · exact .inr ⟨String.le_antisymm le back, tied back⟩
    · exact .inl (String.not_le.mp back)

/-- No other list of the fields is in this order. -/
theorem recordFields_eq {fields : List (String × String)} (ascending : Json.Ascending record)
    (perm : fields.Perm (record.map fun cell => (cell.1, shownValue cell.1 cell.2)))
    (above : fields.Pairwise Above) :
    recordFields record = fields :=
  ((recordFields_perm record).trans perm.symm).eq_of_pairwise (fun _ _ _ _ ab ba =>
    absurd ba ab.asymm)
    (pairwise_above_recordFields ascending) above

end Order

section Layout

variable {width : Nat} {name : String}

def shownLines (value : String) : List String :=
  if lines value = [] then [""] else lines value

/-- Whether lines show a field: its name in front of the first one, and the lines of its value at
one place. -/
structure Shows (width : Nat) (field : String × String) (block : List String) : Prop where
  first : ∀ line ∈ block.head?, (pad width field.1).toList ++ [' ', ' '] <+: line.toList
  others : ∀ line ∈ block.tail, List.replicate (width + 2) ' ' <+: line.toList
  values : block.map (fun line => String.ofList (line.toList.drop (width + 2))) =
    shownLines field.2

theorem drop_front {front : String} (length : front.toList.length = width + 2) (line : String) :
    String.ofList ((front ++ line).toList.drop (width + 2)) = line := by
  rw [String.toList_append, ← length, List.drop_left, String.ofList_toList]

theorem shownLines_eq_cons (value : String) :
    shownLines value = (lines value).head?.getD "" :: (lines value).tail := by
  unfold shownLines
  cases lines value <;> rfl

theorem shows_fieldLines (fits : name.length ≤ width) (value : String) :
    Shows width (name, value) (fieldLines width name value) where
  first line head := by
    obtain rfl := Option.some.inj head
    rw [String.toList_append, String.toList_append]
    exact List.prefix_append _ _
  others line hmem := by
    obtain ⟨rest, -, rfl⟩ := List.mem_map.mp hmem
    rw [String.toList_append, spaces, String.toList_ofList]
    exact List.prefix_append _ _
  values := by
    have front : (pad width name ++ spaces 2).toList.length = width + 2 := by
      rw [String.toList_append, List.length_append, Table.length_pad fits]
      rfl
    have below : (spaces (width + 2)).toList.length = width + 2 := by
      rw [spaces, String.toList_ofList, List.length_replicate]
    have each : ∀ rest ∈ (lines value).tail,
        String.ofList ((spaces (width + 2) ++ rest).toList.drop (width + 2)) = rest :=
      fun rest _ => drop_front below rest
    rw [fieldLines, List.map_cons, List.map_map, drop_front front, shownLines_eq_cons]
    exact congrArg _ ((List.map_congr_left each).trans (List.map_id' _))

theorem unbroken_spaces (count : Nat) : '\n' ∉ (spaces count).toList := by
  rw [spaces, String.toList_ofList]
  simp [List.mem_replicate]

theorem unbroken_fieldLines (unbroken : '\n' ∉ name.toList) (value : String) :
    ∀ line ∈ fieldLines width name value, '\n' ∉ line.toList := by
  have shown : ∀ line ∈ shownLines value, '\n' ∉ line.toList := by
    unfold shownLines
    split
    · simp
    · exact fun line hmem => unbroken_of_mem_lines hmem
  rw [shownLines_eq_cons, List.forall_mem_cons] at shown
  rw [fieldLines, List.forall_mem_cons, List.forall_mem_map]
  constructor
  · simp only [pad, String.toList_append, List.mem_append, not_or]
    exact ⟨⟨⟨unbroken, unbroken_spaces _⟩, unbroken_spaces 2⟩, shown.1⟩
  · intro line hmem
    rw [String.toList_append, List.mem_append, not_or]
    exact ⟨unbroken_spaces _, shown.2 line hmem⟩

theorem foldl_max_spec (lengths : List Nat) :
    (∀ length ∈ lengths, length ≤ lengths.foldl max 0) ∧
    (lengths ≠ [] → lengths.foldl max 0 ∈ lengths) := by
  rw [List.foldl_max, Nat.zero_max]
  cases greatest : lengths.max? with
  | none =>
      rw [List.max?_eq_none_iff] at greatest
      subst greatest
      simp
  | some width =>
      obtain ⟨hmem, le⟩ := List.max?_eq_some_iff.mp greatest
      exact ⟨le, fun _ => hmem⟩

def nameWidth (record : LogRecord) : Nat :=
  ((recordFields record).map fun field => field.1.length).foldl max 0

variable {record : LogRecord}

theorem nameLengths_perm (record : LogRecord) :
    ((recordFields record).map fun field => field.1.length).Perm (record.map fun cell =>
      cell.1.length) := by
  simpa [Function.comp_def] using (recordFields_perm record).map fun field => field.1.length

theorem le_nameWidth (record : LogRecord) :
    ∀ cell ∈ record, cell.1.length ≤ nameWidth record := by
  intro cell hmem
  apply (foldl_max_spec _).1
  rw [(nameLengths_perm record).mem_iff]
  exact List.mem_map_of_mem hmem

theorem exists_length_eq_nameWidth (some : record ≠ []) :
    ∃ cell ∈ record, cell.1.length = nameWidth record := by
  have lengths := nameLengths_perm record
  have nonempty : (recordFields record).map (fun field => field.1.length) ≠ [] := by
    intro empty
    rw [empty, List.nil_perm, List.map_eq_nil_iff] at lengths
    exact some lengths
  exact List.mem_map.mp (lengths.mem_iff.mp ((foldl_max_spec _).2 nonempty))

theorem name_of_mem_recordFields {field : String × String} (hmem : field ∈ recordFields record) :
    ∃ cell ∈ record, cell.1 = field.1 := by
  obtain ⟨cell, known, rfl⟩ := List.mem_map.mp ((recordFields_perm record).mem_iff.mp hmem)
  exact ⟨cell, known, rfl⟩

theorem splitOn_recordText (unbroken : ∀ cell ∈ record, '\n' ∉ cell.1.toList) :
    splitOn '\n' (recordText record) =
      ((recordFields record).map fun field =>
        fieldLines (nameWidth record) field.1 field.2).flatten ++ [""] := by
  rw [← List.flatMap_def]
  refine splitOn_join_feeds fun line hmem => ?_
  obtain ⟨field, known, within⟩ := List.mem_flatMap.mp hmem
  obtain ⟨cell, original, same⟩ := name_of_mem_recordFields known
  exact unbroken_fieldLines (same ▸ unbroken cell original) field.2 line within

theorem forall₂_shows (record : LogRecord) :
    List.Forall₂ (Shows (nameWidth record)) (recordFields record)
      ((recordFields record).map fun field => fieldLines (nameWidth record) field.1 field.2) := by
  rw [List.forall₂_map_right_iff, List.forall₂_same]
  intro field hmem
  obtain ⟨cell, known, same⟩ := name_of_mem_recordFields hmem
  exact shows_fieldLines (same ▸ le_nameWidth record cell known) field.2

end Layout

end LogQuery.Display
