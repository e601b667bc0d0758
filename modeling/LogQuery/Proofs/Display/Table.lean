import LogQuery.Display.Table
import LogQuery.Proofs.Text.Joined
import Mathlib.Algebra.GroupWithZero.Nat
import Mathlib.Data.List.Forall2

namespace LogQuery.Display.Table

open Text

/-- What a row shows in a column: its first value of that name, if it has one. -/
def shownIn (row : Row) (column : String) : String :=
  ((row.find? fun cell => cell.field = column).map Cell.value).getD ""

/-- The width of a column: that of its name or of what a row shows in it, whichever is the
largest. -/
def columnWidth (rows : List Row) (column : String) : Nat :=
  rows.foldl (fun width row => max width (shownIn row column).length) column.length

/-- The offset of a column: what the columns before it take, each with a delimiter behind it. -/
def offset (widths : List Nat) (i : Nat) : Nat :=
  ((widths.take i).map fun width => width + 3).sum

/-- What a line shows at the place of a column, without the spaces at its end. -/
def slice (widths : List Nat) (line : String) (i : Nat) : String :=
  String.ofList
    (((line.toList.drop (offset widths i)).take (widths.getD i 0)).rdropWhile (· == ' '))

/-- What a line shows in each column. -/
def slices (widths : List Nat) (line : String) : List String :=
  (List.range widths.length).map (slice widths line)

/-- A text for a cell: on one line and without blanks at its end. -/
structure Plain (s : String) : Prop where
  unbroken : '\n' ∉ s.toList
  full : ∀ c ∈ s.toList.getLast?, isBlank c = false

instance (s : String) : Decidable (Plain s) :=
  decidable_of_iff ('\n' ∉ s.toList ∧ s.toList.getLast?.all (!isBlank ·) = true)
    ⟨fun plain => ⟨plain.1, by simpa [Option.all_eq_true] using plain.2⟩,
      fun plain => ⟨plain.unbroken, by simpa [Option.all_eq_true] using plain.full⟩⟩

/-- The characters of a line of cells before the blanks at its end are taken off. -/
def grid (widths : List Nat) (cells : List String) : List Char :=
  [' ', '|',
    ' '].intercalate (List.zipWith (fun width cell => (pad width cell).toList) widths cells)

theorem toList_line (widths : List Nat) (cells : List String) :
    (line widths cells).toList = stripEnd (grid widths cells) := by
  rw [line, trimEnd, String.toList_ofList, String.toList_intercalate, List.map_zipWith, grid]
  rfl

theorem toList_pad (width : Nat) (s : String) :
    (pad width s).toList = s.toList ++ List.replicate (width - s.length) ' ' := by
  rw [pad, spaces, String.toList_append, String.toList_ofList]

theorem length_pad {width : Nat} {s : String} (fits : s.length ≤ width) :
    (pad width s).toList.length = width := by
  rw [toList_pad, List.length_append, List.length_replicate, String.length_toList]
  omega

theorem grid_singleton (width : Nat) (cell : String) :
    grid [width] [cell] = (pad width cell).toList := by
  simp [grid]

theorem grid_cons (width : Nat) (cell : String) {widths : List Nat} {cells : List String}
    (more : List.zipWith (fun width cell => (pad width cell).toList) widths cells ≠ []) :
    grid (width :: widths) (cell :: cells) =
      (pad width cell).toList ++ [' ', '|', ' '] ++ grid widths cells := by
  rw [grid, List.zipWith_cons_cons, List.intercalate_cons_of_ne_nil more, grid]

section Grid

variable {widths : List Nat} {cells : List String}

/-- Whether each cell has room in its column. -/
abbrev Fit (widths : List Nat) (cells : List String) : Prop :=
  List.Forall₂ (fun width cell => cell.length ≤ width) widths cells

theorem length_grid (fit : Fit widths cells) :
    (grid widths cells).length = widths.sum + 3 * (widths.length - 1) := by
  induction fit with
  | nil => rfl
  | @cons width cell widths cells here rest ih =>
      cases rest with
      | nil => simp [grid_singleton, length_pad here]
      | cons _ _ =>
          rw [grid_cons width cell (by simp), List.length_append, List.length_append, ih,
            length_pad here]
          simp
          omega

/-- The blanks at the end of a line are spaces. -/
theorem exists_grid_eq (fit : Fit widths cells) (plain : ∀ cell ∈ cells, Plain cell) :
    ∃ front count, grid widths cells = front ++ List.replicate count ' ' ∧
      ∀ c ∈ front.getLast?, isBlank c = false := by
  induction fit with
  | nil => exact ⟨[], 0, rfl, by simp⟩
  | @cons width cell widths cells here rest ih =>
      rw [List.forall_mem_cons] at plain
      cases rest with
      | nil =>
          refine ⟨cell.toList, width - cell.length, ?_, plain.1.full⟩
          rw [grid_singleton, toList_pad]
      | cons _ _ =>
          obtain ⟨front, count, same, solid⟩ := ih plain.2
          rw [grid_cons width cell (by simp), same]
          by_cases empty : front = []
          · refine ⟨(pad width cell).toList ++ [' ', '|'], count + 1, ?_, by simp; decide⟩
            rw [empty, List.replicate_succ]
            simp
          · refine ⟨(pad width cell).toList ++ [' ', '|', ' '] ++ front, count, by simp, ?_⟩
            rw [List.getLast?_append_of_ne_nil _ empty]
            exact solid

theorem rdropWhile_pad {s : String} (width : Nat)
    (full : ∀ c ∈ s.toList.getLast?, isBlank c = false) :
    (pad width s).toList.rdropWhile (· == ' ') = s.toList := by
  have spaces : ∀ c ∈ (List.replicate (width - s.length) ' ').reverse, (c == ' ') = true := by
    simp +contextual [List.mem_replicate]
  have solid : ∀ c ∈ s.toList.reverse.head?, (c == ' ') = false := by
    intro c last
    rw [List.head?_reverse] at last
    apply beq_eq_false_iff_ne.mpr
    rintro rfl
    exact absurd (full ' ' last) (by decide)
  rw [toList_pad, List.rdropWhile, List.reverse_append, (run_append spaces solid).2,
    List.reverse_reverse]

theorem offset_succ (width : Nat) (widths : List Nat) (i : Nat) :
    offset (width :: widths) (i + 1) = width + 3 + offset widths i := by
  rw [offset, List.take_succ_cons, List.map_cons, List.sum_cons, offset]

theorem length_column {width : Nat} {cell : String} (here : cell.length ≤ width) :
    ((pad width cell).toList ++ [' ', '|', ' ']).length = width + 3 := by
  rw [List.length_append, length_pad here]
  rfl

theorem slice_zero {width : Nat} {cell : String} (here : cell.length ≤ width) (plain : Plain cell)
    (widths : List Nat) (back : List Char) :
    slice (width :: widths) (String.ofList ((pad width cell).toList ++ back)) 0 = cell := by
  have first : offset (width :: widths) 0 = 0 := rfl
  rw [slice, String.toList_ofList, first, List.drop_zero, List.getD_cons_zero,
    List.take_left' (length_pad here), rdropWhile_pad width plain.full, String.ofList_toList]

theorem slice_succ {width : Nat} {front : List Char} (here : front.length = width + 3)
    (widths : List Nat) (back : List Char) (i : Nat) :
    slice (width :: widths) (String.ofList (front ++ back)) (i + 1) =
      slice widths (String.ofList back) i := by
  rw [slice, String.toList_ofList, offset_succ, ← here, List.drop_length_add_append,
    List.getD_cons_succ, slice, String.toList_ofList]

theorem slices_grid (fit : Fit widths cells) (plain : ∀ cell ∈ cells, Plain cell) :
    slices widths (String.ofList (grid widths cells)) = cells := by
  induction fit with
  | nil => rfl
  | @cons width cell widths cells here rest ih =>
      rw [List.forall_mem_cons] at plain
      have others := ih plain.2
      rw [slices, List.length_cons, List.range_succ_eq_map, List.map_cons, List.map_map]
      cases rest with
      | nil =>
          have first := slice_zero here plain.1 [] []
          rw [List.append_nil, ← grid_singleton] at first
          rw [first]
          rfl
      | cons _ _ =>
          rw [grid_cons width cell (by simp)]
          congr 1
          · rw [List.append_assoc]
            exact slice_zero here plain.1 _ _
          · refine Eq.trans (List.map_congr_left fun i _ => ?_) others
            exact slice_succ (length_column here) _ _ i

/-- Spaces up to the full width make up for what a line has lost. -/
theorem pad_line (fit : Fit widths cells) (plain : ∀ cell ∈ cells, Plain cell) :
    pad (widths.sum + 3 * (widths.length - 1)) (line widths cells) =
      String.ofList (grid widths cells) := by
  obtain ⟨front, count, same, solid⟩ := exists_grid_eq fit plain
  have length := length_grid fit
  have blanks : ∀ c ∈ List.replicate count ' ', isBlank c = true := by
    intro c hmem
    rw [(List.mem_replicate.mp hmem).2]
    decide
  have stripped : (line widths cells).toList = front := by
    rw [toList_line, same, stripEnd_append_of_blank blanks, stripEnd_eq_self solid]
  rw [← String.toList_inj, toList_pad, ← String.length_toList, stripped, String.toList_ofList,
    same, ← length, same]
  simp

theorem delimiter_grid (fit : Fit widths cells) {i : Nat} (more : i + 1 < widths.length) :
    ((grid widths cells).drop (offset widths i + widths.getD i 0)).take 3 = delimiter.toList := by
  induction fit generalizing i with
  | nil => cases more
  | @cons width cell widths cells here rest ih =>
      cases rest with
      | nil => simp at more
      | @cons next _ widths _ _ _ =>
          rw [grid_cons width cell (by simp)]
          cases i with
          | zero =>
              have behind : offset (width :: next :: widths) 0 +
                (width :: next :: widths).getD 0 0 =
                  (pad width cell).toList.length := by
                rw [length_pad here]
                exact Nat.zero_add width
              rw [behind, List.append_assoc, List.drop_left]
              rfl
          | succ i =>
              rw [offset_succ, ← length_column here, List.getD_cons_succ, Nat.add_assoc,
                List.drop_length_add_append]
              exact ih (Nat.lt_of_succ_lt_succ more)

theorem not_mem_grid (fit : Fit widths cells) (plain : ∀ cell ∈ cells, Plain cell) :
    '\n' ∉ grid widths cells := by
  have cell {width : Nat} {s : String} (plain : Plain s) : '\n' ∉ (pad width s).toList := by
    simp [toList_pad, plain.unbroken, List.mem_replicate]
  induction fit with
  | nil => simp [grid]
  | @cons width first widths cells _ rest ih =>
      rw [List.forall_mem_cons] at plain
      cases rest with
      | nil =>
          rw [grid_singleton]
          exact cell plain.1
      | cons _ _ =>
          rw [grid_cons width first (by simp)]
          simp [cell plain.1, ih plain.2]

end Grid

section Render

variable {columns : List String} {rows : List Row}

theorem cells_eq (columns : List String) (row : Row) :
    cells columns row = columns.map (shownIn row) :=
  rfl

theorem widths_eq (columns : List String) (rows : List Row) :
    widths columns (rows.map (cells columns)) = columns.map (columnWidth rows) := by
  suffices widened : ∀ width : String → Nat,
      rows.foldl (fun widths row =>
        List.zipWith (fun width cell => max width cell.length) widths (cells columns row))
        (columns.map width) =
        columns.map fun column =>
          rows.foldl (fun width row => max width (shownIn row column).length) (width column) by
    rw [widths, List.foldl_map]
    exact widened String.length
  induction rows with
  | nil => exact fun _ => rfl
  | cons row rows ih =>
      intro width
      rw [List.foldl_cons, cells_eq, List.zipWith_map, List.zipWith_self]
      exact ih fun column => max (width column) (shownIn row column).length

theorem le_columnWidth (rows : List Row) (column : String) :
    column.length ≤ columnWidth rows column ∧
    ∀ row ∈ rows, (shownIn row column).length ≤ columnWidth rows column := by
  suffices grows : ∀ width,
    width ≤ rows.foldl (fun width row => max width (shownIn row column).length) width ∧
      ∀ row ∈ rows, (shownIn row column).length ≤
        rows.foldl (fun width row =>
          max width (shownIn row column).length) width from grows column.length
  induction rows with
  | nil => simp
  | cons row rows ih =>
      intro width
      obtain ⟨before, rest⟩ := ih (max width (shownIn row column).length)
      rw [List.foldl_cons, List.forall_mem_cons]
      exact ⟨(Nat.le_max_left _ _).trans before, (Nat.le_max_right _ _).trans before, rest⟩

theorem fit_header (columns : List String) (rows : List Row) :
    Fit (columns.map (columnWidth rows)) columns := by
  rw [Fit, List.forall₂_map_left_iff, List.forall₂_same]
  exact fun column _ => (le_columnWidth rows column).1

theorem fit_row (columns : List String) {row : Row} (hmem : row ∈ rows) :
    Fit (columns.map (columnWidth rows)) (columns.map (shownIn row)) := by
  rw [Fit, List.forall₂_map_left_iff, List.forall₂_map_right_iff, List.forall₂_same]
  exact fun column _ => (le_columnWidth rows column).2 row hmem

theorem not_mem_line {widths : List Nat} {cells : List String} (fit : Fit widths cells)
    (plain : ∀ cell ∈ cells, Plain cell) : '\n' ∉ (line widths cells).toList := by
  rw [toList_line]
  exact fun hmem => not_mem_grid fit plain ((stripEnd_prefix_self _).subset hmem)

theorem plain_of_row (values : ∀ row ∈ rows, ∀ column ∈ columns, Plain (shownIn row column))
    {row : Row} (hmem : row ∈ rows) : ∀ cell ∈ columns.map (shownIn row), Plain cell :=
  List.forall_mem_map.mpr (values row hmem)

theorem splitOn_render (names : ∀ column ∈ columns, Plain column)
    (values : ∀ row ∈ rows, ∀ column ∈ columns, Plain (shownIn row column)) :
    splitOn '\n' (render columns rows) =
      line (columns.map (columnWidth rows)) columns ::
        String.ofList (List.replicate (fullWidth (columns.map (columnWidth rows))) '-') ::
          rows.map fun row =>
            line (columns.map (columnWidth rows)) (columns.map (shownIn row)) := by
  have rendered : render columns rows = (String.singleton '\n').intercalate
      (line (columns.map (columnWidth rows)) columns ::
        String.ofList (List.replicate (fullWidth (columns.map (columnWidth rows))) '-') ::
          rows.map fun row =>
            line (columns.map (columnWidth rows)) (columns.map (shownIn row))) := by
    rw [render, widths_eq, List.map_map]
    rfl
  rw [rendered, splitOn_intercalate _ (List.cons_ne_nil _ _)]
  rw [List.forall_mem_cons, List.forall_mem_cons, List.forall_mem_map]
  refine ⟨not_mem_line (fit_header columns rows) names, ?_, fun row hmem => ?_⟩
  · simp [List.mem_replicate]
  · exact not_mem_line (fit_row columns hmem) (plain_of_row values hmem)

/-- Each line of a table, padded to the length of the dashes, shows at the place of a column what
stands in it, and between two columns the delimiter. -/
theorem shown_cells_are_recovered (names : ∀ column ∈ columns, Plain column)
    (values : ∀ row ∈ rows, ∀ column ∈ columns, Plain (shownIn row column)) :
    let widths := columns.map (columnWidth rows)
    let total := widths.sum + 3 * (columns.length - 1)
    let text := render columns rows
    (splitOn '\n' text).length = rows.length + 2 ∧
    ∃ header body,
      splitOn '\n' text = header :: String.ofList (List.replicate total '-') :: body ∧
      slices widths (pad total header) = columns ∧
      body.map (fun line => slices widths (pad total line)) =
        rows.map (fun row => columns.map (shownIn row)) ∧
      ∀ line ∈ header :: body, (pad total line).length = total ∧
        ∀ i, i + 1 < columns.length →
          ((pad total line).toList.drop (offset widths i + widths.getD i 0)).take 3 =
            delimiter.toList := by
  intro widths total text
  have size : widths.length = columns.length := List.length_map _
  have full : fullWidth widths = total := by
    rw [fullWidth, size]
    rfl
  have lines := splitOn_render names values
  rw [full] at lines
  have padded {cells : List String} (fit : Fit widths cells)
    (plain : ∀ cell ∈ cells, Plain cell) :
      pad total (line widths cells) = String.ofList (grid widths cells) := by
    rw [← pad_line fit plain, size]
  have laid {cells : List String} (fit : Fit widths cells) (plain : ∀ cell ∈ cells, Plain cell) :
      (pad total (line widths cells)).length = total ∧ ∀ i, i + 1 < columns.length →
        ((pad total (line widths cells)).toList.drop (offset widths i + widths.getD i 0)).take 3 =
          delimiter.toList := by
    rw [padded fit plain, String.toList_ofList, String.length_ofList, length_grid fit, size]
    exact ⟨rfl, fun i more => delimiter_grid fit (size.symm ▸ more)⟩
  refine ⟨?_, _, _, lines, ?_, ?_, ?_⟩
  · rw [lines]
    simp
  · rw [padded (fit_header columns rows) names, slices_grid (fit_header columns rows) names]
  · rw [List.map_map]
    refine List.map_congr_left fun row hmem => ?_
    have fit := fit_row columns hmem
    change slices widths (pad total (line widths (columns.map (shownIn row)))) = _
    rw [padded fit (plain_of_row values hmem), slices_grid fit (plain_of_row values hmem)]
  · rw [List.forall_mem_cons, List.forall_mem_map]
    exact ⟨laid (fit_header columns rows) names,
      fun row hmem => laid (fit_row columns hmem) (plain_of_row values hmem)⟩

theorem shown_cells_are_recovered_delimiter :
    let rows := [[⟨"note", "a | b"⟩], [], [⟨"id", "é7"⟩, ⟨"id", "8"⟩]]
    let columns := ["id", "note", "id"]
    (∀ column ∈ columns, Plain column) ∧
      (∀ row ∈ rows, ∀ column ∈ columns, Plain (shownIn row column)) ∧
      render columns rows =
        "id | note  | id\n---------------\n   | a | b |\n   |       |\né7 |       | é7" ∧
      (splitOn '\n' (render columns rows)).length = 5 ∧
      ∃ header body, splitOn '\n' (render columns rows) = header :: "---------------" :: body ∧
        slices [2, 5, 2] (pad 15 header) = columns ∧
        body.map (fun line => slices [2, 5, 2] (pad 15 line)) =
          [["", "a | b", ""], ["", "", ""], ["é7", "", "é7"]] := by
  intro rows columns
  have names : ∀ column ∈ columns, Plain column := by decide +kernel
  have values : ∀ row ∈ rows, ∀ column ∈ columns, Plain (shownIn row column) := by decide +kernel
  obtain ⟨count, header, body, lines, top, below, -⟩ := shown_cells_are_recovered names values
  exact ⟨names, values, by decide +kernel, count, header, body, lines, top, below⟩

end Render

end LogQuery.Display.Table
