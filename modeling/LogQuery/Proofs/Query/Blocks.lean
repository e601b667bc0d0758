import LogQuery.Proofs.Query.Contents
import LogQuery.Query.Block
import Mathlib.Data.List.TakeWhile

namespace LogQuery

open Text

namespace Block

section Runs

variable {line next : String} {rest : List String}

theorem runs_cons_of_blank (hb : blank line = true) (rest : List String) :
    runs (line :: rest) = runs rest := by
  conv_lhs => unfold runs
  exact if_pos hb

theorem runs_singleton (hb : blank line = false) : runs [line] = [[line]] := by
  simp [runs, hb]

theorem runs_cons_cons_of_blank (hb : blank line = false) (hnext : blank next = true)
    (rest : List String) : runs (line :: next :: rest) = [line] :: runs (next :: rest) := by
  conv_lhs => unfold runs
  cases runs (next :: rest) <;> simp [hb, hnext]

theorem runs_cons_cons_of_solid (hb : blank line = false) (hnext : blank next = false)
    (rest : List String) : ∃ run more, runs (next :: rest) = run :: more ∧
      runs (line :: next :: rest) = (line :: run) :: more := by
  have joined : ∀ run more, runs (next :: rest) = run :: more →
      runs (line :: next :: rest) = (line :: run) :: more := by
    intro run more told
    conv_lhs => unfold runs
    simp [told, hb, hnext]
  have some : runs (next :: rest) ≠ [] := by
    unfold runs
    simp only [hnext, Bool.false_eq_true, if_false]
    split
    · split <;> simp
    · simp
  obtain ⟨run, more, told⟩ := List.exists_cons_of_ne_nil some
  exact ⟨run, more, told, joined run more told⟩

theorem runs_append {above below : List String}
    (apart : (∀ line ∈ above.getLast?, blank line = true) ∨
      ∀ line ∈ below.head?, blank line = true) :
    runs (above ++ below) = runs above ++ runs below := by
  induction above with
  | nil => rfl
  | cons line above ih =>
      cases hb : blank line with
      | true =>
          rw [List.cons_append, runs_cons_of_blank hb, runs_cons_of_blank hb]
          cases above with
          | nil => rfl
          | cons next above => exact ih (apart.imp_left fun blanks => by simpa using blanks)
      | false =>
          cases above with
          | nil =>
              have ends : ∀ next ∈ below.head?, blank next = true :=
                apart.resolve_left fun blanks => by simp [hb] at blanks
              rw [runs_singleton hb]
              cases below with
              | nil => exact runs_singleton hb
              | cons next below => exact runs_cons_cons_of_blank hb (ends next rfl) below
          | cons next above =>
              have ih := ih (apart.imp_left fun blanks => by simpa using blanks)
              cases hnext : blank next with
              | true =>
                  calc runs (line :: next :: (above ++ below))
                      = [line] :: runs (next :: above ++ below) :=
                        runs_cons_cons_of_blank hb hnext (above ++ below)
                    _ = [line] :: runs (next :: above) ++
                      runs below := by rw [ih, List.cons_append]
                    _ = runs (line :: next :: above) ++ runs below := by
                        rw [runs_cons_cons_of_blank hb hnext]
              | false =>
                  obtain ⟨run, more, told, joined⟩ := runs_cons_cons_of_solid hb hnext above
                  obtain ⟨run', more', told', joined'⟩ :=
                    runs_cons_cons_of_solid hb hnext (above ++ below)
                  rw [List.cons_append, told', told, List.cons_append, List.cons.injEq] at ih
                  rw [joined, List.cons_append, List.cons_append, joined', ih.1, ih.2]
                  rfl

theorem runs_of_blanks {ls : List String} (blanks : ∀ line ∈ ls, blank line = true) :
    runs ls = [] := by
  induction ls with
  | nil => rfl
  | cons line ls ih =>
      obtain ⟨hb, blanks⟩ := List.forall_mem_cons.mp blanks
      rw [runs_cons_of_blank hb, ih blanks]

theorem runs_of_solid {run : List String} (solid : ∀ line ∈ run, blank line = false)
    (nonempty : run ≠ []) : runs run = [run] := by
  induction run with
  | nil => exact absurd rfl nonempty
  | cons line run ih =>
      obtain ⟨hb, solid⟩ := List.forall_mem_cons.mp solid
      cases run with
      | nil => exact runs_singleton hb
      | cons next run =>
          obtain ⟨hnext, -⟩ := List.forall_mem_cons.mp solid
          obtain ⟨run', more, told, joined⟩ := runs_cons_cons_of_solid hb hnext run
          rw [ih solid (List.cons_ne_nil next run), List.cons.injEq] at told
          rw [joined, ← told.1, ← told.2]

end Runs

/-- Lines that are not blank, with no such line next to them. -/
structure IsRun (above run below : List String) : Prop where
  nonempty : run ≠ []
  solid : ∀ line ∈ run, blank line = false
  start : ∀ line ∈ above.getLast?, blank line = true
  stop : ∀ line ∈ below.head?, blank line = true

namespace IsRun

variable {above run below : List String}

theorem runs_eq (h : IsRun above run below) :
    runs (above ++ run ++ below) = runs above ++ run :: runs below := by
  rw [runs_append (.inr h.stop), runs_append (.inl h.start), runs_of_solid h.solid h.nonempty,
    List.append_assoc, List.singleton_append]

theorem blank_unlines (h : IsRun above run below) : blank (unlines run) = false := by
  obtain ⟨line, rest, rfl⟩ := List.exists_cons_of_ne_nil h.nonempty
  rw [blank_unlines_cons, h.solid line (List.mem_cons_self ..)]
  rfl

end IsRun

section Around

variable (front back : List String)

/-- What stands above the run of the line between `front` and `back`. -/
def aboveRun : List String := front.rdropWhile fun line => !blank line

/-- What stands below the run of the line between `front` and `back`. -/
def belowRun : List String := back.dropWhile fun line => !blank line

/-- The run of a line between `front` and `back`. -/
def runAround (line : String) : List String :=
  front.rtakeWhile (fun line => !blank line) ++ line :: back.takeWhile fun line => !blank line

theorem aboveRun_append :
    aboveRun front ++ front.rtakeWhile (fun line => !blank line) = front :=
  List.rdropWhile_append_rtakeWhile

theorem runAround_split (line : String) :
    aboveRun front ++ runAround front back line ++ belowRun back = front ++ line :: back := by
  have below : back.takeWhile (fun line => !blank line) ++ belowRun back = back :=
    List.takeWhile_append_dropWhile
  rw [runAround, ← List.append_assoc, aboveRun_append, List.append_assoc, List.cons_append, below]

theorem runAround_holds (line : String) : (aboveRun front).length ≤ front.length ∧
    front.length < (aboveRun front).length + (runAround front back line).length := by
  have above := congrArg List.length (aboveRun_append front)
  rw [List.length_append] at above
  simp only [runAround, List.length_append, List.length_cons]
  omega

theorem isRun_runAround {line : String} (solid : blank line = false) :
    IsRun (aboveRun front) (runAround front back line) (belowRun back) where
  nonempty := by simp [runAround]
  solid := by
    simp only [runAround, List.mem_append, List.mem_cons]
    rintro l (hmem | rfl | hmem)
    · simpa using List.mem_rtakeWhile_imp hmem
    · exact solid
    · simpa using List.mem_takeWhile_imp hmem
  start := by
    intro l last
    have nonempty : aboveRun front ≠ [] := by
      rintro empty
      rw [empty] at last
      cases last
    have ends := List.rdropWhile_last_not (fun line => !blank line) front nonempty
    rw [List.getLast?_eq_some_getLast nonempty, Option.mem_some_iff] at last
    subst last
    simpa [aboveRun] using ends
  stop := by
    intro l head
    have ends := List.head?_dropWhile_not (fun line => !blank line) back
    rw [← belowRun, Option.mem_def.mp head] at ends
    simpa using ends

end Around

/-- Whether lines fall into these runs, with blank lines before, between and behind them. -/
inductive Divided : List String → List (List String) → Prop
  | blanks (ls : List String) (blanks : ∀ line ∈ ls, blank line = true) : Divided ls []
  | run (above run below : List String) (more : List (List String))
      (blanks : ∀ line ∈ above, blank line = true) (isRun : IsRun above run below)
      (divided : Divided below more) : Divided (above ++ run ++ below) (run :: more)

theorem aboveRun_eq_self {front : List String} (blanks : ∀ line ∈ front, blank line = true) :
    aboveRun front = front := by
  refine List.rdropWhile_eq_self_iff.mpr fun nonempty => ?_
  simpa using blanks _ (List.getLast_mem nonempty)

theorem divided_runs (ls : List String) : Divided ls (runs ls) := by
  have blanks : ∀ line ∈ ls.takeWhile blank, blank line = true := fun _ => List.mem_takeWhile_imp
  cases told : ls.dropWhile blank with
  | nil =>
      have all := List.dropWhile_eq_nil_iff.mp told
      rw [runs_of_blanks all]
      exact .blanks ls all
  | cons line back =>
      have solid : blank line = false := by
        have head := List.head?_dropWhile_not blank ls
        rw [told] at head
        simpa using head
      have split : ls = ls.takeWhile blank ++ line :: back := by
        rw [← told, List.takeWhile_append_dropWhile]
      have isRun := isRun_runAround (ls.takeWhile blank) back solid
      have whole := runAround_split (ls.takeWhile blank) back line
      rw [aboveRun_eq_self blanks] at isRun whole
      have shorter : (belowRun back).length < ls.length := by
        have dropped : (belowRun back).length ≤ back.length := List.length_dropWhile_le _ back
        rw [split, List.length_append, List.length_cons]
        omega
      have below := divided_runs (belowRun back)
      have told := isRun.runs_eq
      rw [whole, ← split, runs_of_blanks blanks] at told
      rw [told]
      conv => arg 1; rw [split, ← whole]
      exact .run _ _ _ _ blanks isRun below
termination_by ls.length

namespace Divided

variable {ls : List String} {groups : List (List String)}

theorem flatten (h : Divided ls groups) : groups.flatten = ls.filter fun line => !blank line := by
  induction h with
  | blanks ls blanks =>
      rw [List.filter_eq_nil_iff.mpr (by simpa using blanks)]
      rfl
  | run above run below more blanks isRun divided ih =>
      have gone : above.filter (fun line => !blank line) = [] := by simpa using blanks
      have kept : run.filter (fun line => !blank line) = run := by simpa using isRun.solid
      rw [List.flatten_cons, ih, List.filter_append, List.filter_append, gone, kept,
        List.nil_append]

theorem blank_unlines (h : Divided ls groups) :
    ∀ group ∈ groups, blank (unlines group) = false := by
  induction h with
  | blanks => simp
  | run above run below more blanks isRun divided ih =>
      exact List.forall_mem_cons.mpr ⟨isRun.blank_unlines, ih⟩

end Divided

/-! ### The block around a line -/

theorem around_eq {ls : List String} {number : Nat} {front back : List String} {line : String}
    (split : ls = front ++ line :: back) (here : min number (ls.length - 1) = front.length)
    (solid : blank line = false) : around ls number = runAround front back line := by
  have at_line : ls[front.length]? = some line := by simp [split]
  have above : ls.take front.length = front := by simp [split]
  have below : ls.drop (front.length + 1) = back := by simp [split]
  simp only [around, here, at_line, above, below, solid, Bool.false_eq_true, if_false]
  rfl

/-- The blank lines next to a run make no difference to its block. -/
theorem IsRun.trim_beside {above run below : List String} (h : IsRun above run below) :
    trim (unlines (above.getLast?.toList ++ run ++ below.head?.toList)) = trim (unlines run) := by
  have behind : trim (unlines (above.getLast?.toList ++ run ++ below.head?.toList)) =
      trim (unlines (above.getLast?.toList ++ run)) := by
    cases head : below.head? with
    | none => rw [Option.toList_none, List.append_nil]
    | some line => exact trim_unlines_concat_of_blank (h.stop line head) _
  rw [behind]
  cases last : above.getLast? with
  | none => rfl
  | some line => exact trim_unlines_cons_of_blank (h.start line last) run

/-- Around a line that is not blank the block is the longest run of such lines that holds it. It
reads as the block that the run makes among all blocks. -/
theorem focused_is_run_of_line (text : String) :
    Divided (lines text) (runs (lines text)) ∧ ofText text = (runs (lines text)).map unlines ∧
    (runs (lines text)).flatten = (lines text).filter (fun line => !blank line) ∧
    (∀ block ∈ ofText text, block ≠ "") ∧
    ∀ number, let here := min number ((lines text).length - 1)
      ((∀ line ∈ (lines text)[here]?, blank line = true) → focused text number = "") ∧
      ∀ line, (lines text)[here]? = some line → blank line = false →
        ∃ above run below, lines text = above ++ run ++ below ∧ IsRun above run below ∧
          above.length ≤ here ∧ here < above.length + run.length ∧
          ofText text = (runs above).map unlines ++ unlines run :: (runs below).map unlines ∧
          focused text number = trim (unlines run) ∧
          focused text number =
            trim (unlines (above.getLast?.toList ++ run ++ below.head?.toList)) ∧
          ∀ now previousTitle?,
            (Query.read now previousTitle? (focused text number)).map Query.withoutSource =
              (Query.read now previousTitle? (unlines run)).map Query.withoutSource := by
  have divided := divided_runs (lines text)
  refine ⟨divided, rfl, divided.flatten, ?_, fun number => ?_⟩
  · intro block hmem
    obtain ⟨group, hgroup, rfl⟩ := List.mem_map.mp hmem
    rintro empty
    have solid := divided.blank_unlines group hgroup
    rw [empty] at solid
    cases solid
  intro here
  constructor
  · intro blanks
    have none : around (lines text) number = [] := by
      simp only [around]
      split
      · rfl
      · next line there => rw [if_pos (blanks line there)]
    rw [focused, none]
    rfl
  · intro line there solid
    obtain ⟨inside, rfl⟩ := List.getElem?_eq_some_iff.mp there
    have split : lines text = (lines text).take here ++
        (lines text)[here] :: (lines text).drop (here + 1) := by
      rw [List.getElem_cons_drop, List.take_append_drop]
    have length : ((lines text).take here).length = here := by simp [inside.le]
    have isRun := isRun_runAround ((lines text).take here) ((lines text).drop (here + 1)) solid
    have whole := runAround_split ((lines text).take here) ((lines text).drop (here + 1))
      (lines text)[here]
    have around := around_eq split length.symm solid
    rw [← split] at whole
    have told := isRun.runs_eq
    rw [whole] at told
    have shown : focused text number = trim (unlines (runAround ((lines text).take here)
        ((lines text).drop (here + 1)) (lines text)[here])) := by
      rw [focused, around]
    obtain ⟨start, stop⟩ :=
      runAround_holds ((lines text).take here) ((lines text).drop (here + 1))
      (lines text)[here]
    rw [length] at start stop
    refine ⟨_, _, _, whole.symm, isRun, start, stop, ?_, shown, ?_, ?_⟩
    · rw [ofText, told, List.map_append, List.map_cons]
    · rw [isRun.trim_beside, shown]
    · rw [shown]
      exact fun now previousTitle? => Query.read_trim now previousTitle? _

theorem focused_is_run_of_line_past_end :
    let text := "a\n \n  b\r\nc \n"
    lines text = ["a", " ", "  b", "c "] ∧ ofText text = ["a", "  b\nc "] ∧ focused text 1 = "" ∧
      focused text 9 = "b\nc" ∧ ∃ above run below, lines text = above ++ run ++ below ∧
        IsRun above run below ∧ above.length ≤ 3 ∧ focused text 9 = trim (unlines run) := by
  intro text
  have all : lines text = ["a", " ", "  b", "c "] := by decide
  obtain ⟨-, -, -, -, around⟩ := focused_is_run_of_line text
  have blank : focused text 1 = "" := (around 1).1 (by decide)
  have last : (lines text)[min 9 ((lines text).length - 1)]? = some "c " := by decide
  obtain ⟨above, run, below, split, isRun, start, -, -, shown, -⟩ :=
    (around 9).2 "c " last (by decide)
  exact ⟨all,
    by decide, blank, by decide, above, run, below, split, isRun, start.trans (by decide), shown⟩

end Block

end LogQuery
