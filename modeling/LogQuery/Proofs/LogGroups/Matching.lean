import LogQuery.LogGroups.Pattern
import LogQuery.Proofs.Text.Joined
import Mathlib.Data.List.Forall2

namespace LogQuery.LogGroups

open Text

/-- Whether two texts have the same letters in either case, one by one. -/
def SameLetters : List Char → List Char → Prop :=
  List.Forall₂ fun c d => foldCase c = foldCase d

instance : DecidableRel SameLetters :=
  inferInstanceAs (DecidableRel (List.Forall₂ _))

/-- Whether a name is made of these pieces in either letter case, with a run of characters
without a line feed in front of each piece but the first. -/
def IsInstance (pieces : List (List Char)) (name : List Char) : Prop :=
  ∃ (first : List Char) (later : List (List Char × List Char)),
    name = first ++ later.flatMap (fun (run, text) => run ++ text) ∧
    List.Forall₂ SameLetters pieces (first :: later.map Prod.snd) ∧
    ∀ part ∈ later, '\n' ∉ part.1

section Suffixes

variable (holds : List Char → Prop)

/-- Whether a text has the letter `p` in front of a rest of which `holds` is true. -/
def BehindLetter (p : Char) (cs : List Char) : Prop :=
  ∃ c rest, cs = c :: rest ∧ foldCase p = foldCase c ∧ holds rest

/-- Whether a text has a run of characters without a line feed in front of a rest of which
`holds` is true. -/
def BehindRun (cs : List Char) : Prop :=
  ∃ run rest, cs = run ++ rest ∧ '\n' ∉ run ∧ holds rest

/-- Whether a row tells of each suffix of a name, longest first, if `holds` is true of it. -/
inductive TellsSuffixes : List Char → List Bool → Prop
  | nil {here : Bool} (iff : here = true ↔ holds []) : TellsSuffixes [] [here]
  | cons {c : Char} {cs : List Char} {here : Bool} {row : List Bool}
      (iff : here = true ↔ holds (c :: cs)) (later : TellsSuffixes cs row) :
      TellsSuffixes (c :: cs) (here :: row)

variable {holds} {name : List Char} {row : List Bool}

theorem behindRun_nil_iff : BehindRun holds [] ↔ holds [] := by
  constructor
  · rintro ⟨run, rest, empty, -, rests⟩
    rwa [(List.append_eq_nil_iff.mp empty.symm).2] at rests
  · exact fun rests => ⟨[], [], rfl, List.not_mem_nil, rests⟩

theorem behindRun_cons_iff {c : Char} {cs : List Char} :
    BehindRun holds (c :: cs) ↔ holds (c :: cs) ∨ c ≠ '\n' ∧ BehindRun holds cs := by
  constructor
  · rintro ⟨run, rest, split, unbroken, rests⟩
    cases run with
    | nil =>
        rw [List.nil_append] at split
        exact .inl (split ▸ rests)
    | cons d run =>
        obtain ⟨rfl, rfl⟩ := List.cons.inj split
        rw [List.mem_cons, not_or] at unbroken
        exact .inr ⟨Ne.symm unbroken.1, run, rest, rfl, unbroken.2, rests⟩
  · rintro (rests | ⟨solid, run, rest, rfl, unbroken, rests⟩)
    · exact ⟨[], c :: cs, rfl, List.not_mem_nil, rests⟩
    · refine ⟨c :: run, rest, rfl, ?_, rests⟩
      rw [List.mem_cons, not_or]
      exact ⟨solid.symm, unbroken⟩

namespace TellsSuffixes

theorem headD_iff (tells : TellsSuffixes holds name row) :
    row.headD false = true ↔ holds name := by
  cases tells with
  | nil iff => exact iff
  | cons iff later => exact iff

theorem afterLetter (tells : TellsSuffixes holds name row) (p : Char) :
    TellsSuffixes (BehindLetter holds p)
      name (afterLetter (foldCase p) (name.map foldCase) row) := by
  induction tells with
  | nil iff => exact .nil (by simp [BehindLetter])
  | @cons c cs here row iff later ih =>
      refine .cons ?_ ih
      rw [Bool.and_eq_true, beq_iff_eq, later.headD_iff]
      constructor
      · rintro ⟨same, rests⟩
        exact ⟨c, cs, rfl, same, rests⟩
      · rintro ⟨_, _, ⟨⟩, same, rests⟩
        exact ⟨same, rests⟩

theorem afterRun (tells : TellsSuffixes holds name row) :
    TellsSuffixes (BehindRun holds) name (afterRun (name.map foldCase) row) := by
  induction tells with
  | nil iff => exact .nil (iff.trans behindRun_nil_iff.symm)
  | cons iff later ih =>
      refine .cons ?_ ih
      rw [Bool.or_eq_true, Bool.and_eq_true, bne_iff_ne, Ne, foldCase_eq_feed_iff, iff,
        ih.headD_iff, behindRun_cons_iff]

theorem empty (name : List Char) :
    TellsSuffixes (fun cs => cs = []) name (name.map (fun _ => false) ++ [true]) := by
  induction name with
  | nil => exact .nil (by simp)
  | cons c cs ih => exact .cons (by simp) ih

end TellsSuffixes

end Suffixes

namespace Expression

/-- Whether a name is what the parts of an expression ask for. -/
def Matches : List Part → List Char → Prop
  | [] => fun cs => cs = []
  | .letter p :: parts => BehindLetter (Matches parts) p
  | .run :: parts => BehindRun (Matches parts)

theorem tellsSuffixes_matchedSuffixes (name : List Char) (parts : List Part) :
    TellsSuffixes (Matches parts) name (matchedSuffixes (name.map foldCase) parts) := by
  induction parts with
  | nil => simpa [matchedSuffixes, Matches] using TellsSuffixes.empty name
  | cons part parts ih =>
      cases part with
      | letter p => exact ih.afterLetter p
      | run => exact ih.afterRun

end Expression

theorem isInstance_singleton_iff {piece name : List Char} :
    IsInstance [piece] name ↔ SameLetters piece name := by
  constructor
  · rintro ⟨first, later, rfl, same, -⟩
    obtain ⟨head, none⟩ := List.forall₂_cons.mp same
    have last : later = [] := by simpa using none
    simpa [last] using head
  · exact fun same => ⟨name, [], by simp, .cons same .nil, by simp⟩

theorem isInstance_letter_iff {p : Char} {piece : List Char} {pieces : List (List Char)}
    {name : List Char} :
    IsInstance ((p :: piece) :: pieces) name ↔
    BehindLetter (IsInstance (piece :: pieces)) p name := by
  constructor
  · rintro ⟨first, later, rfl, same, unbroken⟩
    obtain ⟨head, rest⟩ := List.forall₂_cons.mp same
    obtain ⟨c, first, fold, further, rfl⟩ := List.forall₂_cons_left_iff.mp head
    exact ⟨c, _, rfl, fold, first, later, rfl, .cons further rest, unbroken⟩
  · rintro ⟨c, _, rfl, fold, first, later, rfl, same, unbroken⟩
    obtain ⟨head, rest⟩ := List.forall₂_cons.mp same
    exact ⟨c :: first, later, rfl, .cons (.cons fold head) rest, unbroken⟩

theorem isInstance_run_iff {piece : List Char} {pieces : List (List Char)} {name : List Char} :
    IsInstance ([] :: piece :: pieces) name ↔ BehindRun (IsInstance (piece :: pieces)) name := by
  constructor
  · rintro ⟨first, later, rfl, same, unbroken⟩
    obtain ⟨⟨⟩, rest⟩ := List.forall₂_cons.mp same
    cases later with
    | nil => cases rest
    | cons part later =>
        rw [List.forall_mem_cons] at unbroken
        exact ⟨part.1, _, by simp, unbroken.1, part.2, later, rfl, rest, unbroken.2⟩
  · rintro ⟨run, _, rfl, solid, first, later, rfl, same, unbroken⟩
    refine ⟨[], (run, first) :: later, by simp, .cons .nil same, ?_⟩
    exact List.forall_mem_cons.mpr ⟨solid, unbroken⟩

theorem matches_map_ofChar (segment : List Char) :
    Expression.Matches (segment.map .ofChar) = IsInstance (cut wildcard segment) := by
  induction segment with
  | nil =>
      funext name
      rw [cut, isInstance_singleton_iff, SameLetters, List.forall₂_nil_left_iff]
      rfl
  | cons c cs ih =>
      obtain ⟨piece, pieces, rests, begins⟩ := exists_cut_cons wildcard c cs
      rw [rests] at ih
      rw [begins, List.map_cons, Expression.Part.ofChar]
      by_cases star : c = wildcard
      · rw [if_pos star, if_pos star, Expression.Matches, ih]
        exact funext fun name => propext isInstance_run_iff.symm
      · rw [if_neg star, if_neg star, Expression.Matches, ih]
        exact funext fun name => propext isInstance_letter_iff.symm

theorem partsOf_eq (segment : String) : partsOf segment = segment.toList.map .ofChar := by
  simp only [partsOf, Expression.read?_ofSegment, Option.get_some]

theorem segmentMatches_iff_matches (segment name : String) :
    segmentMatches segment name = true ↔ Expression.Matches (partsOf segment) name.toList :=
  (Expression.tellsSuffixes_matchedSuffixes _ _).headD_iff

example : segmentMatches "/svc/a.b\\*" "/SVC/A.B\\x" = true := by decide +kernel

example : segmentMatches "/svc/a.b\\*" "/svc/axb\\" = false := by decide +kernel

theorem segmentMatches_literal {segment : String} (literal : wildcard ∉ segment.toList)
    (name : String) :
    segmentMatches segment name = true ↔ SameLetters segment.toList name.toList := by
  rw [segmentMatches_iff_matches, partsOf_eq, matches_map_ofChar, cut_of_not_mem literal,
    isInstance_singleton_iff]

end LogQuery.LogGroups
