import LogQuery.Text.CaseData

namespace LogQuery.Text

open CaseData

/-- The number of the character that a list of runs maps the character number `n` to. -/
def mapByRuns (runs : List (Nat × Nat × Nat × Int)) (n : Nat) : Nat :=
  match runs.find? fun (first, last, stride, _) =>
      first ≤ n && n ≤ last && (n - first) % stride == 0 with
  | some (_, _, _, shift) => (n + shift).toNat
  | none => n

/-- Whether a character number lies in one of the ranges. -/
def inRanges (ranges : List (Nat × Nat)) (n : Nat) : Bool :=
  ranges.any fun (first, last) => first ≤ n && n ≤ last

def foldCase (c : Char) : Char :=
  Char.ofNat (mapByRuns foldingRuns c.toNat)

theorem mapByRuns_eq_or_lt {runs : List (Nat × Nat × Nat × Int)} {low : Nat}
    (above : ∀ run ∈ runs, (low : Int) < run.1 + run.2.2.2) (n : Nat) :
    mapByRuns runs n = n ∨ low < mapByRuns runs n := by
  unfold mapByRuns
  split
  · next first last stride shift found =>
    have bound := above _ (List.mem_of_find?_eq_some found)
    have within := List.find?_some found
    simp only [Bool.and_eq_true, decide_eq_true_eq] at bound within
    exact .inr (by omega)
  · exact .inl rfl

theorem foldCase_eq_feed_iff {c : Char} : foldCase c = '\n' ↔ c = '\n' := by
  have above : ∀ run ∈ foldingRuns, ((10 : Nat) : Int) < run.1 + run.2.2.2 := by decide +kernel
  have number (n : Nat) (feed : Char.ofNat n = '\n') : n = 10 := by
    by_cases valid : n.isValidChar
    · rw [Char.ofNat, dif_pos valid] at feed
      exact congrArg Char.toNat feed
    · rw [Char.ofNat, dif_neg valid] at feed
      exact absurd feed (by decide)
  constructor
  · intro same
    have ten := number _ same
    rcases mapByRuns_eq_or_lt above c.toNat with kept | beyond
    · rw [kept] at ten
      exact Char.toNat_inj.mp ten
    · omega
  · rintro rfl
    decide

/-- Whether two characters differ at most in case. -/
def sameLetter (c d : Char) : Bool :=
  foldCase c == foldCase d

def isCased (c : Char) : Bool :=
  inRanges casedRanges c.toNat

def isCaseIgnorable (c : Char) : Bool :=
  inRanges caseIgnorableRanges c.toNat

/-- Whether the next character that case does not ignore is a cased one. -/
def casedAhead (cs : List Char) : Bool :=
  ((cs.dropWhile isCaseIgnorable).head?.map isCased).getD false

/-- The lower case of a character that is not affected by those around it. -/
def lowercaseChar (c : Char) : List Char :=
  if c.toNat = 0x130 then ['i', Char.ofNat 0x307]
  else [Char.ofNat (mapByRuns lowercaseRuns c.toNat)]

/-- The lower case of the characters `cs`, where `before` are those in front of them, nearest
first. A capital sigma ends a word if a cased character stands before it and none after it. -/
def lowercaseFrom (before : List Char) : List Char → List Char
  | [] => []
  | c :: cs =>
    let here :=
      if c.toNat = 0x3A3 then
        if casedAhead before && !casedAhead cs then [Char.ofNat 0x3C2] else [Char.ofNat 0x3C3]
      else lowercaseChar c
    here ++ lowercaseFrom (c :: before) cs

/-- The full lower case of a text. -/
def lowercase (s : String) : String :=
  String.ofList (lowercaseFrom [] s.toList)

end LogQuery.Text
