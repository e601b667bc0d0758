namespace LogQuery.Text

/-- The characters with the Unicode property White_Space. -/
def isBlank (c : Char) : Bool :=
  let n := c.toNat
  (9 ≤ n && n ≤ 13) || n == 0x20 || n == 0x85 || n == 0xA0 || n == 0x1680 ||
    (0x2000 ≤ n && n ≤ 0x200A) || n == 0x2028 || n == 0x2029 || n == 0x202F || n == 0x205F ||
    n == 0x3000

/-- The characters from the first one that is not blank. -/
def stripStart (cs : List Char) : List Char :=
  cs.dropWhile isBlank

/-- The characters up to the last one that is not blank. -/
def stripEnd (cs : List Char) : List Char :=
  (cs.reverse.dropWhile isBlank).reverse

/-- The characters between the blank ones at both ends. -/
def strip (cs : List Char) : List Char :=
  stripEnd (stripStart cs)

/-- The text without the blank characters at both ends. -/
def trim (s : String) : String :=
  String.ofList (strip s.toList)

/-- The text without the blank characters at its start. -/
def trimStart (s : String) : String :=
  String.ofList (stripStart s.toList)

/-- The text without the blank characters at its end. -/
def trimEnd (s : String) : String :=
  String.ofList (stripEnd s.toList)

def blank (s : String) : Bool :=
  s.toList.all isBlank

/-- Whether the first character, if there is one, is not blank, and likewise the last one. -/
def Trimmed (cs : List Char) : Prop :=
  (∀ c ∈ cs.head?, isBlank c = false) ∧ (∀ c ∈ cs.getLast?, isBlank c = false)

theorem stripStart_eq_self {cs : List Char} (h : ∀ c ∈ cs.head?, isBlank c = false) :
    stripStart cs = cs := by
  cases cs with
  | nil => rfl
  | cons c cs => simp [stripStart, h c (by simp)]

theorem stripEnd_eq_self {cs : List Char} (h : ∀ c ∈ cs.getLast?, isBlank c = false) :
    stripEnd cs = cs := by
  have step : cs.reverse.dropWhile isBlank = cs.reverse :=
    stripStart_eq_self (by simpa [List.head?_reverse] using h)
  simp [stripEnd, step]

theorem strip_eq_self {cs : List Char} (h : Trimmed cs) : strip cs = cs := by
  rw [strip, stripStart_eq_self h.1, stripEnd_eq_self h.2]

end LogQuery.Text
