import LogQuery.Text.Lines

/-!
The regular expression for the names that a segment of a pattern matches. Some characters are
operators in an expression, and a backslash in front of one makes it an ordinary character. To
match whole names, an expression begins with `^` and ends with `$`; what stands between them are
characters and `.*`, which stands for any run of characters on one line. The expression of a
segment can always be read.
-/

namespace LogQuery.LogGroups

/-- The character that stands for any run of characters. -/
def wildcard : Char := '*'

namespace Expression

/-- What an expression asks of a name, from left to right. -/
inductive Part where
  /-- This character, in either letter case. -/
  | letter (c : Char)
  /-- Any run of characters without a line feed. -/
  | run
deriving DecidableEq, Repr

def isOperator (c : Char) : Bool :=
  ['\\', '.', '+', '*', '?', '(', ')', '|', '[', ']', '{', '}', '^', '$', '#', '&',
    '-', '~'].contains c

def escapeChar (c : Char) : List Char :=
  if isOperator c then ['\\', c] else [c]

/-- A text as an expression for itself. -/
def escape (cs : List Char) : List Char :=
  cs.flatMap escapeChar

/-- The expression of a segment: its own text, with a run of characters in place of each escaped
`*`. -/
def ofSegment (segment : List Char) : List Char :=
  '^' :: (Text.replaceFrom ['\\', wildcard] ['.', '*'] 0 (escape segment) ++ ['$'])

/-- The parts of an expression up to the `$` that it ends with. -/
def readParts : List Char → Option (List Part)
  | [] => none
  | ['$'] => some []
  | '.' :: '*' :: cs => (readParts cs).map (Part.run :: ·)
  | '\\' :: c :: cs => if isOperator c then (readParts cs).map (Part.letter c :: ·) else none
  | c :: cs => if isOperator c then none else (readParts cs).map (Part.letter c :: ·)

def read? : List Char → Option (List Part)
  | '^' :: cs => readParts cs
  | _ => none

/-- What a character of a segment asks for. -/
def Part.ofChar (c : Char) : Part :=
  if c = wildcard then .run else .letter c

/-- How a character of a segment is written in its expression. -/
def writeChar (c : Char) : List Char :=
  if c = wildcard then ['.', '*'] else escapeChar c

theorem head?_escape_ne (cs : List Char) : (escape cs).head? ≠ some wildcard := by
  cases cs with
  | nil => simp [escape]
  | cons c cs =>
    by_cases operator : isOperator c = true
    · simp [escape, escapeChar, operator, wildcard]
    · have other : c ≠ wildcard := by
        rintro rfl
        exact operator (by decide)
      simpa [escape, escapeChar, operator] using other

theorem replaceFrom_cons_escape (c : Char) (cs : List Char) :
    Text.replaceFrom ['\\', wildcard] ['.', '*'] 0 (c :: escape cs) =
      c :: Text.replaceFrom ['\\', wildcard] ['.', '*'] 0 (escape cs) := by
  have apart : ¬['\\', wildcard].isPrefixOf (c :: escape cs) = true := by
    rw [List.isPrefixOf_iff_prefix, List.cons_prefix_cons]
    rintro ⟨-, rest, begins⟩
    exact head?_escape_ne cs (by rw [← begins]; rfl)
  rw [Text.replaceFrom, if_neg apart]

/-- Only the backslash that escapes a `*` is taken together with it, also behind backslashes of
the segment. -/
theorem replaceFrom_escape (cs : List Char) :
    Text.replaceFrom ['\\', wildcard] ['.', '*'] 0 (escape cs) = cs.flatMap writeChar := by
  induction cs with
  | nil => rfl
  | cons c cs ih =>
    have first : escape (c :: cs) = escapeChar c ++ escape cs := rfl
    rw [first, List.flatMap_cons, ← ih]
    by_cases star : c = wildcard
    · subst star
      rfl
    · by_cases operator : isOperator c = true
      · have apart : ¬['\\', wildcard].isPrefixOf ('\\' :: c :: escape cs) = true := by
          rw [List.isPrefixOf_iff_prefix, List.cons_prefix_cons, List.cons_prefix_cons]
          rintro ⟨-, same, -⟩
          exact star same.symm
        rw [writeChar, if_neg star, escapeChar, if_pos operator]
        exact (Text.replaceFrom.eq_3 ..).trans
          ((if_neg apart).trans (congrArg _ (replaceFrom_cons_escape c cs)))
      · rw [writeChar, if_neg star, escapeChar, if_neg operator]
        exact replaceFrom_cons_escape c cs

theorem readParts_operator {c : Char} (operator : isOperator c = true) (cs : List Char) :
    readParts ('\\' :: c :: cs) = (readParts cs).map (Part.letter c :: ·) := by
  rw [readParts, if_pos operator]

theorem readParts_ordinary {c : Char} (ordinary : isOperator c = false) (cs : List Char) :
    readParts (c :: cs) = (readParts cs).map (Part.letter c :: ·) := by
  have differ {d : Char} (operator : isOperator d = true) : c ≠ d := by
    rintro rfl
    rw [operator] at ordinary
    contradiction
  have dollar : c ≠ '$' := differ (by decide)
  have dot : c ≠ '.' := differ (by decide)
  have backslash : c ≠ '\\' := differ (by decide)
  rw [readParts.eq_5 _ _ (fun same => absurd same dollar) (fun _ same => absurd same dot)
    (fun _ _ same => absurd same backslash), ordinary]
  rfl

theorem readParts_writeChar (c : Char) (cs : List Char) :
    readParts (writeChar c ++ cs) = (readParts cs).map (Part.ofChar c :: ·) := by
  by_cases star : c = wildcard
  · subst star
    rfl
  · rw [writeChar, if_neg star, Part.ofChar, if_neg star, escapeChar]
    cases operator : isOperator c with
    | true => exact readParts_operator operator cs
    | false => exact readParts_ordinary operator cs

theorem read?_ofSegment (segment : List Char) :
    read? (ofSegment segment) = some (segment.map Part.ofChar) := by
  rw [ofSegment, replaceFrom_escape, read?]
  induction segment with
  | nil => rfl
  | cons c cs ih => rw [List.flatMap_cons, List.append_assoc, readParts_writeChar, ih]; rfl

end Expression

end LogQuery.LogGroups
