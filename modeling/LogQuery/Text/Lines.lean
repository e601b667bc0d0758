import LogQuery.Text.Blank

namespace LogQuery.Text

/-- The pieces between the occurrences of `sep`, one more than there are occurrences. -/
def cut (sep : Char) : List Char → List (List Char)
  | [] => [[]]
  | c :: cs =>
    match cut sep cs with
    | [] => [[c]]
    | piece :: pieces => if c = sep then [] :: piece :: pieces else (c :: piece) :: pieces

/-- The pieces of a text between the occurrences of `sep`. -/
def splitOn (sep : Char) (s : String) : List String :=
  (cut sep s.toList).map String.ofList

/-- A line without the carriage return before its line feed. -/
def dropReturn (cs : List Char) : List Char :=
  if cs.getLast? = some '\r' then cs.dropLast else cs

/-- The lines of pieces cut at line feeds: the last piece has no line feed after it, so it keeps a
carriage return, and it is no line at all if it is empty. -/
def linesOfPieces : List (List Char) → List (List Char)
  | [] => []
  | [last] => if last.isEmpty then [] else [last]
  | piece :: pieces => dropReturn piece :: linesOfPieces pieces

def lines (s : String) : List String :=
  (linesOfPieces (cut '\n' s.toList)).map String.ofList

def unlines (ls : List String) : String :=
  "\n".intercalate ls

/-- The text before and after the first occurrence of `needle`, if it occurs. -/
def cutAtFirst (needle : List Char) : List Char → Option (List Char × List Char)
  | [] => if needle.isEmpty then some ([], []) else none
  | c :: cs =>
    if needle.isPrefixOf (c :: cs) then some ([], (c :: cs).drop needle.length)
    else (cutAtFirst needle cs).map fun (before, after) => (c :: before, after)

/-- The text with `replacement` in place of every occurrence of `needle`, from left to right,
after `skip` characters that are left out. -/
def replaceFrom (needle replacement : List Char) : (skip : Nat) → List Char → List Char
  | _, [] => []
  | skip + 1, _ :: cs => replaceFrom needle replacement skip cs
  | 0, c :: cs =>
    if needle.isPrefixOf (c :: cs) then
      replacement ++ replaceFrom needle replacement (needle.length - 1) cs
    else c :: replaceFrom needle replacement 0 cs

/-- The text with `replacement` in place of every occurrence of `needle`, which is not empty. -/
def replaceAll (needle replacement s : String) : String :=
  String.ofList (replaceFrom needle.toList replacement.toList 0 s.toList)

/-- The elements of a list, each at its first occurrence only. -/
def distinct {α : Type} [BEq α] : List α → List α
  | [] => []
  | a :: as => a :: (distinct as).filter (fun b => !(b == a))

theorem cut_ne_nil (sep : Char) (cs : List Char) : cut sep cs ≠ [] := by
  cases cs with
  | nil => simp [cut]
  | cons c cs =>
    rw [cut]
    split
    · simp
    · split <;> simp

theorem cut_of_not_mem {sep : Char} {cs : List Char} (h : sep ∉ cs) : cut sep cs = [cs] := by
  induction cs with
  | nil => rfl
  | cons c cs ih =>
    simp only [List.mem_cons, not_or] at h
    simp [cut, ih h.2, Ne.symm h.1]

theorem cut_append_cons {sep : Char} {cs : List Char} (h : sep ∉ cs) (rest : List Char) :
    cut sep (cs ++ sep :: rest) = cs :: cut sep rest := by
  induction cs with
  | nil =>
    have ne := cut_ne_nil sep rest
    rw [List.nil_append, cut]
    split
    · contradiction
    · next piece pieces eq => simp [eq]
  | cons c cs ih =>
    simp only [List.mem_cons, not_or] at h
    simp [cut, ih h.2, Ne.symm h.1]

end LogQuery.Text
