import LogQuery.Keyed
import LogQuery.Proofs.Columns.Clauses
import LogQuery.Proofs.Text.Case
import Mathlib.Data.List.Forall2

namespace LogQuery

open Text

/-- The word with which a clause begins. -/
def ColumnKeyword.name : ColumnKeyword → String
  | fields => "fields"
  | display => "display"

def ColumnKeyword.source : ColumnKeyword → ColumnSource
  | fields => .fields
  | display => .display

namespace ColumnEntry

/-- Whether a text behind `depth` open parentheses closes these and all that it opens, none too
early, and has commas only where one is open. -/
structure Enclosed (depth : Nat) (cs : List Char) : Prop where
  opened : ∀ front back, cs = front ++ back → front.count ')' ≤ depth + front.count '('
  closed : cs.count ')' = depth + cs.count '('
  commas : ∀ front back, cs = front ++ ',' :: back → front.count ')' < depth + front.count '('

/-- Some blank characters. -/
def Gap (s : String) : Prop :=
  s ≠ "" ∧ blank s = true

/-- Some characters that are not blank. -/
def Word (s : String) : Prop :=
  s ≠ "" ∧ ∀ c ∈ s.toList, isBlank c = false

instance (s : String) : Decidable (Gap s) :=
  inferInstanceAs (Decidable (_ ∧ _))

instance (s : String) : Decidable (Word s) :=
  decidable_of_iff (s ≠ "" ∧ s.toList.all (!isBlank ·) = true) (by simp [Word])

/-- The texts `field as name`, with any blanks between the words and the `as` in any letter case,
where the long s is an s. -/
inductive NamedAs (field name : String) : String → Prop where
  | intro {before after : String} {a s : Char} :
      Gap before → Gap after → sameLetter a 'a' = true →
      sameLetter s 's' = true →
      NamedAs field name (field ++ before ++ String.ofList [a, s] ++ after ++ name)

/-- Whether an entry can be written: its field has commas inside parentheses only and, without an
alias, is not itself a field with an alias, and its alias is a word without the characters that
divide a query. -/
structure Writable (entry : ColumnEntry) : Prop where
  some : entry.field ≠ ""
  trimmed : Trimmed entry.field.toList
  undivided : '|' ∉ entry.field.toList
  enclosed : Enclosed 0 entry.field.toList
  unnamed : entry.alias? = none → ∀ field name, field ≠ "" → Word name →
    ¬NamedAs field name entry.field
  word : ∀ name, entry.alias? = .some name → Word name
  plain : ∀ name, entry.alias? = .some name → ∀ c ∈ name.toList, c ∉ [',', '(', ')', '|']

/-- An entry as it is written, between any blanks. -/
inductive Written (entry : ColumnEntry) : String → Prop where
  | field {front back : String} : entry.alias? = none → blank front = true → blank back = true →
      Written entry (front ++ entry.field ++ back)
  | named {front back name text : String} : entry.alias? = some name →
    NamedAs entry.field name text →
      blank front = true → blank back = true → Written entry (front ++ text ++ back)

section Commas

variable {depth : Nat} {piece front back : List Char} {c : Char} {cs : List Char}

/-- How many parentheses are open behind a character. -/
def depthBehind (depth : Nat) (c : Char) : Nat :=
  if c = '(' then depth + 1 else if c = ')' then depth - 1 else depth

theorem enclosed_nil_iff : Enclosed depth [] ↔ depth = 0 := by
  constructor
  · intro enclosed
    simpa using enclosed.closed.symm
  · rintro rfl
    exact ⟨by simp, rfl, by simp⟩

theorem depthBehind_add_count (bound : c = ')' → 0 < depth) (front : List Char) :
    depthBehind depth c + front.count '(' + (c :: front).count ')' =
      depth + (c :: front).count '(' + front.count ')' := by
  unfold depthBehind
  by_cases isOpen : c = '('
  · subst isOpen
    simp
    omega
  · by_cases isClose : c = ')'
    · have some := bound isClose
      subst isClose
      simp
      omega
    · simp [isOpen, isClose]

theorem enclosed_cons_iff :
    Enclosed depth (c :: cs) ↔ (c = ')' ∨ c = ',' → 0 < depth) ∧
    Enclosed (depthBehind depth c) cs := by
  constructor
  · rintro ⟨opened, closed, commas⟩
    have bound : c = ')' → 0 < depth := by
      rintro rfl
      have here : 1 ≤ depth := by simpa using opened [')'] cs rfl
      exact here
    refine ⟨?_, ?_, ?_, ?_⟩
    · rintro (isClose | rfl)
      · exact bound isClose
      · simpa using commas [] cs rfl
    · rintro front back rfl
      have here := opened (c :: front) back rfl
      have same := depthBehind_add_count bound front
      omega
    · have same := depthBehind_add_count bound cs
      omega
    · rintro front back rfl
      have here := commas (c :: front) back rfl
      have same := depthBehind_add_count bound front
      omega
  · rintro ⟨bound, opened, closed, commas⟩
    have shift := @depthBehind_add_count depth c fun isClose => bound (.inl isClose)
    refine ⟨?_, ?_, ?_⟩
    · rintro (_ | ⟨d, front⟩) back same
      · simp
      · obtain ⟨rfl, rfl⟩ := List.cons.inj same
        have here := opened front back rfl
        have same := shift front
        omega
    · have same := shift cs
      omega
    · rintro (_ | ⟨d, front⟩) back same
      · obtain ⟨rfl, -⟩ := List.cons.inj same
        simpa using bound (.inr rfl)
      · obtain ⟨rfl, rfl⟩ := List.cons.inj same
        have here := commas front back rfl
        have same := shift front
        omega

instance decidableEnclosed : (depth : Nat) → (cs : List Char) → Decidable (Enclosed depth cs)
  | _, [] => decidable_of_iff _ enclosed_nil_iff.symm
  | depth, c :: cs =>
    have := decidableEnclosed (depthBehind depth c) cs
    decidable_of_iff _ enclosed_cons_iff.symm

theorem exists_cutAtCommas_cons (depth : Nat) (c : Char) (cs : List Char) :
    ∃ piece pieces, cutAtCommas (depthBehind depth c) cs = piece :: pieces ∧
      cutAtCommas depth (c :: cs) =
        if c = ',' ∧ depth = 0 then [] :: piece :: pieces else (c :: piece) :: pieces := by
  have nonempty : cutAtCommas (depthBehind depth c) cs ≠ [] := by
    cases cs with
    | nil => simp [cutAtCommas]
    | cons d cs =>
        rw [cutAtCommas]
        split
        · simp
        · split <;> simp
  obtain ⟨piece, pieces, rests⟩ := List.exists_cons_of_ne_nil nonempty
  refine ⟨piece, pieces, rests, ?_⟩
  rw [depthBehind] at rests
  simp only [cutAtCommas, rests]

/-- A comma inside parentheses does not end an entry. -/
theorem cutAtCommas_cons_of_enclosed (enclosed : Enclosed depth (c :: cs)) {rest : List Char}
    {piece : List Char} {pieces : List (List Char)}
    (rests : cutAtCommas (depthBehind depth c) rest = piece :: pieces) :
    cutAtCommas depth (c :: rest) = (c :: piece) :: pieces := by
  obtain ⟨piece', pieces', rests', cuts⟩ := exists_cutAtCommas_cons depth c rest
  obtain ⟨rfl, rfl⟩ := List.cons.inj (rests.symm.trans rests')
  rw [cuts, if_neg]
  rintro ⟨rfl, rfl⟩
  exact absurd ((enclosed_cons_iff.mp enclosed).1 (.inr rfl)) (Nat.lt_irrefl 0)

theorem cutAtCommas_of_enclosed (enclosed : Enclosed depth piece) :
    cutAtCommas depth piece = [piece] := by
  induction piece generalizing depth with
  | nil => rfl
  | cons c cs ih =>
    exact cutAtCommas_cons_of_enclosed enclosed (ih (enclosed_cons_iff.mp enclosed).2)

theorem cutAtCommas_append_comma (enclosed : Enclosed depth piece) (rest : List Char) :
    cutAtCommas depth (piece ++ ',' :: rest) = piece :: cutAtCommas 0 rest := by
  induction piece generalizing depth with
  | nil =>
      obtain rfl := enclosed_nil_iff.mp enclosed
      obtain ⟨piece, pieces, rests, cuts⟩ := exists_cutAtCommas_cons 0 ',' rest
      have same : depthBehind 0 ',' = 0 := rfl
      rw [same] at rests
      rw [List.nil_append, cuts, rests]
      rfl
  | cons c cs ih =>
    exact cutAtCommas_cons_of_enclosed enclosed (ih (enclosed_cons_iff.mp enclosed).2)

theorem cutAtCommas_intercalate {pieces : List (List Char)} (some : pieces ≠ [])
    (enclosed : ∀ piece ∈ pieces, Enclosed 0 piece) :
    cutAtCommas 0 ([','].intercalate pieces) = pieces := by
  induction pieces with
  | nil => exact absurd rfl some
  | cons piece pieces ih =>
      obtain ⟨first, others⟩ := List.forall_mem_cons.mp enclosed
      by_cases last : pieces = []
      · rw [last, List.intercalate_singleton, cutAtCommas_of_enclosed first]
      · rw [List.intercalate_cons_of_ne_nil last, List.append_assoc, List.singleton_append,
          cutAtCommas_append_comma first, ih last others]

theorem enclosed_of_plain (plain : ∀ c ∈ cs, c ∉ [',', '(', ')']) : Enclosed 0 cs := by
  have without (c : Char) (divides : c ∈ [',', '(', ')']) : c ∉ cs :=
    fun hmem => plain c hmem divides
  have none (c : Char) (divides : c ∈ [',', '(', ')']) {front : List Char} (inside : front ⊆ cs) :
      front.count c = 0 := List.count_eq_zero.mpr fun hmem => without c divides (inside hmem)
  refine ⟨?_, ?_, ?_⟩
  · rintro front back rfl
    rw [none ')' (by simp) (List.subset_append_left front back)]
    exact Nat.zero_le _
  · rw [none ')' (by simp) (List.Subset.refl cs), none '(' (by simp) (List.Subset.refl cs)]
  · rintro front back rfl
    exact absurd (List.mem_append_right front List.mem_cons_self) (without ',' (by simp))

theorem Enclosed.append (first : Enclosed depth front) (second : Enclosed 0 back) :
    Enclosed depth (front ++ back) := by
  have through (further : List Char) (char : Char) :
      (front ++ further).count char = front.count char + further.count char := List.count_append
  have closed := first.closed
  refine ⟨?_, ?_, ?_⟩
  · intro before behind same
    rcases List.append_eq_append_iff.mp same with ⟨further, rfl, rest⟩ | ⟨further, rest, rfl⟩
    · have inside := second.opened further behind rest
      rw [through, through]
      omega
    · exact first.opened before further rest
  · have rest := second.closed
    rw [through, through]
    omega
  · intro before behind same
    rcases List.append_eq_append_iff.mp same with ⟨further, rfl, rest⟩ | ⟨further, rest, remains⟩
    · have inside := second.commas further behind rest
      rw [through, through]
      omega
    · cases further with
      | nil =>
          rw [List.append_nil] at rest
          subst rest
          have inside := second.commas [] behind remains.symm
          simp at inside
      | cons d further =>
          obtain ⟨rfl, rfl⟩ := List.cons.inj remains
          exact first.commas before further rest

end Commas

section Blanks

theorem exists_cutAtCommas_cons_of_blank {c : Char} (hc : isBlank c = true) (depth : Nat)
    (cs : List Char) :
    ∃ piece pieces, cutAtCommas depth cs = piece :: pieces ∧
      cutAtCommas depth (c :: cs) = (c :: piece) :: pieces := by
  have unlike (d : Char) (solid : isBlank d = false) : c ≠ d := by
    rintro rfl
    exact Bool.false_ne_true (solid.symm.trans hc)
  have same : depthBehind depth c = depth := by
    rw [depthBehind, if_neg (unlike '(' (by decide)), if_neg (unlike ')' (by decide))]
  obtain ⟨piece, pieces, rests, cuts⟩ := exists_cutAtCommas_cons depth c cs
  rw [same] at rests
  rw [if_neg fun comma => unlike ',' (by decide) comma.1] at cuts
  exact ⟨piece, pieces, rests, cuts⟩

theorem cutAtCommas_of_blank {cs : List Char} (blanks : ∀ c ∈ cs, isBlank c = true)
    (depth : Nat) : cutAtCommas depth cs = [cs] := by
  induction cs with
  | nil => rfl
  | cons c cs ih =>
      obtain ⟨first, others⟩ := List.forall_mem_cons.mp blanks
      obtain ⟨piece, pieces, rests, cuts⟩ := exists_cutAtCommas_cons_of_blank first depth cs
      rw [ih others, List.cons.injEq] at rests
      rw [cuts, ← rests.1, ← rests.2]

theorem map_strip_cutAtCommas_stripStart (depth : Nat) (cs : List Char) :
    (cutAtCommas depth (stripStart cs)).map strip = (cutAtCommas depth cs).map strip := by
  induction cs with
  | nil => rfl
  | cons c cs ih =>
      cases hc : isBlank c with
      | true =>
          obtain ⟨piece, pieces, rests, cuts⟩ := exists_cutAtCommas_cons_of_blank hc depth cs
          have shorter (back : List Char) : stripStart (c :: back) = stripStart back :=
            stripStart_append_of_blank (List.forall_mem_singleton.mpr hc) back
          rw [shorter, ih, rests, cuts, List.map_cons, List.map_cons, strip, strip, shorter]
      | false => rw [stripStart_eq_self (by simpa using hc)]

theorem map_stripEnd_cutAtCommas_append {back : List Char} (blanks : ∀ c ∈ back, isBlank c = true)
    (depth : Nat) (cs : List Char) :
    (cutAtCommas depth (cs ++ back)).map stripEnd = (cutAtCommas depth cs).map stripEnd := by
  induction cs generalizing depth with
  | nil =>
      rw [List.nil_append, cutAtCommas_of_blank blanks, List.map_singleton,
        stripEnd_eq_nil_iff.mpr blanks]
      rfl
  | cons c cs ih =>
      have rest := ih (depthBehind depth c)
      obtain ⟨piece, pieces, rests, cuts⟩ := exists_cutAtCommas_cons depth c cs
      obtain ⟨piece', pieces', rests', cuts'⟩ := exists_cutAtCommas_cons depth c (cs ++ back)
      rw [rests, rests', List.map_cons, List.map_cons, List.cons.injEq] at rest
      obtain ⟨first, others⟩ := rest
      rw [List.cons_append, cuts, cuts']
      split
      · rw [List.map_cons, List.map_cons, List.map_cons, List.map_cons, first, others]
      · rw [List.map_cons, List.map_cons, others, ← stripEnd_cons_stripEnd c piece', first,
          stripEnd_cons_stripEnd]

theorem readList_strip (cs : List Char) : readList (strip cs) = readList cs := by
  obtain ⟨back, parts, blanks⟩ := exists_stripEnd_append (stripStart cs)
  have front := map_strip_cutAtCommas_stripStart 0 cs
  have ends := congrArg (List.map strip) (map_stripEnd_cutAtCommas_append blanks 0 (strip cs))
  have both : strip ∘ stripEnd = strip := funext strip_stripEnd
  rw [List.map_map, List.map_map, both, strip, parts, front] at ends
  rw [readList, readList, ends, strip]

end Blanks

section Words

variable {front word cs : List Char}

theorem splitLastWord_append (solid : ∀ c ∈ word, isBlank c = false)
    (ends : ∀ c ∈ front.getLast?, isBlank c = true) :
    splitLastWord (front ++ word) = (front, word) := by
  have first : ∀ c ∈ word.reverse, (!isBlank c) = true := by simpa using solid
  have stop : ∀ c ∈ front.reverse.head?, (!isBlank c) = false := by
    simpa [List.head?_reverse] using ends
  obtain ⟨taken, left⟩ := run_append first stop
  rw [splitLastWord, List.reverse_append, left, taken, List.reverse_reverse, List.reverse_reverse]

theorem exists_splitLastWord (cs : List Char) :
    ∃ front word, splitLastWord cs = (front, word) ∧ cs = front ++ word ∧
      (∀ c ∈ word, isBlank c = false) ∧ ∀ c ∈ front.getLast?, isBlank c = true := by
  refine ⟨_, _, rfl, ?_, ?_, ?_⟩
  · rw [← List.reverse_append, List.takeWhile_append_dropWhile, List.reverse_reverse]
  · intro c hmem
    simpa using List.mem_takeWhile_imp (List.mem_reverse.mp hmem)
  · intro c last
    rw [List.getLast?_reverse] at last
    have stops := List.head?_dropWhile_not (fun c => !isBlank c) cs.reverse
    rw [Option.mem_def] at last
    rw [last] at stops
    simpa using stops

theorem Gap.getLast? {gap : String} (apart : Gap gap) (front : List Char) :
    ∀ c ∈ (front ++ gap.toList).getLast?, isBlank c = true := by
  have some : gap.toList ≠ [] := String.toList_eq_nil_iff.not.mpr apart.1
  intro c last
  rw [List.getLast?_append_of_ne_nil _ some] at last
  exact blank_iff.mp apart.2 c (List.mem_of_getLast? last)

theorem solid_of_as {a s c : Char} (ha : sameLetter a 'a' = true) (hs : sameLetter s 's' = true)
    (hmem : c ∈ [a, s]) : isBlank c = false ∧ c ∉ [',', '(', ')'] ∧ c ≠ '|' := by
  rcases List.mem_pair.mp hmem with rfl | rfl
  · rcases eq_of_sameLetter_a ha with rfl | rfl <;> decide
  · rcases eq_of_sameLetter_s hs with rfl | rfl | rfl <;> decide

end Words

section Read

variable {field name text : String}

/-- Of the words `as` in an entry the last one counts, if one word follows it. -/
theorem read_of_namedAs (some : field ≠ "") (trimmed : Trimmed field.toList) (word : Word name)
    (named : NamedAs field name text) : read text.toList = { field, alias? := .some name } := by
  obtain @⟨before, after, a, s, hbefore, hafter, ha, hs⟩ := named
  have solid : ∀ c ∈ [a, s], isBlank c = false := fun c hmem => (solid_of_as ha hs hmem).1
  have outer :
      splitLastWord (field.toList ++ before.toList ++ [a, s] ++ after.toList ++ name.toList) =
        (field.toList ++ before.toList ++ [a, s] ++ after.toList, name.toList) :=
    splitLastWord_append word.2 (hafter.getLast? _)
  have stripped : stripEnd (field.toList ++ before.toList ++ [a, s] ++ after.toList) =
      field.toList ++ before.toList ++ [a, s] := by
    rw [stripEnd_append_of_blank (blank_iff.mp hafter.2)]
    apply stripEnd_eq_self
    intro c last
    exact solid c (List.mem_of_getLast? (by simpa using last))
  have inner : splitLastWord (field.toList ++ before.toList ++ [a, s]) =
      (field.toList ++ before.toList, [a, s]) := splitLastWord_append solid (hbefore.getLast? _)
  have shown : strip (field.toList ++ before.toList) = field.toList :=
    @strip_padded field.toList [] before.toList (by simp) (blank_iff.mp hbefore.2) trimmed
  have nonempty : field.toList.isEmpty = false := by simpa using some
  simp only [String.toList_append, String.toList_ofList, read, outer, stripped, inner, shown,
    isAs, ha, hs, nonempty]
  simp

theorem exists_letters_of_isAs {word : List Char} (isWord : isAs word = true) :
    ∃ a s, word = [a, s] ∧ sameLetter a 'a' = true ∧ sameLetter s 's' = true := by
  unfold isAs at isWord
  split at isWord
  · exact ⟨_, _, rfl, (Bool.and_eq_true _ _).mp isWord⟩
  · cases isWord

theorem read_of_unnamed (trimmed : Trimmed text.toList)
    (unnamed : ∀ field name, field ≠ "" → Word name → ¬NamedAs field name text) :
    read text.toList = { field := text, alias? := none } := by
  obtain ⟨front, name, outer, whole, solid, ends⟩ := exists_splitLastWord text.toList
  obtain ⟨field, word, inner, stripped, solid', ends'⟩ := exists_splitLastWord (stripEnd front)
  simp only [read, outer, inner]
  rw [if_neg, String.ofList_toList]
  intro reads
  rw [Bool.and_eq_true] at reads
  obtain ⟨isWord, some⟩ := reads
  obtain ⟨a, s, rfl, ha, hs⟩ := exists_letters_of_isAs isWord
  obtain ⟨gap, parts, blanks⟩ := exists_stripEnd_append front
  rw [stripped] at parts
  have after : gap ≠ [] := by
    rintro rfl
    have last : s ∈ front.getLast? := by simp [← parts]
    exact Bool.false_ne_true ((solid' s (by simp)).symm.trans (ends s last))
  rcases List.eq_nil_or_concat field with rfl | ⟨begins, c, rfl⟩
  · cases some
  have blank : isBlank c = true := ends' c (by simp)
  have begun : begins ≠ [] := by
    rintro rfl
    rw [strip_of_blank (by simpa using blank)] at some
    cases some
  have named : name ≠ [] := by
    rintro rfl
    rw [List.append_nil] at whole
    rcases List.eq_nil_or_concat front with rfl | ⟨_, d, same⟩
    · simp at parts
    · have last : d ∈ front.getLast? := by simp [same]
      exact Bool.false_ne_true ((trimmed.2 d (whole ▸ last)).symm.trans (ends d last))
  apply unnamed (String.ofList begins) (String.ofList name)
  · simpa using begun
  · exact ⟨by simpa using named, by simpa using solid⟩
  · have same : text = String.ofList begins ++ String.ofList [c] ++ String.ofList [a, s] ++
        String.ofList gap ++ String.ofList name := by
      rw [← String.toList_inj, whole, ← parts]
      simp
    rw [same]
    refine NamedAs.intro ⟨?_, ?_⟩ ⟨?_, ?_⟩ ha hs
    · simp
    · simpa [Text.blank] using blank
    · simpa using after
    · simpa [Text.blank] using blanks

end Read

section Written

variable {entry : ColumnEntry} {field name text piece : String}

theorem NamedAs.trimmed (trimmed : Trimmed field.toList) (some : field ≠ "") (word : Word name)
    (named : NamedAs field name text) : Trimmed text.toList := by
  obtain @⟨before, after, a, s, -, -, -, -⟩ := named
  have ends : Trimmed name.toList :=
    ⟨fun c hmem => word.2 c (List.mem_of_head? hmem), fun c hmem =>
      word.2 c (List.mem_of_getLast? hmem)⟩
  have around := trimmed.around ends (String.toList_eq_nil_iff.not.mpr some)
    (String.toList_eq_nil_iff.not.mpr word.1) (before.toList ++ [a, s] ++ after.toList)
  simpa [String.toList_append] using around

theorem Written.read_strip (written : Written entry piece) (writable : entry.Writable) :
    strip piece.toList ≠ [] ∧ read (strip piece.toList) = entry := by
  obtain ⟨field, alias?⟩ := entry
  cases written with
  | @field front back none hfront hback =>
      obtain rfl : alias? = .none := none
      have stripped := strip_padded (blank_iff.mp hfront) (blank_iff.mp hback) writable.trimmed
      rw [String.toList_append, String.toList_append, stripped]
      exact ⟨String.toList_eq_nil_iff.not.mpr writable.some,
        read_of_unnamed writable.trimmed (writable.unnamed rfl)⟩
  | @named front back name text given named hfront hback =>
      obtain rfl : alias? = some name := given
      have word := writable.word name rfl
      have trimmed := named.trimmed writable.trimmed writable.some word
      have stripped := strip_padded (blank_iff.mp hfront) (blank_iff.mp hback) trimmed
      rw [String.toList_append, String.toList_append, stripped]
      refine ⟨?_, read_of_namedAs writable.some writable.trimmed word named⟩
      obtain ⟨-, -, -, -⟩ := named
      simp [String.toList_append]

theorem enclosed_of_blank {s : String} (blanks : blank s = true) : Enclosed 0 s.toList := by
  apply enclosed_of_plain
  intro c hmem divides
  have solid : ∀ c ∈ [',', '(', ')'], isBlank c = false := by simp [isBlank]
  exact Bool.false_ne_true ((solid c divides).symm.trans (blank_iff.mp blanks c hmem))

theorem Written.enclosed (written : Written entry piece) (writable : entry.Writable) :
    Enclosed 0 piece.toList := by
  cases written with
  | field _ hfront hback =>
      rw [String.toList_append, String.toList_append]
      exact ((enclosed_of_blank hfront).append writable.enclosed).append (enclosed_of_blank hback)
  | @named front back name text given named hfront hback =>
      obtain @⟨before, after, a, s, hbefore, hafter, ha, hs⟩ := named
      have word : Enclosed 0 [a, s] :=
        enclosed_of_plain fun c hmem => (solid_of_as ha hs hmem).2.1
      have plain : Enclosed 0 name.toList := enclosed_of_plain fun c hmem divides =>
        writable.plain name given c hmem (List.mem_append_left ['|'] divides)
      simp only [String.toList_append, String.toList_ofList]
      exact ((enclosed_of_blank hfront).append ((((writable.enclosed.append
        (enclosed_of_blank hbefore.2)).append word).append
          (enclosed_of_blank hafter.2)).append plain)).append
          (enclosed_of_blank hback)

theorem not_mem_of_blank {s : String} (blanks : blank s = true) : '|' ∉ s.toList := by
  intro hmem
  exact absurd (blank_iff.mp blanks '|' hmem) (by decide)

theorem Written.undivided (written : Written entry piece) (writable : entry.Writable) :
    '|' ∉ piece.toList := by
  cases written with
  | field _ hfront hback =>
      simp [String.toList_append, not_mem_of_blank hfront, writable.undivided,
        not_mem_of_blank hback]
  | @named front back name text given named hfront hback =>
      obtain @⟨before, after, a, s, hbefore, hafter, ha, hs⟩ := named
      have word : '|' ∉ [a, s] := fun hmem => (solid_of_as ha hs hmem).2.2 rfl
      have plain : '|' ∉ name.toList := fun hmem => writable.plain name given '|' hmem (by simp)
      simp only [String.toList_append, String.toList_ofList, List.mem_append, not_or]
      exact ⟨⟨not_mem_of_blank hfront, ⟨⟨⟨writable.undivided, not_mem_of_blank hbefore.2⟩, word⟩,
        not_mem_of_blank hafter.2⟩, plain⟩, not_mem_of_blank hback⟩

variable {entries : List ColumnEntry} {pieces : List String}

theorem map_read_of_written (writable : ∀ entry ∈ entries, entry.Writable)
    (written : List.Forall₂ Written entries pieces) :
    (((pieces.map String.toList).map strip).filter fun piece => !piece.isEmpty).map read =
      entries := by
  induction written with
  | nil => rfl
  | @cons _ piece _ _ first _ ih =>
      rw [List.forall_mem_cons] at writable
      obtain ⟨some, same⟩ := first.read_strip writable.1
      rw [List.map_cons, List.map_cons, List.filter_cons_of_pos (by simpa using some),
        List.map_cons, same, ih writable.2]

theorem forall_of_written {P : String → Prop} (written : List.Forall₂ Written entries pieces)
    (holds : ∀ entry ∈ entries, ∀ piece, Written entry piece → P piece) :
    ∀ piece ∈ pieces, P piece := by
  induction written with
  | nil => simp
  | cons first _ ih =>
      rw [List.forall_mem_cons] at holds ⊢
      exact ⟨holds.1 _ first, ih holds.2⟩

theorem readList_written (writable : ∀ entry ∈ entries, entry.Writable)
    (written : List.Forall₂ Written entries pieces) :
    readList (",".intercalate pieces).toList = entries := by
  have chars : (",".intercalate pieces).toList =
      [','].intercalate (pieces.map String.toList) := by
    rw [String.toList_intercalate]
    rfl
  by_cases none : pieces = []
  · subst none
    cases written
    rfl
  · have enclosed : ∀ piece ∈ pieces.map String.toList, Enclosed 0 piece := by
      rw [List.forall_mem_map]
      exact forall_of_written written fun entry hmem piece first =>
        first.enclosed (writable entry hmem)
    rw [chars, readList, cutAtCommas_intercalate (by simpa using none) enclosed,
      map_read_of_written writable written]

end Written

end ColumnEntry

namespace Columns

open ColumnEntry

theorem keyword_word {keyword : ColumnKeyword} {word : List Char}
    (lower : word.map Char.toLower = keyword.name.toList) :
    word ≠ [] ∧ (∀ c ∈ word, isBlank c = false) ∧
    String.ofList (lowercaseFrom [] word) = keyword.name := by
  have ascii : ∀ c ∈ keyword.name.toList,
    c.toNat < 128 := by cases keyword <;> simp [ColumnKeyword.name]
  have letters : ∀ c ∈ keyword.name.toList, isBlank c = false := by
    cases keyword <;> simp [ColumnKeyword.name, isBlank]
  refine ⟨?_, fun c hmem => ?_, ?_⟩
  · rintro rfl
    cases keyword <;> cases lower
  · rw [← isBlank_toLower]
    apply letters
    rw [← lower]
    exact List.mem_map_of_mem hmem
  · rw [lowercaseFrom_eq lower ascii, String.ofList_toList]

theorem readClause_of_lower {keyword : ColumnKeyword} {word gap list : List Char}
    (lower : word.map Char.toLower = keyword.name.toList) (apart : gap ≠ [])
    (blanks : ∀ c ∈ gap, isBlank c = true) (some : ∃ c ∈ list, isBlank c = false) :
    readClause (word ++ gap ++ list) = .some (keyword, ColumnEntry.readList list) := by
  obtain ⟨nonempty, solid, lowered⟩ := keyword_word lower
  obtain ⟨c, hmem, hc⟩ := some
  obtain ⟨front, back, rfl⟩ := List.append_of_mem hmem
  have stripped : strip (word ++ gap ++ (front ++ c :: back)) =
      word ++ (gap ++ stripEnd (front ++ c :: back)) := by
    have start : stripStart (word ++ gap ++ (front ++ c :: back)) =
        word ++ gap ++ (front ++ c :: back) := by
      apply stripStart_eq_self
      intro d head
      rw [List.append_assoc, List.head?_append_of_ne_nil _ nonempty] at head
      exact solid d (List.mem_of_head? head)
    rw [strip, start, ← List.append_assoc, stripEnd_append_cons hc, stripEnd_append_cons hc]
    simp
  have stop : ∀ d ∈ (gap ++ stripEnd (front ++ c :: back)).head?, isBlank d = true := by
    intro d head
    rw [List.head?_append_of_ne_nil _ apart] at head
    exact blanks d (List.mem_of_head? head)
  have taken :
      (word ++ (gap ++ stripEnd (front ++ c :: back))).takeWhile (fun c => !isBlank c) = word ∧
      (word ++ (gap ++ stripEnd (front ++ c :: back))).dropWhile (fun c => !isBlank c) =
        gap ++ stripEnd (front ++ c :: back) :=
    run_append (by simpa using solid) (by simpa using stop)
  have rest : strip (gap ++ stripEnd (front ++ c :: back)) = strip (front ++ c :: back) := by
    rw [strip, stripStart_append_of_blank blanks, ← strip, strip_stripEnd]
  have more : (gap ++ stripEnd (front ++ c :: back)).isEmpty =
    false := by simpa using fun none => absurd none apart
  simp only [readClause, stripped, taken, more, rest, ColumnEntry.readList_strip, lowered]
  cases keyword <;> rfl

/-- The last entry of a name gives the field that an alias stands for. -/
theorem lookup_aliasesOf (entries : List ColumnEntry) (name : String) :
    (aliasesOf entries).lookup name =
      (entries.filter fun entry => entry.alias? = some name).getLast?.map ColumnEntry.field := by
  induction entries using List.reverseRecOn with
  | nil => rfl
  | append_singleton entries entry ih =>
      obtain ⟨field, alias?⟩ := entry
      have last : aliasesOf (entries ++ [⟨field, alias?⟩]) =
          (alias?.map fun name => (name, field)).toList ++ aliasesOf entries := by
        cases alias? <;> simp [aliasesOf]
      rw [last, List.filter_append]
      cases alias? with
      | none => simpa using ih
      | some given =>
          by_cases same : given = name
          · simp [same]
          · have rest := Keyed.lookup_cons_of_ne (Ne.symm same) field (aliasesOf entries)
            simpa [same] using rest.trans ih

theorem readList_of_blank {cs : List Char} (blanks : ∀ c ∈ cs, isBlank c = true) :
    ColumnEntry.readList cs = [] := by
  rw [ColumnEntry.readList, cutAtCommas_of_blank blanks, List.map_singleton,
    strip_of_blank blanks]
  rfl

/-- A clause that declares columns is read as it was written: it shows each under its alias or
its name, in order, and an alias stands for the field of the last entry that has it. -/
theorem written_columns_are_read {keyword : ColumnKeyword} {word gap : String}
    {entries : List ColumnEntry} {pieces : List String}
    (lower : word.toList.map Char.toLower = keyword.name.toList) (apart : Gap gap)
    (some : entries ≠ []) (writable : ∀ entry ∈ entries, entry.Writable)
    (written : List.Forall₂ Written entries pieces) :
    let columns := ofQuery (word ++ gap ++ ",".intercalate pieces)
    columns.source = keyword.source ∧
    columns.names = entries.map (fun entry => entry.alias?.getD entry.field) ∧
    ∀ name, columns.aliases.lookup name =
      (entries.filter fun entry => entry.alias? = .some name).getLast?.map ColumnEntry.field := by
  have read := readList_written writable written
  have solid : ∃ c ∈ (",".intercalate pieces).toList, isBlank c = false := by
    by_contra none
    push Not at none
    rw [readList_of_blank (by simpa using none)] at read
    exact some read.symm
  have chars : (word ++ gap ++ ",".intercalate pieces).toList =
      word.toList ++ gap.toList ++ (",".intercalate pieces).toList := by
    rw [String.toList_append, String.toList_append]
  have whole : '|' ∉ (word ++ gap ++ ",".intercalate pieces).toList := by
    rw [chars, List.mem_append, List.mem_append]
    rintro ((hmem | hmem) | hmem)
    · have letter : '|' ∈ keyword.name.toList :=
        lower ▸ List.mem_map_of_mem (f := Char.toLower) hmem
      revert letter
      cases keyword <;> decide
    · exact not_mem_of_blank apart.2 hmem
    · refine @not_mem_intercalate '|' ',' (by decide) pieces ?_ hmem
      exact forall_of_written written fun entry hmem piece first =>
        first.undivided (writable entry hmem)
  have clauses : clausesOf (word ++ gap ++ ",".intercalate pieces) = [(keyword, entries)] := by
    rw [clausesOf, cut_of_not_mem whole, chars, List.filterMap_cons,
      readClause_of_lower lower (String.toList_eq_nil_iff.not.mpr apart.1)
        (blank_iff.mp apart.2) solid, read]
    rfl
  have columns : ofQuery (word ++ gap ++ ",".intercalate pieces) =
      ofClause (keyword, entries) := by
    change ofClauses (clausesOf _) = _
    rw [clauses]
    cases keyword <;> simp [ofClauses, addClause, ofClause, undeclared]
  rw [columns]
  refine ⟨?_, rfl, lookup_aliasesOf entries⟩
  cases keyword <;> rfl

theorem written_columns_are_read_nested :
    let columns := ofQuery "DISPLAY\n concat(a, b) as x ,strlen(@message),a as b As\tx"
    columns.source = .display ∧ columns.names = ["x", "strlen(@message)", "x"] ∧
      columns.aliases.lookup "x" = some "a as b" := by
  have first : Written ⟨"concat(a, b)", some "x"⟩
      (" " ++ ("concat(a, b)" ++ " " ++ String.ofList ['a', 's'] ++ " " ++ "x") ++ " ") :=
    .named rfl (.intro (by decide) (by decide) rfl rfl) rfl rfl
  have second : Written ⟨"strlen(@message)", none⟩ ("" ++ "strlen(@message)" ++ "") :=
    .field rfl rfl rfl
  have third : Written ⟨"a as b", some "x"⟩
      ("" ++ ("a as b" ++ " " ++ String.ofList ['A', 's'] ++ "\t" ++ "x") ++ "") :=
    .named rfl (.intro (by decide) (by decide) rfl rfl) rfl rfl
  have named {field : String} (some : field ≠ "") (trimmed : Trimmed field.toList)
      (undivided : '|' ∉ field.toList) (enclosed : Enclosed 0 field.toList) :
      ColumnEntry.Writable ⟨field, .some "x"⟩ := by
    refine ⟨some, trimmed, undivided, enclosed, by rintro ⟨⟩, ?_, ?_⟩
    · rintro _ ⟨⟩
      decide
    · rintro _ ⟨⟩
      simp
  have unnamed : ColumnEntry.Writable ⟨"strlen(@message)", none⟩ := by
    refine ⟨by decide, by decide, by decide, by decide, ?_, by rintro _ ⟨⟩, by rintro _ ⟨⟩⟩
    -- there is no blank in it
    intro _ field name _ _ reads
    have solid : ∀ c ∈ "strlen(@message)".toList, isBlank c = false := by simp [isBlank]
    change NamedAs field name "strlen(@message)" at reads
    generalize "strlen(@message)" = text at reads solid
    obtain ⟨before, -, -, -⟩ := reads
    obtain ⟨c, hmem⟩ := List.exists_mem_of_ne_nil _ (String.toList_eq_nil_iff.not.mpr before.1)
    exact Bool.false_ne_true
      ((solid c (by simp [hmem])).symm.trans (blank_iff.mp before.2 c hmem))
  have writable : ∀ entry ∈ [⟨"concat(a, b)", some "x"⟩, ⟨"strlen(@message)", none⟩,
    ⟨"a as b", some "x"⟩],
      ColumnEntry.Writable entry := by
    simp only [List.forall_mem_cons, List.not_mem_nil, false_implies, implies_true, and_true]
    exact ⟨named (by decide) (by decide) (by decide) (by decide), unnamed,
      named (by decide) (by decide) (by decide) (by decide)⟩
  have read :=
    @written_columns_are_read .display "DISPLAY" "\n" _ _ (by decide) (by decide) (by simp)
      writable (.cons first (.cons second (.cons third .nil)))
  exact ⟨read.1, read.2.1, read.2.2 "x"⟩

end Columns

end LogQuery
