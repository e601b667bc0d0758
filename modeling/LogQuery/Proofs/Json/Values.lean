import LogQuery.Proofs.Json.Spaced

namespace LogQuery.Json

open Text

/-- Whether a number is read back as it was from its text. Some are not, such as `1e-23`, since a
power of ten is applied by one multiplication or division. -/
def ReadsBack (x : Float) : Prop :=
  Reader.numeral (numberText x).toList = .ok (.real x, [])

/-- What the text of a value is read as, where the value nests to a depth below `depth`. All but
numbers with a point are read as they were. -/
inductive ReadAs : (depth : Nat) → Json → Json → Prop where
  | null {depth : Nat} : ReadAs (depth + 1) null null
  | bool {depth : Nat} (b : Bool) : ReadAs (depth + 1) (bool b) (bool b)
  | integer {depth : Nat} {n : Int} (fits : Reader.Fits64 n) :
      ReadAs (depth + 1) (integer n) (integer n)
  | number {depth : Nat} {x y : Float}
      (reads : Reader.numeral (numberText x).toList = .ok (.real y, [])) :
      ReadAs (depth + 1) (number x) (number y)
  | string {depth : Nat} (s : String) : ReadAs (depth + 1) (string s) (string s)
  | array {depth : Nat} {items : List Json} (f : Json → Json)
      (each : ∀ item ∈ items, ReadAs (depth + 1) item (f item)) :
      ReadAs (depth + 2) (array items) (array (items.map f))
  | object {depth : Nat} {members : List (String × Json)} (f : Json → Json)
      (each : ∀ member ∈ members, ReadAs (depth + 1) member.2 (f member.2)) :
      ReadAs (depth + 2) (object members)
        (object (members.map fun member => (member.1, f member.2)))

/-- Whether a value shows by the first character of its text: that there is one, and whether it is
`null`. -/
def Begins (v : Json) : Prop :=
  ∀ rest, ∃ c cs, v.compact ++ rest = c :: cs ∧ Reader.isSpace c = false ∧ c ≠ ']' ∧ c ≠ ',' ∧
    (c = 'n' → v = null)

theorem Begins.solid {v : Json} (begins : Begins v) : Solid v.compact := by
  obtain ⟨c, cs, chars, solid, bracket, comma, -⟩ := begins []
  rw [List.append_nil] at chars
  exact ⟨c, cs, chars, solid, bracket, comma⟩

theorem compact_null (rest : List Char) :
    null.compact ++ rest = 'n' :: 'u' :: 'l' :: 'l' :: rest := by
  simp [compact, scalarText]

theorem compact_true (rest : List Char) :
    (bool true).compact ++ rest = 't' :: 'r' :: 'u' :: 'e' :: rest := by
  simp [compact, scalarText]

theorem compact_false (rest : List Char) :
    (bool false).compact ++ rest = 'f' :: 'a' :: 'l' :: 's' :: 'e' :: rest := by
  simp [compact, scalarText]

theorem compact_string (s : String) : (string s).compact = stringText s := by
  simp [compact, scalarText]

/-! ### Items and members -/

/-- Items with a comma before each of them, but not before the first one. -/
def itemsText (first : Bool) : List Json → List Char
  | [] => []
  | item :: items => (if first then [] else [',']) ++ item.compact ++ itemsText false items

/-- A key and a value. -/
def memberText (member : String × Json) : List Char :=
  stringText member.1 ++ ':' :: member.2.compact

/-- Members with a comma before each of them, but not before the first one. -/
def membersText (first : Bool) : List (String × Json) → List Char
  | [] => []
  | member :: members =>
    (if first then [] else [',']) ++ memberText member ++ membersText false members

theorem compactItems_eq (items : List Json) : compactItems items = itemsText true items := by
  induction items with
  | nil => rfl
  | cons item items ih =>
      cases items with
      | nil => simp [compactItems, itemsText]
      | cons next items =>
          rw [compactItems, ih]
          · simp [itemsText]
          · simp

theorem compactMembers_eq (members : List (String × Json)) :
    compactMembers members = membersText true members := by
  induction members with
  | nil => rfl
  | cons member members ih =>
      cases members with
      | nil => simp [compactMembers, membersText, memberText]
      | cons next members =>
          rw [compactMembers, ih]
          · simp [membersText, memberText]
          · simp

theorem itemsText_eq_spaced (first : Bool) (items : List Json) :
    itemsText first items = spaced [] first (items.map compact) := by
  induction items generalizing first with
  | nil => rfl
  | cons item items ih =>
      rw [itemsText, ih, List.map_cons, spaced, List.nil_append, List.append_assoc]

theorem memberText_eq_keyed : memberText = keyed compact :=
  rfl

theorem membersText_eq_spaced (first : Bool) (members : List (String × Json)) :
    membersText first members = spaced [] first (members.map memberText) := by
  induction members generalizing first with
  | nil => rfl
  | cons member members ih =>
      rw [membersText, ih, List.map_cons, spaced, List.nil_append, List.append_assoc]

theorem closes_membersText (members : List (String × Json)) (rest : List Char) :
    Closes (membersText false members ++ '\x7d' :: rest) := by
  rw [membersText_eq_spaced]
  exact closes_spaced (closes_brace rest) [] _

theorem compact_array_append (items : List Json) (rest : List Char) :
    (array items).compact ++ rest = '[' :: (itemsText true items ++ ']' :: rest) := by
  simp [compact, compactItems_eq]

theorem compact_object_append (members : List (String × Json)) (rest : List Char) :
    (object members).compact ++ rest =
    '\x7b' :: (membersText true members ++ '\x7d' :: rest) := by
  simp [compact, compactMembers_eq]

namespace Reader

variable {α : Type}

theorem beforeItem_compact {first : Bool} {v : Json} (begins : Begins v) (rest : List Char) :
    beforeItem first ((if first then [] else [',']) ++ (v.compact ++ rest)) =
      .ok (true, v.compact ++ rest) :=
  beforeItem_spaced gap_nil begins.solid rest

theorem beforeKey_close (first : Bool) (rest : List Char) :
    beforeKey first ('\x7d' :: rest) = .ok (false, '\x7d' :: rest) :=
  beforeKey_end gap_nil first rest

theorem beforeKey_memberText (first : Bool) (member : String × Json) (rest : List Char) :
    beforeKey first ((if first then [] else [',']) ++ (memberText member ++ rest)) =
      .ok (true, memberText member ++ rest) := by
  rw [memberText, List.append_assoc]
  exact beforeKey_spaced gap_nil member.1 _

theorem key_memberText (member : String × Json) (rest : List Char) :
    key (memberText member ++ rest) = .ok (member.1, ':' :: (member.2.compact ++ rest)) := by
  rw [memberText, List.append_assoc, key_stringText]
  rfl

theorem array_compact {item : Reader α} {f : Json → α} {items : List Json}
    (begins : ∀ v ∈ items, Begins v)
    (reads : ∀ v ∈ items, ∀ rest, Closes rest → item (v.compact ++ rest) = .ok (f v, rest))
    (rest : List Char) :
    array item ((Json.array items).compact ++ rest) = .ok (items.map f, rest) := by
  have read : array item ('[' :: (spaced [] true (items.map compact) ++ ([] ++ ']' :: rest))) =
      .ok (items.map f, rest) :=
    array_spaced gap_nil (fun v hmem => (begins v hmem).solid) reads gap_nil (closes_bracket rest)
  rw [List.nil_append] at read
  rw [compact_array_append, itemsText_eq_spaced, read]

theorem length_le_membersText (members : List (String × Json)) (first : Bool) :
    members.length ≤ (membersText first members).length := by
  have le := length_le_spaced (nonempty_of_mem_keyed compact members) [] first
  rwa [List.length_map, ← memberText_eq_keyed, ← membersText_eq_spaced] at le

theorem length_lt_membersText (members : List (String × Json)) (rest : List Char) :
    members.length < (membersText true members ++ rest).length + 1 := by
  have le := length_le_membersText members true
  rw [List.length_append]
  omega

theorem object_compact {member : String → Reader α} {f : Json → α}
    {members : List (String × Json)}
    (reads : ∀ m ∈ members, ∀ rest, Closes rest →
      member m.1 (m.2.compact ++ rest) = .ok (f m.2, rest))
    (rest : List Char) :
    object member ((Json.object members).compact ++ rest) =
      .ok (members.map fun m => (m.1, f m.2), rest) := by
  have read : object member
    ('\x7b' :: (spaced [] true (members.map (keyed compact)) ++ ([] ++ '\x7d' :: rest))) =
      .ok (members.map fun m => (m.1, f m.2), rest) :=
    object_spaced gap_nil reads gap_nil (closes_brace rest)
  rw [List.nil_append] at read
  rw [compact_object_append, membersText_eq_spaced, memberText_eq_keyed, read]

/-! ### Values -/

variable {depth : Nat} {v w : Json} {rest : List Char}

theorem ne_of_numeral {c d : Char} (either : c = '-' ∨ isDigit c = true)
    (other : isDigit d = false ∧ d ≠ '-') : c ≠ d := by
  rintro rfl
  rcases either with minus | digit
  · exact other.2 minus
  · rw [digit] at other
    cases other.1

theorem plain_of_numeral {c : Char} (either : c = '-' ∨ isDigit c = true) :
    c ≠ 'n' ∧ c ≠ 't' ∧ c ≠ 'f' ∧ c ≠ '"' ∧ c ≠ '[' ∧ c ≠ '\x7b' :=
  ⟨ne_of_numeral either (by decide), ne_of_numeral either (by decide),
    ne_of_numeral either (by decide),
    ne_of_numeral either (by decide), ne_of_numeral either (by decide),
    ne_of_numeral either (by decide)⟩

theorem isSpace_of_numeral {c : Char} (either : c = '-' ∨ isDigit c = true) :
    isSpace c = false := by
  simp [isSpace, ne_of_numeral either (d := ' ') (by decide),
    ne_of_numeral either (d := '\n') (by decide),
    ne_of_numeral either (d := '\t') (by decide), ne_of_numeral either (d := '\r') (by decide)]

theorem begins_of_numeral {left : List Char} {number : Numeral}
    (reads : numeral v.compact = .ok (number, left)) : Begins v := by
  intro rest
  obtain ⟨c, ds, chars, either⟩ := numeral_begins reads
  rw [chars]
  exact ⟨c, ds ++ rest, rfl, isSpace_of_numeral either, ne_of_numeral either (by decide),
    ne_of_numeral either (by decide), fun n => absurd n (ne_of_numeral either (by decide))⟩

theorem begins_compact (readAs : ReadAs depth v w) : Begins v := by
  cases readAs with
  | null => exact fun rest => ⟨'n', _, compact_null rest, by simp [isSpace]⟩
  | bool b =>
      cases b with
      | false => exact fun rest => ⟨'f', _, compact_false rest, by simp [isSpace]⟩
      | true => exact fun rest => ⟨'t', _, compact_true rest, by simp [isSpace]⟩
  | integer fits => exact begins_of_numeral (numeral_toString fits)
  | number reads => exact begins_of_numeral reads
  | string s =>
      exact fun rest =>
        ⟨'"', _, (compact_string s).symm ▸ stringText_append s rest, by simp [isSpace]⟩
  | array _ _ => exact fun rest => ⟨'[', _, compact_array_append _ rest, by simp [isSpace]⟩
  | object _ _ => exact fun rest => ⟨'\x7b', _, compact_object_append _ rest, by simp [isSpace]⟩

/-- A number as a value. -/
def Numeral.toJson : Numeral → Json
  | integer n => .integer n
  | real x => .number x

theorem value_numeral {cs left : List Char} {number : Numeral}
    (reads : numeral cs = .ok (number, left)) :
    value (depth + 1) cs = .ok (number.toJson, left) := by
  obtain ⟨c, ds, rfl, either⟩ := numeral_begins reads
  have begun : (decide (c = '-') || isDigit c) = true := by simpa using either
  rw [value, bind_apply, peekToken_cons (isSpace_of_numeral either), ok_bind]
  obtain ⟨n, t, f, quote, bracket, brace⟩ := plain_of_numeral either
  simp only [if_neg n, if_neg t, if_neg f, if_neg quote, if_neg bracket, if_neg brace,
    if_pos begun, bind_apply, reads, ok_bind]
  cases number <;> rfl

/-- A value is read as far as it was written, where what follows does not go on with it. -/
theorem value_compact (readAs : ReadAs depth v w) (closes : Closes rest) :
    value depth (v.compact ++ rest) = .ok (w, rest) := by
  induction readAs generalizing rest with
  | null =>
      have solid : isSpace 'n' = false := rfl
      rw [compact_null, value, bind_apply, peekToken_cons solid, ok_bind]
      simp
  | @bool depth b =>
      cases b with
      | false =>
          have solid : isSpace 'f' = false := rfl
          rw [compact_false, value, bind_apply, peekToken_cons solid, ok_bind]
          simp
      | true =>
          have solid : isSpace 't' = false := rfl
          rw [compact_true, value, bind_apply, peekToken_cons solid, ok_bind]
          simp
  | integer fits => exact value_numeral (numeral_append (numeral_toString fits) closes).1
  | number reads => exact value_numeral (numeral_append reads closes).1
  | string s =>
      have solid : isSpace '"' = false := rfl
      rw [compact_string, stringText_append]
      simp [value, peekToken_cons solid, stringTail_flatMap]
  | @array depth items f each ih =>
      have solid : isSpace '[' = false := rfl
      have items := array_compact (fun v hmem => begins_compact (each v hmem))
        (fun v hmem rest closes => ih v hmem closes) rest
      rw [compact_array_append] at items ⊢
      rw [value, bind_apply, peekToken_cons solid, ok_bind]
      simp [items]
  | @object depth members f each ih =>
      have solid : isSpace '\x7b' = false := rfl
      have items := @object_compact _ (fun _ => value (depth + 1)) f members
        (fun m hmem rest closes => ih m hmem closes) rest
      rw [compact_object_append] at items ⊢
      rw [value, bind_apply, peekToken_cons solid, ok_bind]
      simp [items]

/-! ### Skipping -/

theorem length_le_of_mem_items {items : List Json} (mem : v ∈ items) (first : Bool) :
    v.compact.length ≤ (itemsText first items).length := by
  induction items generalizing first with
  | nil => cases mem
  | cons item items ih =>
      rw [itemsText, List.length_append, List.length_append]
      rcases List.mem_cons.mp mem with rfl | mem
      · omega
      · have le := ih mem false
        omega

theorem length_le_of_mem_members {members : List (String × Json)} {m : String × Json}
    (mem : m ∈ members) (first : Bool) :
    m.2.compact.length ≤ (membersText first members).length := by
  induction members generalizing first with
  | nil => cases mem
  | cons member members ih =>
      rw [membersText, List.length_append, List.length_append, memberText, List.length_append,
        List.length_cons]
      rcases List.mem_cons.mp mem with rfl | mem
      · omega
      · have le := ih mem false
        omega

theorem skipValueFrom_numeral {limit : Nat} {cs left : List Char} {number : Numeral}
    (reads : numeral cs = .ok (number, left)) (closes : Closes rest) :
    skipValueFrom (limit + 1) (cs ++ rest) = .ok ((), left ++ rest) := by
  obtain ⟨c, ds, rfl, either⟩ := numeral_begins reads
  have begun : (decide (c = '-') || isDigit c) = true := by simpa using either
  have skips := (numeral_append reads closes).2
  rw [List.cons_append] at skips ⊢
  rw [skipValueFrom, bind_apply, peekToken_cons (isSpace_of_numeral either), ok_bind]
  obtain ⟨n, t, f, quote, bracket, brace⟩ := plain_of_numeral either
  simp only [if_neg n, if_neg t, if_neg f, if_neg quote, if_neg bracket, if_neg brace,
    if_pos begun, skips]

theorem length_compact_pos (readAs : ReadAs depth v w) : 0 < v.compact.length := by
  obtain ⟨c, cs, chars, -⟩ := begins_compact readAs []
  rw [List.append_nil] at chars
  rw [chars, List.length_cons]
  exact Nat.succ_pos _

/-- A value is skipped as it was written, as long as it is not longer than it may be deep. -/
theorem skipValueFrom_compact {limit : Nat} (readAs : ReadAs depth v w)
    (enough : v.compact.length ≤ limit + 1) (closes : Closes rest) :
    skipValueFrom (limit + 1) (v.compact ++ rest) = .ok ((), rest) := by
  induction readAs generalizing limit rest with
  | null =>
      have solid : isSpace 'n' = false := rfl
      rw [compact_null, skipValueFrom, bind_apply, peekToken_cons solid, ok_bind]
      simp
  | @bool depth b =>
      cases b with
      | false =>
          have solid : isSpace 'f' = false := rfl
          rw [compact_false, skipValueFrom, bind_apply, peekToken_cons solid, ok_bind]
          simp
      | true =>
          have solid : isSpace 't' = false := rfl
          rw [compact_true, skipValueFrom, bind_apply, peekToken_cons solid, ok_bind]
          simp
  | integer fits => exact skipValueFrom_numeral (numeral_toString fits) closes
  | number reads => exact skipValueFrom_numeral reads closes
  | string s =>
      have solid : isSpace '"' = false := rfl
      rw [compact_string, stringText_append, skipValueFrom, bind_apply,
        peekToken_cons solid, ok_bind]
      simp [skipString_flatMap]
  | @array depth items f each ih =>
      have solid : isSpace '[' = false := rfl
      have length : (Json.array items).compact.length = (itemsText true items).length + 2 := by
        simp [compact, compactItems_eq]
      -- an item is shorter than the array, so that one level less is enough for it
      have skips (v : Json) (hmem : v ∈ items) (rest : List Char) (closes : Closes rest) :
          skipValueFrom limit (v.compact ++ rest) = .ok ((), rest) := by
        have positive := length_compact_pos (each v hmem)
        have le := length_le_of_mem_items hmem true
        obtain ⟨limit, rfl⟩ : ∃ less, limit = less + 1 := Nat.exists_eq_add_one.mpr (by omega)
        exact ih v hmem (by omega) closes
      have all :=
        discard_apply (array_compact (fun v hmem => begins_compact (each v hmem)) skips rest)
      rw [compact_array_append] at all ⊢
      rw [skipValueFrom, bind_apply, peekToken_cons solid, ok_bind]
      simp [all]
  | @object depth members f each ih =>
      have solid : isSpace '\x7b' = false := rfl
      have length : (Json.object members).compact.length =
          (membersText true members).length + 2 := by
        simp [compact, compactMembers_eq]
      have skips (m : String × Json) (hmem : m ∈ members) (rest : List Char)
        (closes : Closes rest) :
          skipValueFrom limit (m.2.compact ++ rest) = .ok ((), rest) := by
        have positive := length_compact_pos (each m hmem)
        have le := length_le_of_mem_members hmem true
        obtain ⟨limit, rfl⟩ : ∃ less, limit = less + 1 := Nat.exists_eq_add_one.mpr (by omega)
        exact ih m hmem (by omega) closes
      have all :=
        discard_apply
          (@object_compact _ (fun _ => skipValueFrom limit) (fun _ => ()) members skips rest)
      rw [compact_object_append] at all ⊢
      rw [skipValueFrom, bind_apply, peekToken_cons solid, ok_bind]
      simp [all]

theorem skipValue_compact (readAs : ReadAs depth v w) (closes : Closes rest) :
    skipValue (v.compact ++ rest) = .ok ((), rest) := by
  refine skipValueFrom_compact readAs ?_ closes
  rw [List.length_append]
  omega

end Reader

end LogQuery.Json
