import LogQuery.Proofs.Json.Canonical
import LogQuery.Proofs.Json.Reading
import LogQuery.Proofs.Json.Values

namespace LogQuery.Json

section Texts

variable {depth : Nat} {v w : Json}

theorem gap_newline (level : Nat) : Gap (newline level) := by
  intro c hmem
  rcases List.mem_cons.mp hmem with rfl | hmem
  · rfl
  · rw [List.eq_of_mem_replicate hmem]
    rfl

theorem closes_newline (level : Nat) (rest : List Char) : Closes (newline level ++ rest) := by
  simp [Closes, newline]

/-- The white space before a closing bracket: none if the brackets are empty. -/
def closing {α : Type} (level : Nat) : List α → List Char
  | [] => []
  | _ => newline level

theorem gap_closing {α : Type} (level : Nat) (as : List α) : Gap (closing level as) := by
  cases as with
  | nil => exact gap_nil
  | cons a as => exact gap_newline level

theorem closes_closing {α : Type} {rest : List Char} (closes : Closes rest) (level : Nat)
    (as : List α) : Closes (closing level as ++ rest) := by
  cases as with
  | nil => exact closes
  | cons a as => exact closes_newline level rest

theorem prettyItems_eq (level : Nat) (items : List Json) :
    prettyItems level items = spaced (newline level) true (items.map (pretty level)) := by
  induction items with
  | nil => rfl
  | cons item items ih =>
      cases items with
      | nil => simp [prettyItems, spaced]
      | cons next items =>
          rw [prettyItems, ih]
          · simp [spaced]
          · simp

/-- The text of a value behind a colon. -/
def afterColon (level : Nat) (v : Json) : List Char :=
  ' ' :: v.pretty level

theorem prettyMembers_eq (level : Nat) (members : List (String × Json)) :
    prettyMembers level members =
      spaced (newline level) true (members.map (keyed (afterColon level))) := by
  induction members with
  | nil => rfl
  | cons member members ih =>
      cases members with
      | nil => simp [prettyMembers, spaced, keyed, afterColon]
      | cons next members =>
          rw [prettyMembers, ih]
          · simp [spaced, keyed, afterColon]
          · simp

theorem pretty_of_single (single : v.isCollection = false) (level : Nat) :
    v.pretty level = v.compact := by
  cases v with
  | array items => cases single
  | object members => cases single
  | _ => simp [pretty, compact]

theorem pretty_array_append (level : Nat) (items : List Json) (rest : List Char) :
    (array items).pretty level ++ rest =
      '[' :: (spaced (newline (level + 1)) true (items.map (pretty (level + 1))) ++
        (closing level items ++ ']' :: rest)) := by
  cases items with
  | nil => simp [pretty, spaced, closing]
  | cons item items =>
      rw [pretty, prettyItems_eq, closing]
      · simp
      · simp
      · simp

theorem pretty_object_append (level : Nat) (members : List (String × Json)) (rest : List Char) :
    (object members).pretty level ++ rest =
      '\x7b' ::
      (spaced (newline (level + 1)) true (members.map (keyed (afterColon (level + 1)))) ++
        (closing level members ++ '\x7d' :: rest)) := by
  cases members with
  | nil => simp [pretty, spaced, closing]
  | cons member members =>
      rw [pretty, prettyMembers_eq, closing]
      · simp
      · simp
      · simp

theorem solid_pretty (readAs : ReadAs depth v w) (level : Nat) : Solid (v.pretty level) := by
  cases v with
  | array items =>
      have text := pretty_array_append level items []
      rw [List.append_nil] at text
      exact ⟨'[', _, text, rfl, by decide, by decide⟩
  | object members =>
      have text := pretty_object_append level members []
      rw [List.append_nil] at text
      exact ⟨'\x7b', _, text, rfl, by decide, by decide⟩
  | _ =>
      rw [pretty_of_single rfl]
      exact (Reader.begins_compact readAs).solid

end Texts

namespace Reader

variable {depth level : Nat} {v w : Json} {rest : List Char}

theorem value_gap {gap : List Char} (space : Gap gap) (cs : List Char) :
    value (depth + 1) (gap ++ cs) = value (depth + 1) cs := by
  rw [value, bind_apply, bind_apply, peekToken_gap space]

/-- A value is read as far as it was written, where what follows does not go on with it. -/
theorem value_pretty (readAs : ReadAs depth v w) (level : Nat) (closes : Closes rest) :
    value depth (v.pretty level ++ rest) = .ok (w, rest) := by
  induction readAs generalizing level rest with
  | null => exact value_compact .null closes
  | bool b =>
      rw [pretty_of_single rfl]
      exact value_compact (.bool b) closes
  | integer fits =>
      rw [pretty_of_single rfl]
      exact value_compact (.integer fits) closes
  | number reads =>
      rw [pretty_of_single rfl]
      exact value_compact (.number reads) closes
  | string s =>
      rw [pretty_of_single rfl]
      exact value_compact (.string s) closes
  | @array depth items f each ih =>
      have solid : isSpace '[' = false := rfl
      have items := array_spaced (gap_newline (level + 1))
        (fun v hmem => solid_pretty (each v hmem) (level + 1))
        (fun v hmem rest closes => ih v hmem (level + 1) closes) (gap_closing level items)
        (closes_closing (closes_bracket rest) level items)
      rw [pretty_array_append, value, bind_apply, peekToken_cons solid, ok_bind]
      simp [items]
  | @object depth members f each ih =>
      have solid : isSpace '\x7b' = false := rfl
      have space : Gap [' '] := List.forall_mem_singleton.mpr rfl
      have reads (m : String × Json) (hmem : m ∈ members) (rest : List Char)
        (closes : Closes rest) :
          value (depth + 1) (afterColon (level + 1) m.2 ++ rest) = .ok (f m.2, rest) :=
        (value_gap space _).trans (ih m hmem (level + 1) closes)
      have members :=
        @object_spaced _ _ _ _ _ (fun _ =>
          value (depth + 1)) _ f members (gap_newline (level + 1))
        reads (gap_closing level members) (closes_closing (closes_brace rest) level members)
      rw [pretty_object_append, value, bind_apply, peekToken_cons solid, ok_bind]
      simp [members]

end Reader

theorem read_prettyText {v w : Json} (readAs : ReadAs Reader.depthLimit v w) :
    read v.prettyText = .ok w := by
  have reads := Reader.value_pretty readAs 0 closes_nil
  rw [List.append_nil] at reads
  rw [prettyText, read]
  exact Reader.readAll_of_reads (by rwa [String.toList_ofList])

/-! ### Values without fractions -/

mutual

/-- Whether all numbers in a value are integers. -/
def integral : Json → Bool
  | number _ => false
  | array items => integralItems items
  | object members => integralMembers members
  | _ => true

def integralItems : List Json → Bool
  | [] => true
  | item :: items => integral item && integralItems items

def integralMembers : List (String × Json) → Bool
  | [] => true
  | (_, value) :: members => integral value && integralMembers members

end

theorem integralItems_iff {items : List Json} :
    integralItems items = true ↔ ∀ item ∈ items, item.integral = true := by
  induction items with
  | nil => simp [integralItems]
  | cons item items ih => rw [integralItems, Bool.and_eq_true, ih, List.forall_mem_cons]

theorem integralMembers_iff {members : List (String × Json)} :
    integralMembers members = true ↔ ∀ member ∈ members, member.2.integral = true := by
  induction members with
  | nil => simp [integralMembers]
  | cons member members ih => rw [integralMembers, Bool.and_eq_true, ih, List.forall_mem_cons]

theorem Bounded.readAs_canonical {depth : Nat} {v : Json} (bounded : Bounded depth v)
    (whole : v.integral = true) :
    ReadAs depth v.canonical v.canonical := by
  induction bounded with
  | null => exact .null
  | bool b => exact .bool b
  | integer fits => exact .integer fits
  | number x => cases whole
  | string s => exact .string s
  | @array depth items each ih =>
      rw [integral, integralItems_iff] at whole
      have items : ∀ item ∈ items.map canonical, ReadAs (depth + 1) item (id item) := by
        rw [List.forall_mem_map]
        exact fun item hmem => ih item hmem (whole item hmem)
      rw [canonical_array]
      simpa using ReadAs.array id items
  | @object depth members each ih =>
      rw [integral, integralMembers_iff] at whole
      have members : ∀ member ∈ sortMembers (members.map fun member =>
        (member.1, member.2.canonical)),
          ReadAs (depth + 1) member.2 (id member.2) := by
        intro member hmem
        obtain ⟨original, known, rfl⟩ := List.mem_map.mp (mem_of_mem_sortMembers hmem)
        exact ih original known (whole original known)
      rw [canonical_object]
      simpa using ReadAs.object id members

/-- A value without fractions that was read from a text is read again from its text over several
lines. -/
theorem read_prettyText_canonical {text : String} {v : Json} (reads : read text = .ok v)
    (whole : v.integral = true) :
    read v.canonical.prettyText = .ok v.canonical :=
  read_prettyText ((bounded_of_read reads).readAs_canonical whole)

end LogQuery.Json
