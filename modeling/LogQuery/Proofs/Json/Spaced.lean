import LogQuery.Proofs.Json.Numbers

namespace LogQuery.Json

variable {α β : Type} {gap last text rest : List Char} {texts : List (List Char)}

/-- Whether characters are white space. -/
def Gap (gap : List Char) : Prop :=
  ∀ c ∈ gap, Reader.isSpace c = true

theorem gap_nil : Gap [] :=
  nofun

/-- Whether a text begins as a value does and not with what may stand before it. -/
def Solid (text : List Char) : Prop :=
  ∃ c cs, text = c :: cs ∧ Reader.isSpace c = false ∧ c ≠ ']' ∧ c ≠ ','

/-- Texts with white space before each of them and a comma before that, but not before the first
one. -/
def spaced (gap : List Char) (first : Bool) : List (List Char) → List Char
  | [] => []
  | text :: texts => (if first then [] else [',']) ++ (gap ++ (text ++ spaced gap false texts))

/-- A key and what stands for its value. -/
def keyed (text : β → List Char) (member : String × β) : List Char :=
  stringText member.1 ++ ':' :: text member.2

theorem nonempty_of_mem_keyed (text : β → List Char) (members : List (String × β)) :
    ∀ piece ∈ members.map (keyed text), piece ≠ [] := by
  rw [List.forall_mem_map]
  intro member _
  rw [keyed, Reader.stringText_append]
  exact List.cons_ne_nil _ _

theorem closes_bracket (rest : List Char) : Closes (']' :: rest) := by
  simp [Closes]

theorem closes_brace (rest : List Char) : Closes ('\x7d' :: rest) := by
  simp [Closes]

theorem closes_spaced (closes : Closes rest) (gap : List Char) (texts : List (List Char)) :
    Closes (spaced gap false texts ++ rest) := by
  cases texts with
  | nil => exact closes
  | cons text texts => simp [Closes, spaced]

theorem length_le_spaced (nonempty : ∀ text ∈ texts, text ≠ []) (gap : List Char) (first : Bool) :
    texts.length ≤ (spaced gap first texts).length := by
  induction texts generalizing first with
  | nil => exact Nat.zero_le _
  | cons text texts ih =>
      rw [List.forall_mem_cons] at nonempty
      have others := ih nonempty.2 false
      have some := List.length_pos_of_ne_nil nonempty.1
      rw [spaced]
      simp only [List.length_append, List.length_cons]
      omega

theorem length_lt_spaced (nonempty : ∀ text ∈ texts, text ≠ []) (gap : List Char) (bracket : Char)
    (rest : List Char) :
    texts.length < (bracket :: (spaced gap true texts ++ rest)).length + 1 := by
  have le := length_le_spaced nonempty gap true
  rw [List.length_cons, List.length_append]
  omega

namespace Reader

theorem peekToken_gap (space : Gap gap) (cs : List Char) :
    peekToken (gap ++ cs) = peekToken cs := by
  rw [peekToken, peekToken, List.dropWhile_append_of_pos space]

theorem beforeItem_spaced {first : Bool} (space : Gap gap) (solid : Solid text)
    (rest : List Char) :
    beforeItem first ((if first then [] else [',']) ++ (gap ++ (text ++ rest))) =
      .ok (true, text ++ rest) := by
  obtain ⟨c, cs, rfl, solid, bracket, comma⟩ := solid
  have token : peekToken (gap ++ c :: (cs ++ rest)) = .ok (some c, c :: (cs ++ rest)) :=
    (peekToken_gap space _).trans (peekToken_cons solid _)
  cases first with
  | true => simp [beforeItem, token]
  | false =>
      have stop : isSpace ',' = false := rfl
      simp [beforeItem, peekToken_cons stop, token]

theorem beforeItem_end (space : Gap last) (first : Bool) (rest : List Char) :
    beforeItem first (last ++ ']' :: rest) = .ok (false, ']' :: rest) := by
  have stop : isSpace ']' = false := rfl
  simp [beforeItem, peekToken_gap space, peekToken_cons stop]

theorem beforeKey_spaced {first : Bool} (space : Gap gap) (key : String) (rest : List Char) :
    beforeKey first ((if first then [] else [',']) ++ (gap ++ (stringText key ++ rest))) =
      .ok (true, stringText key ++ rest) := by
  have quote : isSpace '"' = false := rfl
  have stop : isSpace ',' = false := rfl
  rw [stringText_append]
  cases first with
  | true => simp [beforeKey, peekToken_gap space, peekToken_cons quote]
  | false => simp [beforeKey, peekToken_cons stop, peekToken_gap space, peekToken_cons quote]

theorem beforeKey_end (space : Gap last) (first : Bool) (rest : List Char) :
    beforeKey first (last ++ '\x7d' :: rest) = .ok (false, '\x7d' :: rest) := by
  have stop : isSpace '\x7d' = false := rfl
  simp [beforeKey, peekToken_gap space, peekToken_cons stop]

theorem key_stringText (name : String) (rest : List Char) :
    key (stringText name ++ rest) = .ok (name, rest) := by
  rw [stringText_append]
  simp [key, stringTail_flatMap]

theorem closeArray_close (rest : List Char) : closeArray (']' :: rest) = .ok ((), rest) := by
  have stop : isSpace ']' = false := rfl
  simp [closeArray, peekToken_cons stop]

theorem closeObject_close (rest : List Char) : closeObject ('\x7d' :: rest) = .ok ((), rest) := by
  have stop : isSpace '\x7d' = false := rfl
  simp [closeObject, peekToken_cons stop]

@[simp] theorem colon_colon (rest : List Char) : colon (':' :: rest) = .ok ((), rest) := by
  have stop : isSpace ':' = false := rfl
  simp [colon, peekToken_cons stop]

section Items

variable {item : Reader α} {write : β → List Char} {f : β → α} {items : List β}

theorem itemsFrom_spaced (space : Gap gap) (solid : ∀ b ∈ items, Solid (write b))
    (reads : ∀ b ∈ items, ∀ rest, Closes rest → item (write b ++ rest) = .ok (f b, rest))
    (space' : Gap last) (closes : Closes (last ++ ']' :: rest)) {limit : Nat}
    (enough : items.length < limit) (first : Bool) :
    itemsFrom item limit first (spaced gap first (items.map write) ++ (last ++ ']' :: rest)) =
      .ok (items.map f, ']' :: rest) := by
  induction items generalizing limit first with
  | nil =>
      obtain ⟨limit, rfl⟩ := Nat.exists_eq_add_one.mpr enough
      simp [itemsFrom, spaced, beforeItem_end space']
  | cons b items ih =>
      obtain ⟨limit, rfl⟩ := Nat.exists_eq_add_one_of_ne_zero (Nat.ne_zero_of_lt enough)
      rw [List.forall_mem_cons] at solid reads
      have others := ih solid.2 reads.2 (Nat.lt_of_succ_lt_succ enough) false
      have here := reads.1 _ (closes_spaced closes gap (items.map write))
      rw [List.map_cons, spaced, List.append_assoc, List.append_assoc, List.append_assoc,
        itemsFrom, bind_apply, beforeItem_spaced space solid.1]
      simp [here, others]

theorem array_spaced (space : Gap gap) (solid : ∀ b ∈ items, Solid (write b))
    (reads : ∀ b ∈ items, ∀ rest, Closes rest → item (write b ++ rest) = .ok (f b, rest))
    (space' : Gap last) (closes : Closes (last ++ ']' :: rest)) :
    array item ('[' :: (spaced gap true (items.map write) ++ (last ++ ']' :: rest))) =
      .ok (items.map f, rest) := by
  have nonempty : ∀ text ∈ items.map write, text ≠ [] := by
    rw [List.forall_mem_map]
    intro b hmem
    obtain ⟨c, cs, same, -⟩ := solid b hmem
    exact same ▸ List.cons_ne_nil c cs
  have enough := length_lt_spaced nonempty gap '[' (last ++ ']' :: rest)
  rw [List.length_map] at enough
  rw [array]
  simp only [bind_apply, skip_cons, ok_bind,
    itemsFrom_spaced space solid reads space' closes enough, closeArray_close, pure_apply]

end Items

section Members

variable {member : String → Reader α} {write : β → List Char} {f : β → α}
    {members : List (String × β)}

theorem membersFrom_spaced (space : Gap gap)
    (reads : ∀ m ∈ members, ∀ rest, Closes rest →
      member m.1 (write m.2 ++ rest) = .ok (f m.2, rest))
    (space' : Gap last) (closes : Closes (last ++ '\x7d' :: rest)) {limit : Nat}
    (enough : members.length < limit) (first : Bool) :
    membersFrom member limit first (spaced gap first (members.map (keyed write)) ++
      (last ++ '\x7d' :: rest)) =
      .ok (members.map fun m => (m.1, f m.2), '\x7d' :: rest) := by
  induction members generalizing limit first with
  | nil =>
      obtain ⟨limit, rfl⟩ := Nat.exists_eq_add_one.mpr enough
      simp [membersFrom, spaced, beforeKey_end space']
  | cons m members ih =>
      obtain ⟨limit, rfl⟩ := Nat.exists_eq_add_one_of_ne_zero (Nat.ne_zero_of_lt enough)
      rw [List.forall_mem_cons] at reads
      have others := ih reads.2 (Nat.lt_of_succ_lt_succ enough) false
      have here := reads.1 _ (closes_spaced closes gap (members.map (keyed write)))
      rw [List.map_cons, spaced, keyed, List.append_assoc, List.append_assoc, List.append_assoc,
        List.append_assoc, membersFrom, bind_apply, beforeKey_spaced space]
      simp [key_stringText, here, others]

theorem object_spaced (space : Gap gap)
    (reads : ∀ m ∈ members, ∀ rest, Closes rest →
      member m.1 (write m.2 ++ rest) = .ok (f m.2, rest))
    (space' : Gap last) (closes : Closes (last ++ '\x7d' :: rest)) :
    object member
        ('\x7b' :: (spaced gap true (members.map (keyed write)) ++ (last ++ '\x7d' :: rest))) =
      .ok (members.map fun m => (m.1, f m.2), rest) := by
  have enough :=
    length_lt_spaced (nonempty_of_mem_keyed write members) gap '\x7b' (last ++ '\x7d' :: rest)
  rw [List.length_map] at enough
  rw [object]
  simp only [bind_apply, skip_cons, ok_bind, membersFrom_spaced space reads space' closes enough,
    closeObject_close, pure_apply]

end Members

end Reader

end LogQuery.Json
