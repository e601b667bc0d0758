import LogQuery.Json.ShapeReader
import LogQuery.Json.Value

namespace LogQuery.Json

namespace Reader

variable {α β : Type}

@[simp] theorem bind_apply (reader : Reader α) (next : α → Reader β) (cs : List Char) :
    (reader >>= next) cs = reader cs >>= fun read => next read.1 read.2 :=
  rfl

@[simp] theorem pure_apply (a : α) (cs : List Char) : (pure a : Reader α) cs = .ok (a, cs) :=
  rfl

@[simp] theorem map_apply (f : α → β) (reader : Reader α) (cs : List Char) :
    (f <$> reader) cs = reader cs >>= fun read => .ok (f read.1, read.2) :=
  rfl

@[simp] theorem if_apply (condition : Prop) [Decidable condition] (yes no : Reader α)
    (cs : List Char) :
    (if condition then yes else no) cs = if condition then yes cs else no cs :=
  by split <;> rfl

@[simp] theorem ok_bind (a : α) (next : α → Except Fault β) : (Except.ok a >>= next) = next a :=
  rfl

@[simp] theorem error_bind (fault : Fault) (next : α → Except Fault β) :
    (Except.error fault >>= next) = .error fault :=
  rfl

@[simp] theorem failHere_apply (kind : FaultKind) (cs : List Char) :
    (failHere kind : Reader α) cs = .error ⟨kind, some (byteCount cs)⟩ :=
  rfl

@[simp] theorem failAtNext_apply (kind : FaultKind) (cs : List Char) :
    (failAtNext kind : Reader α) cs = .error ⟨kind, some (byteCount cs - 1)⟩ :=
  rfl

@[simp] theorem peek_apply (cs : List Char) : peek cs = .ok (cs.head?, cs) :=
  rfl

@[simp] theorem skip_cons (c : Char) (cs : List Char) : skip (c :: cs) = .ok ((), cs) :=
  rfl

@[simp] theorem next_cons (atEnd : FaultKind) (c : Char) (cs : List Char) :
    next atEnd (c :: cs) = .ok (c, cs) :=
  rfl

theorem peekToken_cons {c : Char} (solid : isSpace c = false) (cs : List Char) :
    peekToken (c :: cs) = .ok (some c, c :: cs) := by
  simp [peekToken, solid]

theorem discard_apply {reader : Reader α} {a : α} {cs rest : List Char}
    (reads : reader cs = .ok (a, rest)) : (discard reader : Reader Unit) cs = .ok ((), rest) := by
  change (reader cs >>= fun read => pure ((), read.2)) = _
  rw [reads]
  rfl

theorem readAll_of_reads {reader : Reader α} {a : α} {text : String}
    (reads : reader text.toList = .ok (a, [])) :
    readAll reader text = .ok a := by
  change ((reader >>= fun a => atEnd >>= fun _ => pure a : Reader α) text.toList >>=
    fun read => pure read.1) = _
  rw [bind_apply, reads]
  rfl

theorem word_append (cs rest : List Char) : word cs (cs ++ rest) = .ok ((), rest) := by
  induction cs with
  | nil => rfl
  | cons c cs ih =>
      rw [List.cons_append, word]
      simp [ih]

@[simp] theorem word_null (rest : List Char) :
    word ['n', 'u', 'l', 'l'] ('n' :: 'u' :: 'l' :: 'l' :: rest) = .ok ((), rest) :=
  word_append ['n', 'u', 'l', 'l'] rest

@[simp] theorem word_true (rest : List Char) :
    word ['t', 'r', 'u', 'e'] ('t' :: 'r' :: 'u' :: 'e' :: rest) = .ok ((), rest) :=
  word_append ['t', 'r', 'u', 'e'] rest

@[simp] theorem word_false (rest : List Char) :
    word ['f', 'a', 'l', 's', 'e'] ('f' :: 'a' :: 'l' :: 's' :: 'e' :: rest) = .ok ((), rest) :=
  word_append ['f', 'a', 'l', 's', 'e'] rest

end Reader

/-! ### Strings -/

theorem hexValue?_hexDigit : ∀ n < 16, Reader.hexValue? (hexDigit n) = some n := by
  decide

theorem fourHex?_control {c : Char} (control : c.toNat < 0x20) :
    Reader.fourHex? ['0', '0', hexDigit (c.toNat / 16), hexDigit (c.toNat % 16)] =
      some c.toNat := by
  have zero : Reader.hexValue? '0' = some 0 := rfl
  have high := hexValue?_hexDigit (c.toNat / 16) (by omega)
  have low := hexValue?_hexDigit (c.toNat % 16) (by omega)
  simp only [Reader.fourHex?, zero, high, low]
  simp
  omega

namespace Reader

theorem unicodeEscape_control {c : Char} (control : c.toNat < 0x20) (rest : List Char) :
    unicodeEscape ('0' :: '0' :: hexDigit (c.toNat / 16) :: hexDigit (c.toNat % 16) :: rest) =
      .ok (c, rest) := by
  have number :
      hexEscape ('0' :: '0' :: hexDigit (c.toNat / 16) :: hexDigit (c.toNat % 16) :: rest) =
        .ok (c.toNat, rest) := by
    simp [hexEscape, fourHex?_control control]
  rw [unicodeEscape, bind_apply, number, ok_bind, if_neg (by omega), if_pos (by omega)]
  simp

theorem stringFrom_escapeChar {limit : Nat} {cs rest left : List Char} (c : Char)
    (reads : stringFrom limit rest = .ok (cs, left)) :
    stringFrom (limit + 1) (escapeChar c ++ rest) = .ok (c :: cs, left) := by
  rw [stringFrom, escapeChar.eq_def]
  split
  case h_8 _ quote slash _ _ _ _ _ =>
    split
    case isTrue control =>
      simp [escape, shortEscape?, unicodeEscape_control control, reads]
    case isFalse printed =>
      simp [show c ≠ '"' from quote, show c ≠ '\\' from slash, printed, reads]
  all_goals simp [escape, shortEscape?, reads]

theorem stringFrom_flatMap {limit : Nat} {cs : List Char} (enough : cs.length < limit)
    (rest : List Char) :
    stringFrom limit (cs.flatMap escapeChar ++ '"' :: rest) = .ok (cs, rest) := by
  induction cs generalizing limit with
  | nil =>
      obtain ⟨limit, rfl⟩ := Nat.exists_eq_add_one.mpr enough
      simp [stringFrom]
  | cons c cs ih =>
      obtain ⟨limit, rfl⟩ := Nat.exists_eq_add_one_of_ne_zero (Nat.ne_zero_of_lt enough)
      rw [List.flatMap_cons, List.append_assoc]
      exact stringFrom_escapeChar c (ih (Nat.lt_of_succ_lt_succ enough))

theorem skipStringFrom_escapeChar {limit : Nat} {rest left : List Char} (c : Char)
    (skips : skipStringFrom limit rest = .ok ((), left)) :
    skipStringFrom (limit + 1) (escapeChar c ++ rest) = .ok ((), left) := by
  rw [skipStringFrom, escapeChar.eq_def]
  split
  case h_8 _ quote slash _ _ _ _ _ =>
    split
    case isTrue control =>
      have number (cs : List Char) :
          (discard hexEscape : Reader Unit)
            ('0' :: '0' :: hexDigit (c.toNat / 16) :: hexDigit (c.toNat % 16) :: cs) =
              .ok ((), cs) :=
        discard_apply (a := c.toNat) (by simp [hexEscape, fourHex?_control control])
      simp [skipEscape, shortEscape?, number, skips]
    case isFalse printed =>
      simp [show c ≠ '"' from quote, show c ≠ '\\' from slash, printed, skips]
  all_goals simp [skipEscape, shortEscape?, skips]

theorem skipStringFrom_flatMap {limit : Nat} {cs : List Char} (enough : cs.length < limit)
    (rest : List Char) :
    skipStringFrom limit (cs.flatMap escapeChar ++ '"' :: rest) = .ok ((), rest) := by
  induction cs generalizing limit with
  | nil =>
      obtain ⟨limit, rfl⟩ := Nat.exists_eq_add_one.mpr enough
      simp [skipStringFrom]
  | cons c cs ih =>
      obtain ⟨limit, rfl⟩ := Nat.exists_eq_add_one_of_ne_zero (Nat.ne_zero_of_lt enough)
      rw [List.flatMap_cons, List.append_assoc]
      exact skipStringFrom_escapeChar c (ih (Nat.lt_of_succ_lt_succ enough))

theorem length_le_flatMap_escapeChar (cs : List Char) :
    cs.length ≤ (cs.flatMap escapeChar).length := by
  induction cs with
  | nil => simp
  | cons c cs ih =>
      have some : 1 ≤ (escapeChar c).length := by
        rw [escapeChar.eq_def]
        split
        case h_8 => split <;> simp
        all_goals simp
      rw [List.flatMap_cons, List.length_append, List.length_cons]
      omega

theorem stringText_append (s : String) (rest : List Char) :
    stringText s ++ rest = '"' :: (s.toList.flatMap escapeChar ++ '"' :: rest) := by
  simp [stringText]

theorem stringTail_flatMap (s : String) (rest : List Char) :
    stringTail (s.toList.flatMap escapeChar ++ '"' :: rest) = .ok (s, rest) := by
  have enough : s.toList.length < (s.toList.flatMap escapeChar ++ '"' :: rest).length + 1 := by
    have le := length_le_flatMap_escapeChar s.toList
    rw [List.length_append]
    omega
  change (stringFrom _ _ >>= fun read => Except.ok (String.ofList read.1, read.2)) = _
  rw [stringFrom_flatMap enough]
  simp

theorem skipString_flatMap (s : String) (rest : List Char) :
    skipString (s.toList.flatMap escapeChar ++ '"' :: rest) = .ok ((), rest) := by
  have enough : s.toList.length < (s.toList.flatMap escapeChar ++ '"' :: rest).length + 1 := by
    have le := length_le_flatMap_escapeChar s.toList
    rw [List.length_append]
    omega
  rw [skipString, skipStringFrom_flatMap enough]

end Reader

end LogQuery.Json
