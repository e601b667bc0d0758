import LogQuery.Proofs.Json.Numbers

namespace LogQuery.Json

open Text

/-- Whether a value nests to a depth below `depth` and its integers are of 64 bits. -/
inductive Bounded : (depth : Nat) → Json → Prop where
  | null {depth : Nat} : Bounded (depth + 1) null
  | bool {depth : Nat} (b : Bool) : Bounded (depth + 1) (bool b)
  | integer {depth : Nat} {n : Int} (fits : Reader.Fits64 n) : Bounded (depth + 1) (integer n)
  | number {depth : Nat} (x : Float) : Bounded (depth + 1) (number x)
  | string {depth : Nat} (s : String) : Bounded (depth + 1) (string s)
  | array {depth : Nat} {items : List Json} (each : ∀ item ∈ items, Bounded (depth + 1) item) :
      Bounded (depth + 2) (array items)
  | object {depth : Nat} {members : List (String × Json)}
      (each : ∀ member ∈ members, Bounded (depth + 1) member.2) :
      Bounded (depth + 2) (object members)

namespace Reader

variable {α β : Type} {p : α → Prop}

/-- Whether every value of a reader has a property. -/
def Gives (p : α → Prop) (reader : Reader α) : Prop :=
  ∀ cs a rest, reader cs = .ok (a, rest) → p a

theorem gives_any (reader : Reader α) : Gives (fun _ => True) reader :=
  fun _ _ _ _ => trivial

theorem gives_pure {a : α} (holds : p a) : Gives p (pure a) := by
  rintro cs _ _ ⟨⟩
  exact holds

theorem gives_failHere (kind : FaultKind) : Gives p (failHere kind) :=
  nofun

theorem gives_failAtNext (kind : FaultKind) : Gives p (failAtNext kind) :=
  nofun

theorem gives_ite {condition : Prop} [Decidable condition] {yes no : Reader α}
    (left : Gives p yes) (right : Gives p no) : Gives p (if condition then yes else no) := by
  split
  · exact left
  · exact right

theorem Gives.bind {q : β → Prop} {reader : Reader β} {next : β → Reader α}
    (first : Gives q reader) (second : ∀ b, q b → Gives p (next b)) :
    Gives p (reader >>= next) := by
  intro cs a rest read
  rw [bind_apply] at read
  cases left : reader cs with
  | error fault =>
      rw [left] at read
      cases read
  | ok result =>
      rw [left, ok_bind] at read
      exact second result.1 (first cs result.1 result.2 left) result.2 a rest read

theorem gives_bind {reader : Reader β} {next : β → Reader α} (second : ∀ b, Gives p (next b)) :
    Gives p (reader >>= next) :=
  (gives_any reader).bind fun b _ => second b

/-! ### Numbers -/

/-- Whether a number is of 64 bits if it is an integer. -/
def Numeral.Fits : Numeral → Prop
  | integer n => Fits64 n
  | real _ => True

section Numbers

variable {negative : Bool} {significand : Nat} {exponent : Int}

theorem fitsWord_takeWord {acc : Nat} (fits : fitsWord acc = true) (ds : List Char) :
    fitsWord (takeWord acc ds).1 = true := by
  induction ds generalizing acc with
  | nil => exact fits
  | cons d ds ih =>
      rw [takeWord]
      by_cases more : fitsWord (acc * 10 + (digit? d).getD 0) = true
      · simpa [more] using ih more
      · simpa [more] using fits

theorem gives_realOf : Gives Numeral.Fits (realOf negative significand exponent) := by
  unfold realOf
  split
  · exact gives_pure trivial
  · exact gives_failHere _

theorem gives_exponentDigits {down : Bool} :
    Gives Numeral.Fits (exponentDigits negative significand exponent down) := by
  unfold exponentDigits
  refine gives_bind fun first => ?_
  -- behind the test of the first digit, which gives no value
  have digits : Gives Numeral.Fits (digits >>= fun cs =>
      if Text.value (first :: cs) > 2147483647 then
        if significand ≠ 0 ∧ !down then failHere .numberOutOfRange
        else pure (.real (if negative then -0.0 else 0.0))
      else realOf negative significand
        (if down then exponent - Text.value (first :: cs) else exponent +
          Text.value (first :: cs))) :=
    gives_bind fun cs =>
      gives_ite (gives_ite (gives_failHere _) (gives_pure trivial)) gives_realOf
  exact gives_ite (gives_bind fun _ => digits) digits

theorem gives_exponentPart : Gives Numeral.Fits (exponentPart negative significand exponent) := by
  intro cs number rest read
  by_cases other : ∀ c ∈ cs.head?, c ≠ 'e' ∧ c ≠ 'E'
  · rw [exponentPart_of_ne other] at read
    exact gives_realOf cs number rest read
  · cases cs with
    | nil => exact absurd nofun other
    | cons c cs =>
        have either : c = 'e' ∨ c = 'E' := by simpa [or_iff_not_imp_left] using other
        rw [exponentPart_cons either] at read
        exact gives_exponentDigits _ number rest read

theorem gives_decimalPart : Gives Numeral.Fits (decimalPart negative significand exponent) := by
  unfold decimalPart
  refine gives_bind fun cs => ?_
  dsimp only
  split
  · refine gives_bind fun next => ?_
    split
    · exact gives_bind fun _ => gives_exponentPart
    · exact gives_bind fun _ => gives_exponentPart
  · exact gives_exponentPart

theorem gives_wholeNumber (fits : fitsWord significand = true) (dropped : Nat) :
    Gives Numeral.Fits (wholeNumber negative significand dropped) := by
  unfold wholeNumber
  split
  · exact gives_realOf
  · split
    · refine gives_pure (.inr ?_)
      rw [Shape.fitsUnsigned]
      simpa using fits
    · split
      · next small => exact gives_pure (.inl small.2)
      · exact gives_pure trivial

theorem gives_wholeTail (fits : fitsWord significand = true) (dropped : Nat) :
    Gives Numeral.Fits (wholeTail negative significand dropped) := by
  unfold wholeTail
  refine gives_bind fun next => ?_
  split
  · exact gives_bind fun _ => gives_decimalPart
  · exact gives_exponentPart
  · exact gives_exponentPart
  · exact gives_wholeNumber fits dropped

theorem gives_numeralTail : Gives Numeral.Fits (numeralTail negative) := by
  intro cs number rest read
  cases cs with
  | nil => cases read
  | cons c cs =>
      cases digit : isDigit c with
      | false => simp [numeralTail, digit] at read
      | true =>
          by_cases zeros : c = '0' ∧ cs.takeWhile isDigit ≠ []
          · simp only [numeralTail, bind_apply, next_cons, ok_bind, digit, digits_apply,
              if_apply] at read
            simp [zeros] at read
          · rw [numeralTail_cons digit zeros] at read
            exact gives_wholeTail (fitsWord_takeWord rfl _) _ _ number rest read

theorem gives_numeral : Gives Numeral.Fits numeral := by
  unfold numeral
  refine gives_bind fun next => ?_
  split
  · exact gives_bind fun _ => gives_numeralTail
  · exact gives_numeralTail

end Numbers

/-! ### Values -/

theorem gives_itemsFrom {item : Reader α} (each : Gives p item) (limit : Nat) (first : Bool) :
    Gives (fun items => ∀ a ∈ items, p a) (itemsFrom item limit first) := by
  induction limit generalizing first with
  | zero => exact gives_failHere _
  | succ limit ih =>
      rw [itemsFrom]
      refine gives_bind fun more => ?_
      split
      · exact each.bind fun a holds => (ih false).bind fun items others =>
          gives_pure (List.forall_mem_cons.mpr ⟨holds, others⟩)
      · exact gives_pure nofun

theorem gives_membersFrom {member : String → Reader α} (each : ∀ name, Gives p (member name))
    (limit : Nat) (first : Bool) :
    Gives (fun members => ∀ m ∈ members, p m.2) (membersFrom member limit first) := by
  induction limit generalizing first with
  | zero => exact gives_failHere _
  | succ limit ih =>
      rw [membersFrom]
      refine gives_bind fun more => ?_
      split
      · refine gives_bind fun name => gives_bind fun _ => ?_
        exact (each name).bind fun a holds => (ih false).bind fun members others =>
          gives_pure (List.forall_mem_cons.mpr ⟨holds, others⟩)
      · exact gives_pure nofun

theorem gives_array {item : Reader α} (each : Gives p item) :
    Gives (fun items => ∀ a ∈ items, p a) (array item) :=
  fun cs => (gives_bind fun _ => (gives_itemsFrom each (cs.length + 1) true).bind fun _ all =>
    gives_bind fun _ => gives_pure all : Gives _ _) cs

theorem gives_object {member : String → Reader α} (each : ∀ name, Gives p (member name)) :
    Gives (fun members => ∀ m ∈ members, p m.2) (object member) :=
  fun cs => (gives_bind fun _ => (gives_membersFrom each (cs.length + 1) true).bind fun _ all =>
    gives_bind fun _ => gives_pure all : Gives _ _) cs

theorem gives_value (depth : Nat) : Gives (Bounded depth) (value depth) := by
  induction depth with
  | zero => exact gives_failAtNext _
  | succ depth ih =>
      rw [value]
      refine gives_bind fun next => ?_
      split
      · exact gives_failAtNext _
      · refine gives_ite (gives_bind fun _ => gives_pure .null) ?_
        refine gives_ite (gives_bind fun _ => gives_pure (.bool true)) ?_
        refine gives_ite (gives_bind fun _ => gives_pure (.bool false)) ?_
        refine gives_ite (gives_bind fun _ => gives_bind fun s => gives_pure (.string s)) ?_
        refine gives_ite ?_ (gives_ite ?_ (gives_ite ?_ (gives_failAtNext _)))
        · cases depth with
          | zero => exact gives_failAtNext _
          | succ depth => exact (gives_array ih).bind fun items each => gives_pure (.array each)
        · cases depth with
          | zero => exact gives_failAtNext _
          | succ depth =>
            exact (gives_object fun _ => ih).bind fun members each => gives_pure (.object each)
        · refine gives_numeral.bind fun number fits => ?_
          cases number with
          | integer n => exact gives_pure (.integer fits)
          | real x => exact gives_pure (.number x)

theorem Gives.of_readAll {reader : Reader α} {text : String} {a : α} (gives : Gives p reader)
    (reads : readAll reader text = .ok a) : p a := by
  have whole : Gives p (reader >>= fun a => atEnd >>= fun _ => pure a) :=
    gives.bind fun a holds => gives_bind fun _ => gives_pure holds
  change ((reader >>= fun a => atEnd >>= fun _ => pure a : Reader α) text.toList >>=
    fun read => pure read.1) = _ at reads
  cases result : (reader >>= fun a => atEnd >>= fun _ => pure a : Reader α) text.toList with
  | error fault =>
      rw [result] at reads
      cases reads
  | ok read =>
      rw [result] at reads
      cases reads
      exact whole _ _ _ result

end Reader

/-- A value that is read from a text nests to a depth below 128. -/
theorem bounded_of_read {text : String} {v : Json} (reads : read text = .ok v) :
    Bounded Reader.depthLimit v :=
  (Reader.gives_value _).of_readAll reads

end LogQuery.Json
