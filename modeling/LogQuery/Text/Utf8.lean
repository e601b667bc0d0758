namespace LogQuery.Text.Utf8

def encode (s : String) : List UInt8 :=
  s.toUTF8.toList

def text? (bytes : List UInt8) : Option String :=
  String.fromUTF8? ⟨bytes.toArray⟩

/-- What stands for bytes that are no character. -/
def replacement : Char := '\uFFFD'

structure Opened where
  bits : Nat
  /-- The least value that the next byte may have. -/
  least : Nat
  /-- The greatest value that the next byte may have. -/
  most : Nat
  /-- The number of bytes that are missing after the next one. -/
  more : Nat
deriving DecidableEq, Repr

/-- What a byte amounts to. -/
inductive Part where
  | char (c : Char)
  | opened (begun : Opened)
  | invalid
deriving DecidableEq, Repr

def first (b : Nat) : Part :=
  if b ≤ 0x7F then .char (Char.ofNat b)
  else if 0xC2 ≤ b ∧ b ≤ 0xDF then .opened ⟨b - 0xC0, 0x80, 0xBF, 0⟩
  else if b = 0xE0 then .opened ⟨0, 0xA0, 0xBF, 1⟩
  else if b = 0xED then .opened ⟨0xD, 0x80, 0x9F, 1⟩
  else if 0xE1 ≤ b ∧ b ≤ 0xEF then .opened ⟨b - 0xE0, 0x80, 0xBF, 1⟩
  else if b = 0xF0 then .opened ⟨0, 0x90, 0xBF, 2⟩
  else if 0xF1 ≤ b ∧ b ≤ 0xF3 then .opened ⟨b - 0xF0, 0x80, 0xBF, 2⟩
  else if b = 0xF4 then .opened ⟨4, 0x80, 0x8F, 2⟩
  else .invalid

def Opened.extend (begun : Opened) (b : Nat) : Part :=
  if begun.least ≤ b ∧ b ≤ begun.most then
    let bits := begun.bits * 64 + b % 64
    match begun.more with
    | 0 => .char (Char.ofNat bits)
    | more + 1 => .opened ⟨bits, 0x80, 0xBF, more⟩
  else .invalid

/-- The characters of bytes, where `begun?` is a character that the bytes before them have
begun. -/
def charsFrom (begun? : Option Opened) : List UInt8 → List Char
  | [] => if begun?.isSome then [replacement] else []
  | b :: bs =>
    match begun?.map (Opened.extend · b.toNat) with
    | some (.char c) => c :: charsFrom none bs
    | some (.opened begun) => charsFrom (some begun) bs
    | broken? =>
      let before := if broken?.isSome then [replacement] else []
      match first b.toNat with
      | .char c => before ++ c :: charsFrom none bs
      | .opened begun => before ++ charsFrom (some begun) bs
      | .invalid => before ++ replacement :: charsFrom none bs

def decode (bytes : List UInt8) : String :=
  String.ofList (charsFrom none bytes)

end LogQuery.Text.Utf8
