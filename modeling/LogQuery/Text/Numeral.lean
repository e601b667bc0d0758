namespace LogQuery.Text

def digit? (c : Char) : Option Nat :=
  if '0' ≤ c ∧ c ≤ '9' then some (c.toNat - '0'.toNat) else none

def isDigit (c : Char) : Bool :=
  '0' ≤ c && c ≤ '9'

/-- The number that a run of digits stands for, continuing from `acc`. Other characters are
skipped. -/
def valueFrom (acc : Nat) (cs : List Char) : Nat :=
  cs.foldl (fun n c => n * 10 + (digit? c).getD 0) acc

/-- The number that a run of digits stands for. -/
def value (cs : List Char) : Nat :=
  valueFrom 0 cs

/-- The number that a non-empty run of digits stands for, if it is one. -/
def unsigned? (cs : List Char) : Option Nat :=
  if cs.isEmpty || !cs.all isDigit then none else some (value cs)

/-- The integer that a numeral stands for: an optional sign, then digits. -/
def integer? : List Char → Option Int
  | '+' :: cs => (unsigned? cs).map Int.ofNat
  | '-' :: cs => (unsigned? cs).map fun n => -(n : Int)
  | cs => (unsigned? cs).map Int.ofNat

/-- Whether an integer fits 32 bits with a sign. -/
def fitsInt32 (n : Int) : Bool :=
  -2147483648 ≤ n && n ≤ 2147483647

/-- The least integer of 64 bits with a sign. -/
def int64Min : Int := -9223372036854775808

/-- The greatest integer of 64 bits with a sign. -/
def int64Max : Int := 9223372036854775807

/-- Whether an integer fits 64 bits with a sign. -/
def fitsInt64 (n : Int) : Bool :=
  int64Min ≤ n && n ≤ int64Max

/-- The greatest integer of 64 bits without a sign. -/
def wordMax : Nat := 18446744073709551615

/-- Whether a natural number fits 64 bits. -/
def fitsWord (n : Nat) : Bool :=
  n ≤ wordMax

/-- The integer of 32 bits that a numeral stands for. -/
def int32? (s : String) : Option Int :=
  (integer? s.toList).filter fitsInt32

/-- The integer of 64 bits that a numeral stands for. -/
def int64? (s : String) : Option Int :=
  (integer? s.toList).filter fitsInt64

/-- The unsigned integer of 64 bits that a numeral stands for; a plus sign may stand before it. -/
def word? (s : String) : Option Nat :=
  let digits := match s.toList with
    | '+' :: cs => cs
    | cs => cs
  (unsigned? digits).filter fitsWord

/-- The digits of a number, at least `width` of them, with zeros in front. -/
def padDigits (width n : Nat) : String :=
  let digits := Nat.repr n
  String.ofList (List.replicate (width - digits.length) '0') ++ digits

end LogQuery.Text
