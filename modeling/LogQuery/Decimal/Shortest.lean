/-!
The shortest decimal of a floating-point number: the fewest digits that read back as the same
number, and of those the nearest to it. A finite positive number is `m * 2 ^ e`; all decimals
between the midpoints to its two neighbours read back as it, and the midpoints themselves do if
`m` is even.
-/

namespace LogQuery

/-- A decimal number: `digits * 10 ^ exponent`. -/
structure Decimal where
  digits : Nat
  exponent : Int
deriving DecidableEq, Repr

namespace Decimal

/-- A positive binary number: `significand * 2 ^ exponent`. -/
structure Binary where
  significand : Nat
  exponent : Int
deriving DecidableEq, Repr

/-- The magnitude of a finite floating-point number. -/
def Binary.ofBits (bits : UInt64) : Binary :=
  let fraction := (bits &&& 0xFFFFFFFFFFFFF).toNat
  let field := ((bits >>> 52) &&& 0x7FF).toNat
  if field = 0 then ⟨fraction, -1074⟩ else ⟨fraction + Nat.pow 2 52, field - 1075⟩

/-- The numbers that read back as a binary number, in units of a quarter of its last place:
lower bound, the number itself, upper bound. Below a power of two the neighbours are closer. -/
def Binary.interval (b : Binary) : Nat × Nat × Nat :=
  let value := 4 * b.significand
  let below := if b.significand = Nat.pow 2 52 ∧ b.exponent > -1074 then 1 else 2
  (value - below, value, value + 2)

def scaled (n : Nat) (e k : Int) : Nat × Nat :=
  (n * Nat.pow 2 e.toNat * Nat.pow 10 (-k).toNat, Nat.pow 2 (-e).toNat * Nat.pow 10 k.toNat)

/-- The decimal on the grid of multiples of `10 ^ k` that reads back as `b`, the nearer one if
there are two; the even one if both are equally near. -/
def onGrid? (b : Binary) (k : Int) : Option Decimal :=
  let (low, value, high) := b.interval
  let e := b.exponent - 2
  let (numerator, denominator) := scaled value e k
  let (lowNumerator, _) := scaled low e k
  let (highNumerator, _) := scaled high e k
  let closed := b.significand % 2 = 0
  let inside (d : Nat) : Bool :=
    if closed then lowNumerator ≤ d * denominator && d * denominator ≤ highNumerator
    else lowNumerator < d * denominator && d * denominator < highNumerator
  let down := numerator / denominator
  let twiceRest := 2 * (numerator % denominator)
  let nearDown := twiceRest < denominator || (twiceRest == denominator && down % 2 == 0)
  match inside down, inside (down + 1) with
  | true, true => some ⟨if nearDown then down else down + 1, k⟩
  | true, false => some ⟨down, k⟩
  | false, true => some ⟨down + 1, k⟩
  | false, false => none

/-- The number of decimal digits of the whole part of a fraction. -/
def wholeDigits (numerator denominator : Nat) : Nat :=
  if numerator < denominator then 0 else (Nat.repr (numerator / denominator)).length

/-- The power of ten of the first digit of a binary number, plus one. -/
def magnitude (b : Binary) : Int :=
  let (numerator, denominator) := scaled b.significand b.exponent 0
  if denominator ≤ numerator then wholeDigits numerator denominator
  else
    -- a number below one has as many zeros behind the point as its inverse has digits, less one
    let inverse := wholeDigits denominator numerator
    if numerator * Nat.pow 10 inverse = denominator * 10 then 2 - inverse
    else 1 - inverse

/-- A decimal without zeros at the end of its digits; at most `limit` of them are taken off. -/
def dropZeros : (limit : Nat) → Decimal → Decimal
  | 0, d => d
  | limit + 1, d =>
    if d.digits ≠ 0 ∧ d.digits % 10 = 0 then dropZeros limit ⟨d.digits / 10, d.exponent + 1⟩
    else d

/-- The shortest decimal that reads back as a positive binary number: the first of the grids with
one digit, two digits and so on that has one. Seventeen digits are always enough. -/
def shortest (b : Binary) : Decimal :=
  let top := magnitude b
  let found := (List.range 17).findSome? fun (n : Nat) => onGrid? b (top - 1 - n)
  dropZeros 20 (found.getD ⟨0, 0⟩)

structure Style where
  /-- The least power of ten of the first digit that is written without an exponent. -/
  leastPositional : Int
  /-- The greatest power of ten of the first digit that is written without an exponent. -/
  greatestPositional : Int
  /-- Whether `.0` is written behind a whole number. -/
  pointZero : Bool
  exponentSign : Bool

/-- The digits with a point among them or zeros around them. -/
def positional (style : Style) (d : Decimal) : String :=
  let digits := Nat.repr d.digits
  if 0 ≤ d.exponent then
    digits ++ String.ofList (List.replicate d.exponent.toNat '0') ++
      (if style.pointZero then ".0" else "")
  else
    let places := (-d.exponent).toNat
    let padded := (List.replicate (places + 1 - digits.length) '0') ++ digits.toList
    let whole := padded.length - places
    String.ofList (padded.take whole) ++ "." ++ String.ofList (padded.drop whole)

/-- One digit, the others behind a point, and the power of ten of the first digit. -/
def scientific (style : Style) (d : Decimal) : String :=
  let digits := (Nat.repr d.digits).toList
  let power := d.exponent + digits.length - 1
  let mantissa := match digits with
    | [] => ""
    | [first] => String.ofList [first]
    | first :: rest => String.ofList (first :: '.' :: rest)
  let sign := if power < 0 then "-" else if style.exponentSign then "+" else ""
  mantissa ++ "e" ++ sign ++ Nat.repr power.natAbs

def Style.write (style : Style) (d : Decimal) : String :=
  let power := d.exponent + (Nat.repr d.digits).length - 1
  if d.digits = 0 ∨ (style.leastPositional ≤ power ∧ power ≤ style.greatestPositional) then
    positional style d
  else scientific style d

/-- A finite floating-point number as it is written in a style. -/
def Style.writeFloat (style : Style) (x : Float) : String :=
  let bits := x.toBits
  let sign := if bits >>> 63 = 1 then "-" else ""
  let magnitude := Binary.ofBits bits
  sign ++ style.write (if magnitude.significand = 0 then ⟨0, 0⟩ else shortest magnitude)

end Decimal

end LogQuery
