/-
Numbers in the 64-bit binary floating-point format.

A number is kept as its bits. The order is that of the values: both zeros are equal, and a value that is
not a number compares with nothing. `ofRatio` rounds an exact quotient to the nearest number and a tie to
the one with an even last bit; everything is natural-number arithmetic, so statements about it are about
definite values.
-/
namespace EntityHistory

/-- A number in the 64-bit binary floating-point format. -/
structure Double where
  bits : UInt64
deriving DecidableEq, Repr, Inhabited

namespace Double

/-- Whether the sign bit is set. -/
def isNegative (d : Double) : Bool := Nat.pow 2 63 ≤ d.bits.toNat

/-- The bits below the sign. -/
def magnitude (d : Double) : Nat := d.bits.toNat % Nat.pow 2 63

/-- The exponent field. -/
def exponentField (d : Double) : Nat := d.magnitude / Nat.pow 2 52

def isNaN (d : Double) : Bool := 2047 * Nat.pow 2 52 < d.magnitude

def isFinite (d : Double) : Bool := d.magnitude < 2047 * Nat.pow 2 52

/-- The whole number `m` of the value `m * 2 ^ e` of a finite number. -/
def significand (d : Double) : Nat :=
  let fraction := d.magnitude % Nat.pow 2 52
  if d.exponentField = 0 then fraction else Nat.pow 2 52 + fraction

/-- The exponent `e` of the value `m * 2 ^ e` of a finite number. -/
def exponent (d : Double) : Int := (max 1 d.exponentField : Nat) - 1075

/-- The position in the order of the values: the magnitude with its sign, so that the zeros coincide. -/
def rank (d : Double) : Int := if d.isNegative then -(d.magnitude : Int) else d.magnitude

/-- The order of two values; a value that is not a number is in no order with any. -/
def compare? (a b : Double) : Option Ordering :=
  if a.isNaN || b.isNaN then none else some (compare a.rank b.rank)

/-- The number with the given sign and magnitude bits. -/
def ofMagnitude (negative : Bool) (magnitude : Nat) : Double :=
  ⟨UInt64.ofNat (magnitude + if negative then Nat.pow 2 63 else 0)⟩

/-- The infinities. -/
def infinity (negative : Bool) : Double := ofMagnitude negative (2047 * Nat.pow 2 52)

/-- A value that is not a number. -/
def nan : Double := ofMagnitude false (2047 * Nat.pow 2 52 + Nat.pow 2 51)

/-- The quotient rounded to the nearest whole number, a tie to the even one. -/
def divNearest (num den : Nat) : Nat :=
  let q := num / den
  let r := num % den
  if den < 2 * r ∨ (2 * r = den ∧ q % 2 = 1) then q + 1 else q

/-- The number nearest to `num / den`, a tie to the even one; beyond the largest number it is infinite. -/
def ofRatio (negative : Bool) (num den : Nat) : Double :=
  if num = 0 ∨ den = 0 then ofMagnitude negative 0
  else
    -- the unit in the last place is `2 ^ e`: 53 bits, or fewer at the lower end of the range
    let scaled (e : Int) := (num * Nat.pow 2 (-e).toNat, den * Nat.pow 2 e.toNat)
    let e : Int := max ((num.log2 : Int) - den.log2 - 53) (-1074)
    let (n, d) := scaled e
    let e := if Nat.pow 2 53 ≤ n / d then e + 1 else e
    let (n, d) := scaled e
    let magnitude := (e + 1074).toNat * Nat.pow 2 52 + divNearest n d
    if 2047 * Nat.pow 2 52 ≤ magnitude then infinity negative else ofMagnitude negative magnitude

/-- The number nearest to a whole number. -/
def ofInt (n : Int) : Double := ofRatio (n < 0) n.natAbs 1

/-- The number nearest to `digits * 10 ^ exponent`. -/
def ofDecimal (negative : Bool) (digits : Nat) (exponent : Int) : Double :=
  let size : Int := (Nat.toDigits 10 digits).length + exponent
  if digits = 0 ∨ size < -400 then ofMagnitude negative 0
  else if 400 < size then infinity negative
  else ofRatio negative (digits * Nat.pow 10 exponent.toNat) (Nat.pow 10 (-exponent).toNat)

/-- The quotient of two finite numbers, rounded once. -/
def div (a b : Double) : Double :=
  let e := a.exponent - b.exponent
  ofRatio (a.isNegative != b.isNegative) (a.significand * Nat.pow 2 e.toNat)
    (b.significand * Nat.pow 2 (-e).toNat)

@[simp] theorem compare?_self {d : Double} (h : d.isNaN = false) : d.compare? d = some .eq := by
  simp [compare?, h]

end Double

end EntityHistory
