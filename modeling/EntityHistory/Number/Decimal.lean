/-
The shortest decimal text of a number.

Of the decimals that read back as a given number, those with the fewest digits are taken, and of these the
nearest. `digits` finds them in exact arithmetic: on the grid of `n` significant digits it tests the two
neighbours of the value, for `n` from 1 on. Two ways of writing them are used: the one of JSON texts, with
an exponent outside a middle range, and the plain one without an exponent.
-/
import EntityHistory.Number.Double

namespace EntityHistory.Double

/-- The order of `a * 10 ^ u` and `b * 2 ^ v`. -/
def compareScaled (a : Nat) (u : Int) (b : Nat) (v : Int) : Ordering :=
  compare (a * Nat.pow 10 u.toNat * Nat.pow 2 (-v).toNat) (b * Nat.pow 2 v.toNat * Nat.pow 10 (-u).toNat)

/-- Whether the decimal `c * 10 ^ u` rounds to the finite number `d`, signs apart: it lies between the
midpoints to the two neighbours of `d`, and on one of them only if `d` is even. -/
def roundsTo (d : Double) (c : Nat) (u : Int) : Bool :=
  let m := d.significand
  let e := d.exponent - 2
  -- below a power of two the neighbour is half as far away
  let low := if m = Nat.pow 2 52 ∧ 1 < d.exponentField then 4 * m - 1 else 4 * m - 2
  let atLow := compareScaled c u low e
  let atHigh := compareScaled c u (4 * m + 2) e
  (atLow == .gt && atHigh == .lt) || (m % 2 == 0 && (atLow == .eq || atHigh == .eq))

/-- The exponent of the leading decimal digit of a finite number that is not zero. -/
def leadingExponent (d : Double) : Int :=
  let reaches (k : Int) : Bool := compareScaled 1 k d.significand d.exponent != .gt
  let guess := ((d.significand.log2 : Int) + d.exponent) * 30103 / 100000
  if reaches (guess + 1) then guess + 1
  else if reaches guess then guess
  else if reaches (guess - 1) then guess - 1
  else guess - 2

/-- The nearest decimal with `n` significant digits that rounds to the number, if there is one. -/
def onGrid (d : Double) (n : Nat) : Option (Nat × Int) :=
  let u := d.leadingExponent - (n - 1 : Nat)
  let num := d.significand * Nat.pow 2 d.exponent.toNat * Nat.pow 10 (-u).toNat
  let den := Nat.pow 10 u.toNat * Nat.pow 2 (-d.exponent).toNat
  let c := num / den
  match d.roundsTo c u, d.roundsTo (c + 1) u with
  | false, false => none
  | true, false => some (c, u)
  | false, true => some (c + 1, u)
  | true, true => some (divNearest num den, u)

/-- A decimal without the zeros at the end of its digits. -/
def stripZeros (c : Nat) (u : Int) : Nat × Int :=
  if c ≠ 0 ∧ c % 10 = 0 then stripZeros (c / 10) (u + 1) else (c, u)
termination_by c

/-- The shortest decimal `c * 10 ^ u` that reads back as a finite number, signs apart. -/
def shortest (d : Double) : Nat × Int :=
  if d.significand = 0 then (0, 0)
  else
    match (List.range 17).findSome? fun n => d.onGrid (n + 1) with
    | some (c, u) => stripZeros c u
    | none => (0, 0)

/-- The digits of a decimal with a point after the first `whole` of them. -/
def withPoint (digits : List Char) (whole : Nat) : List Char :=
  digits.take whole ++ '.' :: digits.drop whole

/-- The text of a number in JSON: the point stands among the digits or beside them for values from
`0.00001` to below `1e16`, and an exponent is written for the others. There is none for a number that is
not finite. -/
def jsonText (d : Double) : Option String :=
  if !d.isFinite then none
  else
    let (c, u) := d.shortest
    let digits := Nat.toDigits 10 c
    let whole : Int := digits.length + u
    let body : List Char :=
      if c = 0 then ['0', '.', '0']
      else if 0 ≤ u ∧ whole ≤ 16 then digits ++ List.replicate u.toNat '0' ++ ['.', '0']
      else if 0 < whole ∧ whole ≤ 16 then withPoint digits whole.toNat
      else if -5 < whole ∧ whole ≤ 0 then
        ['0', '.'] ++ List.replicate (-whole).toNat '0' ++ digits
      else
        (if digits.length = 1 then digits else withPoint digits 1) ++ 'e' :: (toString (whole - 1)).toList
    some (String.ofList (if d.isNegative then '-' :: body else body))

/-- The text of a finite number without an exponent, and without a point if the number is whole. -/
def plainText (d : Double) : String :=
  let (c, u) := d.shortest
  let digits := Nat.toDigits 10 c
  let whole : Int := digits.length + u
  let body : List Char :=
    if 0 ≤ u then digits ++ List.replicate u.toNat '0'
    else if 0 < whole then withPoint digits whole.toNat
    else ['0', '.'] ++ List.replicate (-whole).toNat '0' ++ digits
  String.ofList (if d.isNegative then '-' :: body else body)

end EntityHistory.Double
