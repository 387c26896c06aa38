/-
Percent-encoding.

In an address a byte is written as a percent sign and two hexadecimal digits, unless it is a letter, a digit
or one of four marks. Reading is more lenient: any byte may stand for itself, also a percent sign that no two
hexadecimal digits follow. In a form a plus sign stands for a space.
-/
import EntityHistory.Text.Bytes

namespace EntityHistory.Text

/-- The bytes that stand for themselves in an address. -/
def isUnreserved (b : UInt8) : Bool :=
  let c := Char.ofNat b.toNat
  b < 0x80 && (c.isAlphanum || c == '-' || c == '_' || c == '.' || c == '~')

/-- The digit for a number below sixteen. -/
def upperHexDigit (n : Nat) : Char := if n < 10 then Char.ofNat (48 + n) else Char.ofNat (55 + n)

/-- A byte as it is written in an address. -/
def percentByte (b : UInt8) : List Char :=
  if isUnreserved b then [Char.ofNat b.toNat]
  else ['%', upperHexDigit (b.toNat / 16), upperHexDigit (b.toNat % 16)]

/-- A text as it is written in an address. -/
def percentEncode (cs : List Char) : List Char := (bytes cs).flatMap percentByte

/-- The number that a byte denotes as a hexadecimal digit. -/
def hexDigitValue? (b : UInt8) : Option Nat :=
  let n := b.toNat
  if 48 ≤ n ∧ n ≤ 57 then some (n - 48)
  else if 65 ≤ n ∧ n ≤ 70 then some (n - 55)
  else if 97 ≤ n ∧ n ≤ 102 then some (n - 87)
  else none

/-- The byte that two hexadecimal digits denote. -/
def hexByte? (a b : UInt8) : Option UInt8 := do
  pure (UInt8.ofNat (16 * (← hexDigitValue? a) + (← hexDigitValue? b)))

/-- The bytes that a percent-encoded text stands for. -/
def percentDecode : List UInt8 → List UInt8
  | p :: a :: b :: rest =>
    if p = 0x25 then
      match hexByte? a b with
      | some byte => byte :: percentDecode rest
      | none => p :: percentDecode (a :: b :: rest)
    else p :: percentDecode (a :: b :: rest)
  | rest => rest

/-- The text that a percent-encoded text stands for, if it is one. -/
def ofPercent? (cs : List Char) : Option (List Char) := ofBytes? (percentDecode (bytes cs))

/-- The text that a name or value of a form stands for. -/
def ofForm (cs : List Char) : List Char :=
  ofBytes (percentDecode (bytes (cs.map fun c => if c = '+' then ' ' else c)))

end EntityHistory.Text
