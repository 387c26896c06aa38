/-
Sets of characters written as ranges of code points.

The tables of the Unicode character database, version 16.0, are kept as text: code points in hexadecimal,
a range as its two ends with a hyphen, and a space between neighbours, as in `41-5A 61-7A AA`. Here such a
text is read.
-/
import EntityHistory.Text.Pieces

namespace EntityHistory.Unicode

/-- A set of code points as a list of ranges, both ends included. -/
abbrev Ranges := List (Nat × Nat)

/-- Whether a code point lies in one of the ranges. -/
def Ranges.contains (ranges : Ranges) (n : Nat) : Bool :=
  ranges.any fun (low, high) => low ≤ n && n ≤ high

/-- The value of a hexadecimal digit. -/
def hexDigit? (c : Char) : Option Nat :=
  if '0' ≤ c ∧ c ≤ '9' then some (c.toNat - '0'.toNat)
  else if 'a' ≤ c ∧ c ≤ 'f' then some (c.toNat - 'a'.toNat + 10)
  else if 'A' ≤ c ∧ c ≤ 'F' then some (c.toNat - 'A'.toNat + 10)
  else none

/-- The number that a run of hexadecimal digits denotes. -/
def hexValue? : List Char → Option Nat
  | [] => none
  | cs => cs.foldlM (fun n c => (hexDigit? c).map (16 * n + ·)) 0

/-- Reads ranges from their hexadecimal text; anything that is no range is left out. -/
def Ranges.ofText (text : String) : Ranges :=
  (Text.pieces ' ' text.toList).filterMap fun piece =>
    match Text.cutOnce '-' piece with
    | some (low, high) => do pure ((← hexValue? low), (← hexValue? high))
    | none => (hexValue? piece).map fun n => (n, n)

end EntityHistory.Unicode
