/-
Reading decimal numbers.

A decimal has an optional sign, digits with at most one point among or beside them, and an optional
exponent. `Double.ofText?` also takes the words for the values that are not finite.
-/
import EntityHistory.Number.Double

namespace EntityHistory

/-- The value of a run of decimal digits. -/
def digitsValue (digits : List Char) : Nat :=
  digits.foldl (fun n c => 10 * n + (c.toNat - '0'.toNat)) 0

/-- A decimal as it is written: the value of its digits and the power of ten they are multiplied by. -/
structure WrittenDecimal where
  negative : Bool
  digits : Nat
  exponent : Int
deriving DecidableEq, Repr

namespace WrittenDecimal

/-- Reads the exponent after the digits, if any; nothing may follow. -/
def readExponent : List Char → Option Int
  | [] => some 0
  | c :: rest =>
    if c ≠ 'e' ∧ c ≠ 'E' then none
    else
      let (negative, digits) := match rest with
        | '-' :: digits => (true, digits)
        | '+' :: digits => (false, digits)
        | digits => (false, digits)
      if digits = [] ∨ !digits.all Char.isDigit then none
      else some (if negative then -(digitsValue digits : Int) else digitsValue digits)

/-- Reads a decimal without its sign. -/
def readUnsigned (negative : Bool) (cs : List Char) : Option WrittenDecimal :=
  let whole := cs.takeWhile Char.isDigit
  let rest := cs.dropWhile Char.isDigit
  let (fraction, rest) := match rest with
    | '.' :: rest => (rest.takeWhile Char.isDigit, rest.dropWhile Char.isDigit)
    | rest => ([], rest)
  if whole = [] ∧ fraction = [] then none
  else
    (readExponent rest).map fun e =>
      { negative, digits := digitsValue (whole ++ fraction), exponent := e - fraction.length }

/-- Reads a decimal. -/
def ofText? : List Char → Option WrittenDecimal
  | '-' :: rest => readUnsigned true rest
  | '+' :: rest => readUnsigned false rest
  | cs => readUnsigned false cs

/-- The number nearest to the decimal. -/
def toDouble (w : WrittenDecimal) : Double := .ofDecimal w.negative w.digits w.exponent

end WrittenDecimal

/-- The number that a text denotes: a decimal, or a word for an infinity or for no number. -/
def Double.ofText? (cs : List Char) : Option Double :=
  match WrittenDecimal.ofText? cs with
  | some w => some w.toDouble
  | none =>
    let (negative, word) := match cs with
      | '-' :: rest => (true, rest)
      | '+' :: rest => (false, rest)
      | _ => (false, cs)
    match String.ofList (word.map Char.toLower) with
    | "inf" => some (.infinity negative)
    | "infinity" => some (.infinity negative)
    | "nan" => some .nan
    | _ => none

end EntityHistory
