/-
Writing dates and times.

The text of an instant is that of RFC 3339 in universal time. Years outside 0000 to 9999 carry a sign.
Forms differ in the digits of the fraction: all nine, six with the rest cut off, or the fewest multiple of
three that loses nothing.
-/
import EntityHistory.Time.Instant

namespace EntityHistory

/-- The digits of a number, with zeros in front up to a width. -/
def padded (width n : Nat) : List Char :=
  let digits := Nat.toDigits 10 n
  List.replicate (width - digits.length) '0' ++ digits

/-- The digits of a year. -/
def yearText (year : Int) : List Char :=
  if 0 ≤ year ∧ year ≤ 9999 then padded 4 year.toNat
  else (if year < 0 then '-' else '+') :: padded 4 year.natAbs

/-- A date as `YYYY-MM-DD`. -/
def Date.chars (d : Date) : List Char :=
  let (year, month, day) := d.civil
  yearText year ++ '-' :: padded 2 month ++ '-' :: padded 2 day

/-- How many digits of the fraction of a second are written. -/
inductive Fraction where
  | nanos
  /-- Six digits; the rest is cut off. -/
  | micros
  /-- None, three, six or nine digits, the fewest that lose nothing. -/
  | fewest
deriving DecidableEq, Repr

/-- The fraction of a second with its point. -/
def Fraction.chars (f : Fraction) (nano : Nat) : List Char :=
  match f with
  | .nanos => '.' :: padded 9 nano
  | .micros => '.' :: padded 6 (nano / 1000)
  | .fewest =>
    if nano = 0 then []
    else if nano % 1000000 = 0 then '.' :: padded 3 (nano / 1000000)
    else if nano % 1000 = 0 then '.' :: padded 6 (nano / 1000)
    else '.' :: padded 9 nano

/-- A time of day as `HH:MM:SS` and a fraction. -/
def TimeOfDay.chars (t : TimeOfDay) (f : Fraction) : List Char :=
  let (hour, minute, second, nano) := t.clock
  padded 2 hour ++ ':' :: padded 2 minute ++ ':' :: padded 2 second ++ f.chars nano

/-- The text of a date. -/
def Date.text (d : Date) : String := String.ofList d.chars

/-- The text of a time of day. -/
def TimeOfDay.text (t : TimeOfDay) (f : Fraction) : String := String.ofList (t.chars f)

/-- The text of an instant. -/
def Instant.text (t : Instant) (f : Fraction) : String :=
  String.ofList (t.date.chars ++ 'T' :: t.timeOfDay.chars f ++ ['Z'])

end EntityHistory
