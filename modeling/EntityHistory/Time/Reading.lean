/-
Reading dates and times.

`Instant.read` takes the timestamps of RFC 3339 and reports the first thing that is wrong. Whether there are
enough bytes for a date and a time of whole seconds is asked first. Then the text is read from left to right;
whether the calendar has the day is asked after the date, and whether the clock has the time after the
fraction. `Instant.ofLooseText?` takes more: fields of fewer digits, signed years, white space between the
parts and `UTC` for the offset.
-/
import EntityHistory.Number.Reading
import EntityHistory.Text.Blank
import EntityHistory.Time.Instant

namespace EntityHistory

/-- What is wrong with the text of a timestamp. -/
inductive TimestampFault where
  | tooShort
  | invalid
  | outOfRange
  | trailing
deriving DecidableEq, Repr

def TimestampFault.message : TimestampFault → String
  | .tooShort => "premature end of input"
  | .invalid => "input contains invalid characters"
  | .outOfRange => "input is out of range"
  | .trailing => "trailing input"

namespace Timestamp

/-- A reader of a part of a timestamp: its value and the rest of the text. -/
abbrev TimestampPart (α : Type) := List Char → Except TimestampFault (α × List Char)

/-- The number of bytes of a text in UTF-8. -/
def encodedLength (cs : List Char) : Nat := cs.foldl (fun n c => n + c.utf8Size) 0

/-- The number of bytes before the fraction, as in `2024-01-01T00:00:00`. -/
def fixedLength : Nat := 19

/-- A number of exactly `width` digits. -/
def number (width : Nat) : TimestampPart Nat := fun cs =>
  if encodedLength cs < width then throw .tooShort
  else
    let digits := cs.take width
    if digits.length = width ∧ digits.all Char.isDigit then
      pure (digitsValue digits, cs.drop width)
    else throw .invalid

/-- One of the given characters. -/
def mark (marks : List Char) : TimestampPart Unit
  | [] => throw .tooShort
  | c :: rest => if marks.contains c then pure ((), rest) else throw .invalid

/-- The fraction of a second after its point, in nanoseconds; digits after the ninth are dropped. -/
def fraction : TimestampPart Nat
  | '.' :: rest =>
    match rest with
    | [] => throw .tooShort
    | c :: _ =>
      if !c.isDigit then throw .invalid
      else
        let digits := rest.takeWhile Char.isDigit
        let kept := digits.take 9
        pure (digitsValue kept * Nat.pow 10 (9 - kept.length), rest.dropWhile Char.isDigit)
  | cs => pure (0, cs)

/-- The minutes of an offset. -/
def offsetMinutes : TimestampPart Nat := fun cs =>
  if encodedLength cs < 2 then throw .tooShort
  else
    match cs with
    | a :: b :: rest =>
      if a.isDigit && b.isDigit then
        if a ≤ '5' then pure (digitsValue [a, b], rest) else throw .outOfRange
      else throw .invalid
    | _ => throw .invalid

/-- The offset from universal time in seconds; `separator` reads what stands between hours and minutes. -/
def offset (separator : TimestampPart Unit) : TimestampPart Int
  | [] => throw .tooShort
  | c :: rest =>
    if c = 'Z' ∨ c = 'z' then pure (0, rest)
    else if c = '+' ∨ c = '-' ∨ c = '\u2212' then do
      let (hours, rest) ← number 2 rest
      let ((), rest) ← separator rest
      let (minutes, rest) ← offsetMinutes rest
      let seconds : Int := (hours * 60 + minutes) * 60
      pure (if c = '+' then seconds else -seconds, rest)
    else throw .invalid

/-- A value that is missing where a number is out of its range. -/
def inRange {α : Type} (a : Option α) : Except TimestampFault α :=
  match a with
  | some a => pure a
  | none => throw .outOfRange

/-- The instant of a local date and time at an offset of less than a day. -/
def atOffset (date : Date) (time : TimeOfDay) (offset : Int) : Except TimestampFault Instant :=
  if 86400 ≤ offset.natAbs then throw .outOfRange
  else pure ⟨(Instant.ofDate date time).ticks - offset * ticksPerSecond⟩

/-- A number of one to `width` digits after white space. -/
def looseNumber (width : Nat) (cs : List Char) : Option (Nat × List Char) :=
  let cs := Text.trimStart cs
  let digits := (cs.takeWhile Char.isDigit).take width
  if digits = [] then none else some (digitsValue digits, cs.drop digits.length)

/-- A mark after white space. -/
def looseMark (m : Char) (cs : List Char) : Option (List Char) :=
  match Text.trimStart cs with
  | c :: rest => if c = m then some rest else none
  | [] => none

/-- A year, which may carry a sign and then has any number of digits. -/
def looseYear (cs : List Char) : Option (Int × List Char) :=
  let cs := Text.trimStart cs
  match cs with
  | '-' :: rest =>
    if (rest.head?.map Char.isDigit).getD false then
      (looseNumber rest.length rest).map fun (n, rest) => (-(n : Int), rest)
    else none
  | '+' :: rest =>
    if (rest.head?.map Char.isDigit).getD false then
      (looseNumber rest.length rest).map fun (n, rest) => ((n : Int), rest)
    else none
  | cs => (looseNumber 4 cs).map fun (n, rest) => ((n : Int), rest)

end Timestamp

open Timestamp in
/-- Reads a timestamp of RFC 3339. -/
def Instant.read (cs : List Char) : Except TimestampFault Instant := do
  if encodedLength cs < fixedLength then throw .tooShort
  let (year, rest) ← number 4 cs
  let ((), rest) ← mark ['-'] rest
  let (month, rest) ← number 2 rest
  let ((), rest) ← mark ['-'] rest
  let (day, rest) ← number 2 rest
  let date ← inRange (Date.ofCivil? year month day)
  let ((), rest) ← mark ['T', 't', ' '] rest
  let (hour, rest) ← number 2 rest
  let ((), rest) ← mark [':'] rest
  let (minute, rest) ← number 2 rest
  let ((), rest) ← mark [':'] rest
  let (second, rest) ← number 2 rest
  let (nano, rest) ← fraction rest
  let time ← inRange (TimeOfDay.ofClock? hour minute second nano)
  let (offset, rest) ← offset (mark [':']) rest
  if rest ≠ [] then throw .trailing
  atOffset date time offset

/-- The instant that a timestamp of RFC 3339 denotes. -/
def Instant.ofText? (cs : List Char) : Option Instant := (Instant.read cs).toOption

open Timestamp in
/-- The instant that a timestamp of the wider form denotes. -/
def Instant.ofLooseText? (cs : List Char) : Option Instant := do
  let (year, rest) ← looseYear cs
  let rest ← looseMark '-' rest
  let (month, rest) ← looseNumber 2 rest
  let rest ← looseMark '-' rest
  let (day, rest) ← looseNumber 2 rest
  let ((), rest) ← (mark ['T', 't', ' '] rest).toOption
  let (hour, rest) ← looseNumber 2 rest
  let rest ← looseMark ':' rest
  let (minute, rest) ← looseNumber 2 rest
  let rest ← looseMark ':' rest
  let (second, rest) ← looseNumber 2 rest
  let (nano, rest) ← (fraction rest).toOption
  let rest := Text.trimStart rest
  let between : TimestampPart Unit := fun cs => pure ((), cs.dropWhile fun c => c == ':' || Text.isBlank c)
  let (offset, rest) ← match rest with
    | a :: b :: c :: after =>
      if [a, b, c].map Char.toUpper = ['U', 'T', 'C'] then some ((0 : Int), after)
      else (offset between rest).toOption
    | _ => (offset between rest).toOption
  if Text.trimStart rest ≠ [] ∨ 262142 < year.natAbs then none
  let date ← Date.ofCivil? year month day
  let time ← TimeOfDay.ofClock? hour minute second nano
  (atOffset date time offset).toOption

/-- The date that a text of the form `YYYY-MM-DD` denotes. -/
def Date.ofText? (cs : List Char) : Option Date :=
  match cs with
  | [a, b, c, d, '-', e, f, '-', g, h] =>
    if [a, b, c, d, e, f, g, h].all Char.isDigit then
      Date.ofCivil? (digitsValue [a, b, c, d]) (digitsValue [e, f]) (digitsValue [g, h])
    else none
  | _ => none

/-- Whether a text has the form `HH:MM:SS`, with a fraction of one to nine digits and a `Z` if it likes. -/
def TimeOfDay.isWritten (cs : List Char) : Bool :=
  match cs with
  | a :: b :: ':' :: c :: d :: ':' :: e :: f :: rest =>
    let rest := match rest with
      | '.' :: digits => if 1 ≤ (digits.takeWhile Char.isDigit).length ∧
          (digits.takeWhile Char.isDigit).length ≤ 9 then digits.dropWhile Char.isDigit else rest
      | rest => rest
    [a, b, c, d, e, f].all Char.isDigit && (rest = [] || rest = ['Z'])
  | _ => false

/-- The time of day that a text of that form denotes. -/
def TimeOfDay.ofText? (cs : List Char) : Option TimeOfDay :=
  match cs with
  | a :: b :: ':' :: c :: d :: ':' :: e :: f :: rest =>
    if TimeOfDay.isWritten cs then
      match rest with
      | '.' :: digits =>
        let kept := digits.takeWhile Char.isDigit
        TimeOfDay.ofClock? (digitsValue [a, b]) (digitsValue [c, d]) (digitsValue [e, f])
          (digitsValue kept * Nat.pow 10 (9 - kept.length))
      | _ => TimeOfDay.ofClock? (digitsValue [a, b]) (digitsValue [c, d]) (digitsValue [e, f]) 0
    else none
  | _ => none

end EntityHistory
