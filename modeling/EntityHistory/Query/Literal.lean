/-
Literals.

The value of a comparison is written as a literal: a quoted text, a number, a time of day, a date, a
date-time, a truth value, a list `[a,b]` of such, or a range `a..b` between two of one kind. What is compared
decides how a literal is read: for a point in time only date-times count, and for the unit and the data set a
literal without quotes is a text. Not every operator goes with every value; `Operator.check` says which do.
-/
import EntityHistory.Error
import EntityHistory.Pattern.Engine
import EntityHistory.Text.Blank
import EntityHistory.Text.Quoted

namespace EntityHistory

namespace QueryValue

/-- Whether a text is a decimal number without a plus sign. -/
def isNumber (cs : List Char) : Bool :=
  let unsigned := match cs with
    | '-' :: rest => rest
    | _ => cs
  (WrittenDecimal.readUnsigned false unsigned).isSome

/-- The scalar that a literal denotes, told by its form. -/
def scalarByForm (cs : List Char) : Option QueryValue :=
  if Text.isQuoted cs then (Text.unquote cs).map fun s => .text (String.ofList s)
  else if isNumber cs then (WrittenDecimal.ofText? cs).map fun w => .number w.toDouble
  else if TimeOfDay.isWritten cs then (TimeOfDay.ofText? cs).map .time
  else
    match Date.ofText? cs, Instant.ofText? cs with
    | some d, _ => some (.date d)
    | none, some t => some (.dateTime t)
    | none, none =>
      if cs = "true".toList then some (.boolean true)
      else if cs = "false".toList then some (.boolean false)
      else none

/-- The text that a literal denotes, with or without quotes. -/
def scalarText (cs : List Char) : Option QueryValue :=
  if Text.isQuoted cs then (Text.unquote cs).map fun s => .text (String.ofList s)
  else some (.text (String.ofList cs))

/-- The scalar that a literal denotes when it is compared with the given target. -/
def scalar (target : ValueTarget) (cs : List Char) : Option QueryValue :=
  match target with
  | .observedAt => (Instant.ofText? cs).map .dateTime
  | .createdAt => (Instant.ofText? cs).map .dateTime
  | .modifiedAt => (Instant.ofText? cs).map .dateTime
  | .unitCode => scalarText cs
  | .datasetId => scalarText cs
  | .value => scalarByForm cs
  | .compoundKey _ => scalarByForm cs

/-- The part of a literal between square brackets. -/
def bracketed (cs : List Char) : Option (List Char) :=
  match cs with
  | '[' :: rest => if rest.getLast? = some ']' then some rest.dropLast else none
  | _ => none

/-- The scalars that the items of a list or range denote. -/
def scalars (target : ValueTarget) (raw : List Char) (items : List (List Char)) :
    Except QueryFault (List QueryValue) :=
  items.mapM fun item =>
    match scalar target (Text.trim item) with
    | some value => pure value
    | none => throw (.unrecognized (String.ofList raw))

/-- The list of some scalars, which have to be of one kind. -/
def listOf (raw : List Char) (values : List QueryValue) : Except QueryFault QueryValue :=
  match values with
  | [] => throw (.unrecognized (String.ofList raw))
  | first :: rest =>
    if rest.all fun value => value.kind = first.kind then pure (.list values)
    else throw (.mixedList (String.ofList raw))

/-- The range between two scalars, which have to be of one kind and not truth values. -/
def rangeOf (raw : List Char) (low high : QueryValue) : Except QueryFault QueryValue :=
  if low.kind = high.kind ∧ low.kind ≠ .boolean then pure (.range low high)
  else throw (.invalidRange (String.ofList raw))

/-- The value of a literal that stands between no list brackets and is cut at its range marks. -/
def ofParts (target : ValueTarget) (raw : List Char) (parts : List (List Char)) :
    Except QueryFault QueryValue :=
  match parts with
  | [_, _] => do
    match ← scalars target raw parts with
    | [low, high] => rangeOf raw low high
    | _ => throw (.unrecognized (String.ofList raw))
  | _ :: _ :: _ :: _ => throw (.unrecognized (String.ofList raw))
  | _ =>
    match scalar target raw with
    | some value => pure value
    | none => throw (.unrecognized (String.ofList raw))

/-- The value that a literal denotes when it is compared with the given target. -/
def ofLiteral (target : ValueTarget) (text : List Char) : Outcome QueryValue :=
  let raw := Text.trim text
  if raw = [] then refuse .missingValue
  else
    let (separator, inner) := match bracketed raw with
      | some inner => (",".toList, inner)
      | none => ("..".toList, raw)
    match Text.cutOutside separator inner with
    | none => throw .cutInsideCharacter
    | some parts =>
      if (bracketed raw).isSome then do
        let values ← (scalars target raw parts : Except QueryFault _)
        let value ← (listOf raw values : Except QueryFault _)
        pure value
      else do
        let value ← (ofParts target raw parts : Except QueryFault _)
        pure value

end QueryValue

/-- Whether an operator goes with a value and a target. A pattern is a text that can be read as one; lists,
ranges and truth values are only equal or not; the unit and the data set are texts; and the members of
compound values are neither times nor dates. -/
def Operator.check [PatternEngine] (operator : Operator) (value : QueryValue) (target : ValueTarget) :
    Except QueryFault Unit := do
  let mismatch (fault : OperatorFault) : QueryFault := .mismatch operator fault value.kind
  if operator.isPattern then
    match value with
    | .text written =>
      if (PatternEngine.compile? written.toList).isNone then throw (.invalidPattern written)
    | _ => throw (mismatch .needsText)
  if (!value.isScalar || value.kind = .boolean) && !operator.isEquality then
    throw (mismatch .onlyEquality)
  match target with
  | .unitCode => if value.elementKind ≠ .text then throw (mismatch .needsTextForField)
  | .datasetId => if value.elementKind ≠ .text then throw (mismatch .needsTextForField)
  | .compoundKey _ =>
    if value.elementKind ≠ .text ∧ value.elementKind ≠ .number ∧ value.elementKind ≠ .boolean then
      throw (mismatch .notOnCompound)
  | _ => pure ()

end EntityHistory
