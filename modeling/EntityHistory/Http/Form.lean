/-
The parameters in a query string.

A query string holds names and values between ampersands. A parameter of a request may be given once at most,
and its value has to be of its type; names that are no parameters are ignored.
-/
import EntityHistory.Number.Reading
import EntityHistory.Service.Request
import EntityHistory.Text.Percent
import EntityHistory.Text.Pieces

namespace EntityHistory

/-- The names and values of a query string in their order. -/
def formPairs (query : List Char) : List (String × String) :=
  ((Text.pieces '&' query).filter (· ≠ [])).map fun pair =>
    let (name, value) := (Text.cutOnce '=' pair).getD (pair, [])
    (String.ofList (Text.ofForm name), String.ofList (Text.ofForm value))

/-- The value of a name that is given once; `none` inside when it is not given at all, outside when it is
given more than once. -/
def formValue (pairs : List (String × String)) (name : String) : Option (Option String) :=
  match pairs.filter fun pair => pair.1 = name with
  | [] => some none
  | [pair] => some (some pair.2)
  | _ => none

/-- A number of 32 bits, which may have a plus sign. -/
def word? (text : String) : Option UInt32 :=
  let digits := match text.toList with
    | '+' :: digits => digits
    | digits => digits
  if digits ≠ [] ∧ digits.all Char.isDigit ∧ digitsValue digits < UInt32.size then
    some (UInt32.ofNat (digitsValue digits))
  else none

/-- A truth value. -/
def truth? : String → Option Bool
  | "true" => some true
  | "false" => some false
  | _ => none

namespace Parameters

/-- The parameters that names and values give. -/
def ofPairs? (pairs : List (String × String)) : Option Parameters := do
  let given := formValue pairs
  pure {
    id := (← given "id")
    idPattern := (← given "idPattern")
    type := (← given "type")
    attrs := (← given "attrs")
    q := (← given "q")
    georel := (← given "georel")
    geometry := (← given "geometry")
    coordinates := (← given "coordinates")
    geoproperty := (← given "geoproperty")
    timerel := (← given "timerel")
    timeproperty := (← given "timeproperty")
    time := (← given "time")
    endTime := (← given "endTime")
    lastN := (← (← given "lastN").mapM word?)
    options := (← given "options")
    pageSize := (← (← given "pageSize").mapM word?)
    pageAnchor := (← given "pageAnchor")
    count := (← (← given "count").mapM truth?).getD false }

/-- The parameters that a query string gives. -/
def ofQuery? (query : List Char) : Option Parameters := ofPairs? (formPairs query)

end Parameters

end EntityHistory
