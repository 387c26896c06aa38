/-
Reading JSON texts.

A text is first cut into tokens; the tokens are then put together from left to right with a stack of the
arrays and objects that are still open. Containers nest to a depth of 127 at most. A whole number is kept as
such when it fits 64 bits, signed or unsigned; a number too large for a floating-point number is refused.
-/
import EntityHistory.Json.Basic
import EntityHistory.Number.Reading
import EntityHistory.Text.Pieces
import EntityHistory.Unicode.Ranges

namespace EntityHistory.Json

/-- A piece of a JSON text. -/
inductive Token where
  | openArr
  | closeArr
  | openObj
  | closeObj
  | comma
  | colon
  | scalar (value : Json)
deriving Repr

/-- The 16-bit unit that four hexadecimal digits at the start of a text denote. -/
def readUnit : List Char → Option (Nat × List Char)
  | a :: b :: c :: d :: rest => (Unicode.hexValue? [a, b, c, d]).map fun n => (n, rest)
  | _ => none

/-- Reads an escape in a string, from the character after the backslash on. A unit of the upper half of a
pair must be followed by one of the lower half. -/
def readEscaped : List Char → Option (Char × List Char)
  | '"' :: rest => some ('"', rest)
  | '\\' :: rest => some ('\\', rest)
  | '/' :: rest => some ('/', rest)
  | 'b' :: rest => some ('\x08', rest)
  | 'f' :: rest => some ('\x0c', rest)
  | 'n' :: rest => some ('\n', rest)
  | 'r' :: rest => some ('\r', rest)
  | 't' :: rest => some ('\t', rest)
  | 'u' :: rest => do
    let (unit, rest) ← readUnit rest
    if 0xD800 ≤ unit ∧ unit ≤ 0xDBFF then
      match rest with
      | '\\' :: 'u' :: rest =>
        let (low, rest) ← readUnit rest
        if 0xDC00 ≤ low ∧ low ≤ 0xDFFF then
          pure (Char.ofNat (0x10000 + (unit - 0xD800) * 0x400 + (low - 0xDC00)), rest)
        else none
      | _ => none
    else if 0xDC00 ≤ unit ∧ unit ≤ 0xDFFF then none
    else pure (Char.ofNat unit, rest)
  | _ => none

/-- Reads a string up to its closing quote, from the character after the opening one on. -/
def readString (cs : List Char) : Option (List Char × List Char) :=
  match cs with
  | [] => none
  | '"' :: rest => some ([], rest)
  | '\\' :: rest =>
    match readEscaped rest with
    | none => none
    | some (c, after) =>
      -- an escape takes at least one character
      if after.length < rest.length then
        (readString after).map fun (s, rest) => (c :: s, rest)
      else none
  | c :: rest =>
    if c.toNat < 0x20 then none else (readString rest).map fun (s, rest) => (c :: s, rest)
termination_by cs.length
decreasing_by all_goals simp_all; try omega

/-- The characters that a number may be written with. -/
def isNumeral (c : Char) : Bool := c.isDigit || c == '-' || c == '+' || c == '.' || c == 'e' || c == 'E'

/-- The number that a run of numerals denotes. -/
def readNumber (cs : List Char) : Option Json :=
  let (negative, unsigned) := match cs with
    | '-' :: rest => (true, rest)
    | _ => (false, cs)
  let whole := unsigned.takeWhile Char.isDigit
  let rest := unsigned.dropWhile Char.isDigit
  if whole = [] ∨ (whole.head? = some '0' ∧ 1 < whole.length) then none
  else if rest = [] ∧ digitsValue whole < Nat.pow 2 64 ∧
      (negative = true → digitsValue whole ≠ 0 ∧ digitsValue whole ≤ Nat.pow 2 63) then
    some (.int (if negative then -(digitsValue whole : Int) else digitsValue whole))
  else
    let pointed := match rest with
      | '.' :: fraction => (fraction.head?.map Char.isDigit).getD false
      | _ => true
    if !pointed then none
    else do
      let written ← WrittenDecimal.readUnsigned negative unsigned
      if written.toDouble.isFinite then some (.double written.toDouble) else none

/-- The next token and what follows it; `none` for a text that begins with no token. -/
def nextToken : List Char → Option (Token × List Char)
  | '[' :: rest => some (.openArr, rest)
  | ']' :: rest => some (.closeArr, rest)
  | '\x7b' :: rest => some (.openObj, rest)
  | '\x7d' :: rest => some (.closeObj, rest)
  | ',' :: rest => some (.comma, rest)
  | ':' :: rest => some (.colon, rest)
  | '"' :: rest => (readString rest).map fun (s, rest) => (.scalar (.str (String.ofList s)), rest)
  | 't' :: 'r' :: 'u' :: 'e' :: rest => some (.scalar (.bool true), rest)
  | 'f' :: 'a' :: 'l' :: 's' :: 'e' :: rest => some (.scalar (.bool false), rest)
  | 'n' :: 'u' :: 'l' :: 'l' :: rest => some (.scalar .null, rest)
  | cs => (readNumber (cs.takeWhile isNumeral)).map fun n => (.scalar n, cs.dropWhile isNumeral)

/-- White space between tokens. -/
def isSpace (c : Char) : Bool := c == ' ' || c == '\n' || c == '\r' || c == '\t'

/-- The tokens of a text. -/
def tokens (cs : List Char) : Option (List Token) :=
  match cs with
  | [] => some []
  | c :: rest =>
    if isSpace c then tokens rest
    else
      match nextToken (c :: rest) with
      | none => none
      | some (token, after) =>
        -- a token takes at least one character
        if _shorter : after.length < (c :: rest).length then (tokens after).map (token :: ·) else none
termination_by cs.length
decreasing_by
  · exact Nat.lt_succ_self _
  · exact _shorter

/-- An array or object that is still open; the items of an array stand last first, and an object may have
a name that waits for its value. -/
inductive OpenContainer where
  | arr (items : List Json)
  | obj (members : Members) (name : Option String)
deriving Repr

/-- What may come next. -/
inductive Expected where
  | value
  /-- A value, or the end of an array without items. -/
  | valueOrEnd
  | name
  /-- A name, or the end of an object without members. -/
  | nameOrEnd
  | colon
  | commaOrEnd
  | nothing
deriving DecidableEq, Repr

/-- The state of reading: the containers that are open, innermost first, what may come next, and the value
once it is complete. -/
structure Assembly where
  opened : List OpenContainer := []
  expected : Expected := .value
  result : Option Json := none
deriving Repr

/-- The state after a complete value. -/
def Assembly.put (a : Assembly) (value : Json) : Assembly :=
  match a.opened with
  | [] => { opened := [], expected := .nothing, result := some value }
  | .arr items :: outer => { a with opened := .arr (value :: items) :: outer, expected := .commaOrEnd }
  | .obj members name :: outer =>
    { a with
      opened := .obj (Named.insert (name.getD "") value members) none :: outer
      expected := .commaOrEnd }

/-- The state after one more token. -/
def Assembly.next (a : Assembly) (token : Token) : Option Assembly :=
  let forValue := a.expected == .value || a.expected == .valueOrEnd
  match token with
  | .scalar value =>
    if forValue then some (a.put value)
    else if a.expected == .name || a.expected == .nameOrEnd then
      match value, a.opened with
      | .str name, .obj members _ :: outer =>
        some { a with opened := .obj members (some name) :: outer, expected := .colon }
      | _, _ => none
    else none
  | .openArr =>
    if forValue && a.opened.length < 127 then
      some { a with opened := .arr [] :: a.opened, expected := .valueOrEnd }
    else none
  | .openObj =>
    if forValue && a.opened.length < 127 then
      some { a with opened := .obj [] none :: a.opened, expected := .nameOrEnd }
    else none
  | .closeArr =>
    match a.opened with
    | .arr items :: outer =>
      if a.expected == .commaOrEnd || a.expected == .valueOrEnd then
        some ({ a with opened := outer }.put (.arr items.reverse))
      else none
    | _ => none
  | .closeObj =>
    match a.opened with
    | .obj members _ :: outer =>
      if a.expected == .commaOrEnd || a.expected == .nameOrEnd then
        some ({ a with opened := outer }.put (.obj members))
      else none
    | _ => none
  | .comma =>
    if a.expected == .commaOrEnd then
      match a.opened with
      | .arr _ :: _ => some { a with expected := .value }
      | .obj _ _ :: _ => some { a with expected := .name }
      | [] => none
    else none
  | .colon => if a.expected == .colon then some { a with expected := .value } else none

/-- The value that a text denotes. -/
def ofChars? (cs : List Char) : Option Json := do
  let tokens ← tokens cs
  let a ← tokens.foldlM Assembly.next {}
  a.result

/-- The value that a text denotes. -/
def ofText? (text : String) : Option Json := ofChars? text.toList

end EntityHistory.Json
