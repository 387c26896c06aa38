/-
Writing JSON texts.

The text has no white space. Quotes, backslashes and control characters of a string are escaped, and every
other character is written as it is. A floating-point number that is not finite is written as `null`.
-/
import EntityHistory.Json.Basic

namespace EntityHistory.Json

/-- A digit of a hexadecimal number below sixteen. -/
def hexDigit (n : Nat) : Char := "0123456789abcdef".toList.getD n '0'

/-- A character as it stands inside a JSON string. -/
def escapeChar (c : Char) : List Char :=
  match c with
  | '"' => ['\\', '"']
  | '\\' => ['\\', '\\']
  | '\n' => ['\\', 'n']
  | '\r' => ['\\', 'r']
  | '\t' => ['\\', 't']
  | '\x08' => ['\\', 'b']
  | '\x0c' => ['\\', 'f']
  | c =>
    if c.toNat < 0x20 then ['\\', 'u', '0', '0', hexDigit (c.toNat / 16), hexDigit (c.toNat % 16)]
    else [c]

/-- The text of a string, with its quotes. -/
def stringText (s : String) : List Char := '"' :: s.toList.flatMap escapeChar ++ ['"']

/-- The text of a floating-point number. -/
def doubleText (d : Double) : List Char := (d.jsonText.getD "null").toList

mutual

/-- The characters of the text of a value. -/
def chars : Json → List Char
  | .null => "null".toList
  | .bool b => (if b then "true" else "false").toList
  | .int n => (toString n).toList
  | .double d => doubleText d
  | .str s => stringText s
  | .arr items => '[' :: itemsChars items ++ [']']
  | .obj members => '\x7b' :: membersChars members ++ ['\x7d']

/-- The items of an array with commas between them. -/
def itemsChars : List Json → List Char
  | [] => []
  | [item] => chars item
  | item :: items => chars item ++ ',' :: itemsChars items

/-- The members of an object with commas between them. -/
def membersChars : List (String × Json) → List Char
  | [] => []
  | [(name, value)] => stringText name ++ ':' :: chars value
  | (name, value) :: members => stringText name ++ ':' :: chars value ++ ',' :: membersChars members

end

/-- The text of a value. -/
def text (j : Json) : String := String.ofList j.chars

end EntityHistory.Json
