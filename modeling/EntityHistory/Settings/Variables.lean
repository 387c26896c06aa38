/-
Settings in variables.

A variable of the environment gives a setting if its name begins with the prefix of the program, in upper or
lower case. Two underscores, or a point, stand between the names of a path. The value is a text, a number, a
truth value, a list between brackets or a group between braces; what is none of these is a text as it is.
-/
import EntityHistory.Number.Reading
import EntityHistory.Settings.Tree
import EntityHistory.Settings.Written
import EntityHistory.Text.Blank
import EntityHistory.Text.Pieces

namespace EntityHistory.Variables

def isSpace (c : Char) : Bool := c == ' ' || c == '\t' || c == '\n' || c == '\x0c' || c == '\r'

/-- Whether a character may stand in a plain value. -/
def isPlain (c : Char) : Bool := c ≠ ',' && c ≠ '\x7b' && c ≠ '\x7d' && c ≠ '[' && c ≠ ']'

/-- A whole number of 64 bits, signed or unsigned. -/
def integer? (cs : List Char) : Option Int :=
  let (negative, digits) := match cs with
    | '-' :: digits => (true, digits)
    | '+' :: digits => (false, digits)
    | _ => (false, cs)
  if digits = [] ∨ !digits.all Char.isDigit then none
  else
    let n := digitsValue digits
    if negative then if n ≤ Nat.pow 2 63 then some (-(n : Int)) else none
    else if n < Nat.pow 2 64 then some n else none

/-- The value of a plain text. -/
def plain (cs : List Char) : SettingTree :=
  if cs = "true".toList then .flag true
  else if cs = "false".toList then .flag false
  else
    match integer? cs, Double.ofText? cs with
    | some n, _ => .integer n
    | none, some _ => .real
    | none, none => .text (String.ofList cs)

def isKey (c : Char) : Bool := c.isAlphanum || c == '_' || c == '-'

/-- Reads the name of a member. -/
def key : List Char → Option (List Char × List Char)
  | '"' :: rest => Written.quoted rest
  | cs => if cs.takeWhile isKey = [] then none else some (cs.takeWhile isKey, cs.dropWhile isKey)

mutual

/-- Reads a value with the white space around it. -/
def value : Nat → List Char → Option (SettingTree × List Char)
  | 0, _ => none
  | fuel + 1, cs => do
    let (t, rest) ← match cs.dropWhile isSpace with
      | '\x7b' :: rest => (members fuel [] rest).map fun (ms, rest) => (SettingTree.group ms, rest)
      | '[' :: rest => (items fuel rest).map fun (ts, rest) => (.list ts, rest)
      | '"' :: rest => (Written.quoted rest).map fun (s, rest) => (.text (String.ofList s), rest)
      | '\'' :: c :: '\'' :: rest => some (.text (String.singleton c), rest)
      | '\'' :: _ => none
      | cs => some (plain (Text.trim (cs.takeWhile isPlain)), cs.dropWhile isPlain)
    pure (t, rest.dropWhile isSpace)

/-- Reads the items of a list up to its end. -/
def items : Nat → List Char → Option (List SettingTree × List Char)
  | 0, _ => none
  | fuel + 1, cs =>
    match cs with
    | ']' :: rest => some ([], rest)
    | _ => do
      let (t, rest) ← value fuel cs
      match rest with
      | ',' :: rest =>
        let (ts, rest) ← items fuel rest
        pure (t :: ts, rest)
      | ']' :: rest => pure ([t], rest)
      | _ => none

/-- Reads the members of a group up to its end. -/
def members : Nat → Named SettingTree → List Char → Option (Named SettingTree × List Char)
  | 0, _, _ => none
  | fuel + 1, ms, cs =>
    match cs with
    | '\x7d' :: rest => some (ms, rest)
    | _ => do
      let (name, rest) ← key (cs.dropWhile isSpace)
      match rest.dropWhile isSpace with
      | '=' :: rest =>
        let (t, rest) ← value fuel rest
        let ms := Named.insert (String.ofList name) t ms
        match rest with
        | ',' :: rest => members fuel ms rest
        | '\x7d' :: rest => pure (ms, rest)
        | _ => none
      | _ => none

end

/-- The tree that the value of a variable gives. -/
def tree (content : String) : SettingTree :=
  let cs := content.toList
  match value (2 * cs.length + 2) cs with
  | some (t, []) => t
  | _ => .text content

/-- What the names of the variables begin with. -/
def leader : String := "tempora_"

/-- The names between two underscores or points. -/
def pathOf : List Char → List (List Char)
  | [] => [[]]
  | '_' :: '_' :: cs => [] :: pathOf cs
  | '.' :: cs => [] :: pathOf cs
  | c :: cs =>
    match pathOf cs with
    | [] => [[c]]
    | first :: rest => (c :: first) :: rest

/-- The path of the setting that a variable gives. -/
def path? (name : String) : Option (List String) := do
  let name := (Text.trim name.toList).map Char.toLower
  let rest ← Text.afterPhrase leader.toList name
  let path := pathOf (Text.trim rest)
  if path.contains [] then none else pure (path.map String.ofList)

/-- The tree of settings that variables give, later ones over earlier ones. -/
def settings (given : List (String × String)) : SettingTree :=
  given.foldl
    (fun t (name, content) =>
      match path? name with
      | none => t
      | some path => t.merge (.nest path (tree content)))
    (.group [])

end EntityHistory.Variables
