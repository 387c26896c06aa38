/-
JSON values.

Whole numbers and floating-point numbers are kept apart, as their texts are. The members of an object
stand in the order of their names, each name once: inserting a member replaces one of the same name.
-/
import EntityHistory.Named
import EntityHistory.Number.Decimal

namespace EntityHistory

/-- A JSON value. -/
inductive Json where
  | null
  | bool (b : Bool)
  | int (n : Int)
  | double (d : Double)
  | str (s : String)
  | arr (items : List Json)
  | obj (members : List (String × Json))
deriving Repr, Inhabited

namespace Json

/-- The members of an object. -/
abbrev Members := Named Json

/-- The object with the given members; a later one replaces an earlier one of the same name. -/
def object (members : List (String × Json)) : Json := .obj (Named.ofList members)

/-- The value of a member of an object; other values have no members. -/
def get? (j : Json) (name : String) : Option Json :=
  match j with
  | .obj members => Named.get? members name
  | _ => none

def str? : Json → Option String
  | .str s => some s
  | _ => none

def arr? : Json → Option (List Json)
  | .arr items => some items
  | _ => none

/-- The nearest floating-point number to a JSON number. -/
def double? : Json → Option Double
  | .int n => some (.ofInt n)
  | .double d => some d
  | _ => none

end Json

end EntityHistory
