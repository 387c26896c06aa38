/-
Link headers.

A request names its context in a link header, as the first link of the relation that is meant for contexts.
An answer links to the neighbouring pages; such a link keeps the query of the request and replaces its page
anchor.
-/
import EntityHistory.Text.Blank
import EntityHistory.Text.Percent
import EntityHistory.Text.Pieces

namespace EntityHistory

/-- The relation of a link to a context. -/
def contextRelation : String := "http://www.w3.org/ns/json-ld#context"

/-- Whether a header value holds visible characters, spaces and tabs only. -/
def isVisible (value : String) : Bool :=
  value.toList.all fun c => (32 ≤ c.toNat && c.toNat < 127) || c == '\t'

/-- The address between angle brackets in a link. -/
def linkAddress (link : List Char) : Option (List Char) := do
  let (_, after) ← Text.cutOnce '<' link
  let (address, _) ← Text.cutOnce '>' after
  pure (Text.trim address)

/-- The address of the context that link headers name. -/
def linkedContext (headers : List String) : Option String := do
  let links := (headers.filter isVisible).flatMap fun value => Text.pieces ',' value.toList
  let link ← links.find? (Text.mentions contextRelation.toList)
  let address ← linkAddress link
  if address = [] then none else some (String.ofList address)

/-- The parts of a query string that a link to another page keeps. -/
def keptPairs (query : Option (List Char)) : List (List Char) :=
  (Text.pieces '&' (query.getD [])).filter fun pair =>
    pair ≠ [] && (Text.afterPhrase "pageAnchor=".toList pair).isNone

/-- The query string of the page at an anchor. -/
def pageQuery (query : Option (List Char)) (anchor : String) : List Char :=
  Text.joinWith ['&'] (keptPairs query ++ ["pageAnchor=".toList ++ Text.percentEncode anchor.toList])

/-- A link to the page at an anchor. -/
def pageLink (path : String) (query : Option (List Char)) (anchor relation : String) : String :=
  "<" ++ path ++ "?" ++ String.ofList (pageQuery query anchor) ++ ">; rel=\"" ++ relation ++ "\""

end EntityHistory
