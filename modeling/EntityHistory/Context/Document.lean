/-
Context documents.

A context document defines short names. It comes as a JSON object with a member `@context`, which is an
object of definitions, a reference to another document, or an array of these. References are followed before
the definitions of the document that makes them take effect. A member whose name begins with `@` defines no
term; the member `@vocab` sets the namespace of the terms that nothing else defines.
-/
import EntityHistory.Error
import EntityHistory.Json.Printer

namespace EntityHistory

/-- A context document. -/
structure Document where
  url : String
  /-- The terms with their definitions, in the order in which they are defined. -/
  terms : List (String × String) := []
  vocab : Option String := none
  /-- The documents that are referred to. -/
  imports : List String := []
deriving DecidableEq, Repr, Inhabited

namespace Document

/-- The document with one more member of an object of definitions. A definition is a text or an object with
a text as its `@id`; any other defines nothing. -/
def define (d : Document) (name : String) (definition : Json) : Document :=
  if name = "@vocab" then { d with vocab := definition.str? }
  else if name.toList.head? = some '@' then d
  else
    let iri := match definition with
      | .str iri => some iri
      | .obj _ => (definition.get? "@id").bind Json.str?
      | _ => none
    { d with terms := d.terms ++ (iri.map fun iri => (name, iri)).toList }

mutual

/-- The document with the content of one context entry. -/
def absorb (d : Document) : Json → Except ContextFault Document
  | .str url => pure { d with imports := d.imports ++ [url] }
  | .arr entries => absorbAll d entries
  | .obj members => pure (members.foldl (fun d (name, definition) => d.define name definition) d)
  | .null => pure d
  | entry => throw (.unsupportedEntry d.url entry.text)

/-- The document with the content of several context entries. -/
def absorbAll (d : Document) : List Json → Except ContextFault Document
  | [] => pure d
  | entry :: entries => do absorbAll (← d.absorb entry) entries

end

/-- The document that a JSON value holds. -/
def ofJson (url : String) (content : Json) : Except ContextFault Document :=
  match content.get? "@context" with
  | none => throw (.noContextMember url)
  | some context => absorb { url } context

end Document

end EntityHistory
