/-
Expanding and compacting names.

Documents that take effect together make a context. The last definition of a term counts, and so does the
last namespace. A definition may use another term as its prefix, as in `ex:speed`; it is expanded once,
against the definitions as they are written. Expanding takes a short name to its full name; compacting goes
back as far as it can. Some names are well known: they belong to the core namespace in every context.
-/
import EntityHistory.Context.Document
import EntityHistory.Text.Pieces
import EntityHistory.Unicode.Letters

namespace EntityHistory

/-- The namespace of the well-known names. -/
def coreNamespace : String := "https://uri.etsi.org/ngsi-ld/"

/-- The names that belong to the core namespace in every context. -/
def wellKnownNames : List String :=
  ["location", "observationSpace", "operationSpace", "unitCode", "createdAt", "modifiedAt",
    "observedAt", "datasetId"]

/-- Whether a name belongs to the core namespace in every context. -/
def isWellKnown (name : String) : Bool := wellKnownNames.contains name

/-- Whether a name is one that a namespace can be put before: letters, digits, underscores, hyphens. -/
def isPlainTerm (name : List Char) : Bool :=
  name ≠ [] && name.all fun c => Unicode.isAlphanumeric c || c == '_' || c == '-'

/-- The parts of a name before and after its first colon. -/
def cutPrefix (name : String) : Option (String × List Char) :=
  (Text.cutOnce ':' name.toList).map fun (before, after) => (String.ofList before, after)

/-- Whether what follows the colon makes the name an address. -/
def isAddressPart (after : List Char) : Bool := (Text.afterPhrase ['/', '/'] after).isSome

/-- The definitions that take effect together. -/
structure Context where
  /-- The terms with their full names. -/
  terms : Named String := []
  vocab : Option String := none
deriving DecidableEq, Repr, Inhabited

namespace Context

/-- A definition with its prefix replaced by the definition of that prefix. A definition that is its own
prefix's definition stays as it is. -/
def expandDefinition (definitions : Named String) (iri : String) : String :=
  match cutPrefix iri with
  | none => iri
  | some (before, after) =>
    if isAddressPart after then iri
    else
      match Named.get? definitions before with
      | none => iri
      | some base => if base = iri then iri else base ++ String.ofList after

/-- The definitions of documents; a later one replaces an earlier one of the same term. -/
def definitions (documents : List Document) : Named String :=
  Named.ofList (documents.flatMap Document.terms)

/-- The context that documents make together. -/
def ofDocuments (documents : List Document) : Context :=
  let definitions := definitions documents
  { terms := Named.mapValues (expandDefinition definitions) definitions
    vocab := (documents.filterMap Document.vocab).getLast? }

/-- The full name of a name. -/
def expand (c : Context) (name : String) : Except ExpansionFault String :=
  if isWellKnown name then pure (coreNamespace ++ name)
  else
    match Named.get? c.terms name with
    | some iri => pure iri
    | none =>
      let byPrefix := (cutPrefix name).bind fun (before, after) =>
        if isAddressPart after then some name
        else
          match Named.get? c.terms before with
          | some base => some (base ++ String.ofList after)
          | none => if before = "urn" then some name else none
      match byPrefix, c.vocab with
      | some iri, _ => pure iri
      | none, some vocab =>
        if isPlainTerm name.toList then pure (vocab ++ name) else throw (.unknownName name)
      | none, none => throw (.unknownName name)

/-- Whether one term is to be preferred to another of the same meaning: the one of fewer bytes, and of two
of the same length the one that is first in order. -/
def isPreferred (a b : String) : Bool :=
  a.utf8ByteSize < b.utf8ByteSize || (a.utf8ByteSize = b.utf8ByteSize && a < b)

/-- The preferred term among those with a given full name. -/
def preferredTerm (c : Context) (iri : String) : Option String :=
  (c.terms.filter fun entry => entry.2 = iri).foldl
    (fun best (term, _) =>
      match best with
      | none => some term
      | some best => if isPreferred term best then some term else some best)
    none

/-- The part of a full name after a namespace, if it is a plain term. -/
def afterNamespace (vocab iri : String) : Option String :=
  match Text.afterPhrase vocab.toList iri.toList with
  | some rest => if isPlainTerm rest then some (String.ofList rest) else none
  | none => none

/-- The short name of a full name; one that has none is left as it is. -/
def compact (c : Context) (iri : String) : String :=
  match wellKnownNames.find? fun name => coreNamespace ++ name = iri with
  | some name => name
  | none =>
    match c.preferredTerm iri with
    | some term => term
    | none => (c.vocab.bind fun vocab => afterNamespace vocab iri).getD iri

end Context

end EntityHistory
