/-
Problems.

An error is answered with a problem: its kind, a title for the kind, the status and the details. Details of
errors that are not the caller's are not told.
-/
import EntityHistory.Error
import EntityHistory.Json.Basic

namespace EntityHistory

/-- The kinds of problems. -/
inductive ProblemKind where
  | badRequestData
  | invalidRequest
  | contextNotAvailable
  | resourceNotFound
  | internalError
deriving DecidableEq, Repr, Inhabited

namespace ProblemKind

def name : ProblemKind → String
  | .badRequestData => "BadRequestData"
  | .invalidRequest => "InvalidRequest"
  | .contextNotAvailable => "LdContextNotAvailable"
  | .resourceNotFound => "ResourceNotFound"
  | .internalError => "InternalError"

/-- The address that identifies the kind. -/
def uri (k : ProblemKind) : String := "https://uri.etsi.org/ngsi-ld/errors/" ++ k.name

def title : ProblemKind → String
  | .badRequestData =>
    "The request includes input data which does not meet the requirements of the operation"
  | .invalidRequest => "The request associated to the operation is syntactically invalid"
  | .contextNotAvailable => "A remote JSON-LD @context referenced in a request cannot be retrieved"
  | .resourceNotFound => "The referred resource has not been found"
  | .internalError => "There has been an error during the operation execution"

def status : ProblemKind → Nat
  | .badRequestData => 400
  | .invalidRequest => 400
  | .contextNotAvailable => 502
  | .resourceNotFound => 404
  | .internalError => 500

end ProblemKind

/-- The kind of problem that an error is. -/
def Error.kind : Error → ProblemKind
  | .invalidTimeRelation _ => .badRequestData
  | .invalidQuery _ => .badRequestData
  | .expansionFailure _ => .invalidRequest
  | .contextUnavailable _ => .contextNotAvailable
  | .notFound _ => .resourceNotFound
  | .unreadableRecord _ => .internalError
  | .database _ => .internalError
  | .configuration _ => .internalError
  | .internal _ => .internalError

/-- Whether an error is one of the program itself, whose details are not told. -/
def Error.isInternal (e : Error) : Bool := e.kind = .internalError

/-- A problem as it is told. -/
structure Problem where
  kind : ProblemKind
  detail : String
  /-- What the problem is with. -/
  subject : Option String := none
deriving DecidableEq, Repr

namespace Problem

/-- The problem with all details of an error. -/
def detailed (e : Error) (subject : Option String) : Problem := ⟨e.kind, e.message, subject⟩

/-- The problem that an error is answered with. -/
def ofError (e : Error) : Problem where
  kind := e.kind
  detail :=
    if e.isInternal then "An unexpected error occurred while processing the request" else e.message

def toJson (p : Problem) : Json :=
  .object ([("type", .str p.kind.uri), ("title", .str p.kind.title), ("status", .int p.kind.status),
    ("detail", .str p.detail)] ++ (p.subject.map fun s => ("instance", Json.str s)).toList)

end Problem

end EntityHistory
