/-
Requests and responses.

Two resources are served: the histories of entities and the history of one entity. A request whose parameters
cannot be read is rejected before it reaches the service, and is not counted. What the service answers is
counted, and so are its errors, which become problems. A response to HEAD is one to GET without its body, and
OPTIONS is answered for every path.
-/
import EntityHistory.Http.Form
import EntityHistory.Http.Link
import EntityHistory.Http.Metrics
import EntityHistory.Http.Problem
import EntityHistory.Service.Answer

namespace EntityHistory

/-- A request as it arrives. -/
structure HttpRequest where
  method : String := "GET"
  /-- The path with the query string. -/
  uri : String
  /-- The values of the link headers. -/
  links : List String := []
deriving DecidableEq, Repr

/-- The content of a response. -/
inductive Content where
  | json (j : Json)
  | text (s : String)
deriving Repr, Inhabited

/-- A response. -/
structure HttpResponse where
  status : Nat
  content : Content
  link : Option String := none
  /-- The number of all entities, in a header. -/
  totalEntities : Option Nat := none
  /-- Whether the content is only announced and not sent. -/
  withoutBody : Bool := false
deriving Repr, Inhabited

/-- A response with a status and nothing else. -/
def HttpResponse.bare (status : Nat) : HttpResponse := { status, content := .text "" }

/-- The response for an error. -/
def HttpResponse.ofError (e : Error) : HttpResponse where
  status := e.kind.status
  content := .json (Problem.ofError e).toJson

/-- The path of the histories of entities. -/
def entitiesPath : String := "/ngsi-ld/v1/temporal/entities"

/-- What is served. -/
inductive Route where
  | entities
  /-- One entity, whose identifier is still percent-encoded. -/
  | entity (id : List Char)
deriving DecidableEq, Repr

/-- What a path leads to. -/
def Route.ofPath? (path : List Char) : Option Route :=
  match Text.afterPhrase entitiesPath.toList path with
  | some [] => some .entities
  | some ('/' :: id) => if id = [] ∨ '/' ∈ id then none else some (.entity id)
  | _ => none

/-- The path and the query string of an address, without a fragment. -/
def splitUri (uri : String) : List Char × Option (List Char) :=
  let address := uri.toList.takeWhile (· ≠ '#')
  match Text.cutOnce '?' address with
  | some (path, query) => (path, some query)
  | none => (address, none)

/-- What is kept between requests. -/
structure Running (σ : Type) where
  held : Held σ
  metrics : Metrics := {}

variable {σ : Type}

/-- The status of an answer, which tells whether instances are left out. -/
def statusFor (limited : Bool) : Nat := if limited then 206 else 200

/-- The response with a page of histories. A link that a header cannot hold is left out. -/
def EntitiesAnswer.response (a : EntitiesAnswer) (query : Option (List Char)) : HttpResponse :=
  let links := [(a.prevAnchor, "prev"), (a.nextAnchor, "next")].filterMap fun (anchor, relation) =>
    anchor.map fun anchor => pageLink entitiesPath query anchor relation
  let link := ", ".intercalate links
  { status := statusFor a.limited
    content := .json (.arr a.entities)
    link := if links = [] || !isVisible link then none else some link
    totalEntities := a.totalEntities }

/-- The response with the history of one entity. -/
def EntityAnswer.response (a : EntityAnswer) : HttpResponse where
  status := statusFor a.limited
  content := .json a.entity

/-- Serves a request and counts it, when that takes so many milliseconds. -/
def Running.serve {α : Type} (elapsed : UInt64) (limited : α → Bool) (response : α → HttpResponse)
    (serving : Serving (Held σ) α) : Serving (Running σ) HttpResponse := ExceptT.mk fun running =>
  let (result, held) := serving.run.run running.held
  match result with
  | .ok a => (.ok (response a), { held, metrics := running.metrics.recordQuery elapsed (limited a) })
  | .error (.reported e) =>
    (.ok (.ofError e), { held, metrics := running.metrics.recordError })
  | .error .cutInsideCharacter => (.error .cutInsideCharacter, { running with held })

namespace Service

variable (s : Service σ) (now : Instant) (elapsed : UInt64)

/-- Responds to GET on what is served. -/
def respondTo [PatternEngine] (route : Route) (query : Option (List Char)) (links : List String) :
    Serving (Running σ) HttpResponse :=
  match Parameters.ofQuery? (query.getD []) with
  | none => pure (.bare 400)
  | some p =>
    let p := { p with link := linkedContext links }
    match route with
    | .entities =>
      Running.serve elapsed EntitiesAnswer.limited (fun a => a.response query) (s.entities now p)
    | .entity id =>
      match Text.ofPercent? id with
      | none => pure (.bare 400)
      | some id =>
        Running.serve elapsed EntityAnswer.limited EntityAnswer.response
          (s.entity now (String.ofList id) p)

/-- Responds to a request. -/
def respond [PatternEngine] (r : HttpRequest) : Serving (Running σ) HttpResponse := do
  let (path, query) := splitUri r.uri
  if r.method = "OPTIONS" then pure (.bare 200)
  else
    match Route.ofPath? path with
    | none => pure (.bare 404)
    | some route =>
      if r.method = "GET" then s.respondTo now elapsed route query r.links
      else if r.method = "HEAD" then
        pure { ← s.respondTo now elapsed route query r.links with withoutBody := true }
      else pure (.bare 405)

end Service

/-- Responds to a request for the counters or for the health of the program, which has run for some
seconds. -/
def Metrics.respond (m : Metrics) (version : String) (now : Instant) (uptime : Nat) (uri : String) :
    HttpResponse :=
  match String.ofList (splitUri uri).1 with
  | "/metrics" => { status := 200, content := .text m.text }
  | "/health" =>
    { status := 200
      content := .json (.object [("status", .str "healthy"), ("timestamp", .str (now.text .nanos)),
        ("version", .str version), ("uptime_seconds", .double (.ofInt uptime))]) }
  | _ => .bare 404

end EntityHistory
