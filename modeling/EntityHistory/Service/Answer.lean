/-
Answering requests.

A request is read with the cache of contexts alone and answered with the repository alone. A page of
histories comes with the anchors of its neighbours; the history of one entity is found only if the entity
exists at present and has instances that the request asks for.
-/
import EntityHistory.Service.Request

namespace EntityHistory

/-- What the service keeps between requests. -/
structure Held (σ : Type) where
  cache : Cache
  store : σ

/-- What the service works with. -/
structure Service (σ : Type) extends RequestReader where
  repository : Repository σ

/-- A page of histories. -/
structure EntitiesAnswer where
  entities : List Json
  /-- Whether instances are left out for the size of the answer. -/
  limited : Bool
  nextAnchor : Option String
  prevAnchor : Option String
  totalEntities : Option Nat
  pageSize : Nat
deriving Repr

/-- The history of one entity. -/
structure EntityAnswer where
  entity : Json
  limited : Bool
deriving Repr

variable {σ : Type}

/-- Works on the cache. -/
def Held.onCache {α : Type} (serving : Serving Cache α) : Serving (Held σ) α := ExceptT.mk fun held =>
  let (result, cache) := serving.run.run held.cache
  (result, { held with cache })

/-- Works on what is stored. -/
def Held.onStore {α : Type} (action : Action σ α) : Serving (Held σ) α := ExceptT.mk fun held =>
  let (result, store) := action.run.run held.store
  (result.mapError .reported, { held with store })

namespace Service

variable (s : Service σ) (now : Instant)

/-- The histories within intervals, as far as a request asks for them. -/
def reconstruct (intervals : List EntityInterval) (request : Request) : Action σ Reconstruction :=
  EntityHistory.reconstruct s.repository s.settings.resultCeiling now intervals request.what

/-- Answers a request for a page of histories. -/
def entities [PatternEngine] (p : Parameters) : Serving (Held σ) EntitiesAnswer := do
  let (q, request) ← Held.onCache (s.toRequestReader.query p)
  let page ← Held.onStore (s.repository.findIntervals q)
  let found ← Held.onStore (s.reconstruct now page.intervals request)
  pure {
    entities := found.entities.map (TemporalEntity.toJson request.options request.context request.urls)
    limited := found.limited
    nextAnchor := page.nextAnchor
    prevAnchor := page.prevAnchor
    totalEntities := page.totalEntities
    pageSize := (q.page.map PageRequest.size).getD 0 }

/-- The query for the intervals of one entity: the whole window of the time query. -/
def wholeWindow (entityId : String) (time : TimeQuery) : IntervalQuery where
  filter := { ids := [entityId] }
  time := time
  plan := none
  page := none

/-- Answers a request for the history of one entity. -/
def entity (entityId : String) (p : Parameters) : Serving (Held σ) EntityAnswer := do
  let request ← Held.onCache (s.toRequestReader.retrieval p)
  let records ← Held.onStore (s.repository.entityRecords entityId)
  if (stateAt records now).isNone then throw (.reported (.notFound (.entity entityId)))
  let page ← Held.onStore (s.repository.findIntervals (wholeWindow entityId request.what.time))
  let found ← Held.onStore (s.reconstruct now page.intervals request)
  match found.entities.find? fun e => e.id = entityId && 0 < e.instanceCount with
  | none => throw (.reported (.notFound (.instances entityId)))
  | some e =>
    pure {
      entity := e.toJson request.options request.context request.urls
      limited := found.limited }

end Service

end EntityHistory
