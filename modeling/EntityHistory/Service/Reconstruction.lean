/-
Reconstructing entities.

From intervals the histories of their entities are put together. For each interval the instances of the
attributes are fetched, within the budget of the response, with their sub-instances; each gets the creation
time of its attribute; and the parts of one entity are merged. The type of an entity and its times are those
at the end of the interval, or the present ones if the entity does not exist then.
-/
import EntityHistory.Entity.Lifecycle
import EntityHistory.Entity.Temporal
import EntityHistory.Interval.Governor
import EntityHistory.Service.Creations

namespace EntityHistory

/-- What is asked of the entities. -/
structure ReconstructionRequest where
  time : TimeQuery
  /-- The attributes, with their full names; an empty list asks for all. -/
  attributeIds : List String
  /-- How many of the last instances of each attribute are asked for. -/
  lastN : Option UInt32
deriving DecidableEq, Repr

/-- The entities put together, in the order of their identifiers. -/
structure Reconstruction where
  entities : List TemporalEntity := []
  /-- Whether instances were left out for the size of the response, or fewer than asked for are given. -/
  limited : Bool := false
deriving Repr, Inhabited

namespace Reconstruction

/-- The entity at the end of an interval, without attributes. -/
def shell (now : Instant) (records : List EntityRecord) (interval : EntityInterval) : TemporalEntity :=
  let state := (stateAt records interval.stop).or (stateAt records now)
  { id := interval.entityId
    entityType :=
      match state with
      | some s => s.entityType
      | none => (records.getLast?.map (·.entityType)).getD ""
    createdAt := state.bind (·.createdAt)
    modifiedAt := state.map (·.modifiedAt) }

/-- A sub-instance as part of a history: it was created and changed at its own time. -/
def ofSubInstance (s : SubInstance) : TemporalInstance where
  id := s.id
  value := s.value
  observedAt := s.observedAt
  createdAt := some s.writtenAt
  modifiedAt := some s.writtenAt
  datasetId := s.datasetId
  unitCode := s.unitCode
  subAttributes := []

/-- The sub-instances of an instance under their attributes. -/
def subAttributesOf (subs : List SubInstance) (parentId : String) : Named (List TemporalInstance) :=
  Named.mapValues (fun subs => subs.map ofSubInstance)
    (Named.group (·.attributeId) (subs.filter fun s => s.parentId = parentId))

/-- An instance as part of a history. -/
def ofInstance (i : AttributeInstance) (createdAt : Instant) (subs : List SubInstance) :
    TemporalInstance where
  id := i.id
  value := i.value
  observedAt := i.observedAt
  createdAt := some createdAt
  modifiedAt := some i.writtenAt
  datasetId := i.datasetId
  unitCode := i.unitCode
  subAttributes := subAttributesOf subs i.id

/-- What has been put together so far, and the records fetched for it. -/
structure Progress where
  records : Named (List EntityRecord) := []
  entities : Named TemporalEntity := []
  limited : Bool := false

variable {σ : Type} (repository : Repository σ)

/-- The parts of a history that some instances of one attribute make. -/
def ofInstances (attributeId : String) (subs : List SubInstance) :
    List AttributeInstance → Action (Resolver σ) (List TemporalInstance)
  | [] => pure []
  | i :: rest => do
    let createdAt ← Resolver.resolve repository i.entityId attributeId i.writtenAt
    let others ← ofInstances attributeId subs rest
    pure (ofInstance i createdAt subs :: others)

/-- The parts of a history that the instances of some attributes make. -/
def ofAttributes (subs : List SubInstance) :
    List (String × List AttributeInstance) → Action (Resolver σ) (List (String × List TemporalInstance))
  | [] => pure []
  | (attributeId, instances) :: rest => do
    let first ← ofInstances repository attributeId subs instances
    let others ← ofAttributes subs rest
    pure ((attributeId, first) :: others)

/-- The records of an entity, fetched unless they have been before. -/
def recordsOf (p : Progress) (entityId : String) : Action σ (List EntityRecord × Progress) :=
  match Named.get? p.records entityId with
  | some records => pure (records, p)
  | none => do
    let records ← repository.entityRecords entityId
    pure (records, { p with records := Named.insert entityId records p.records })

/-- Adds the part of an entity that an interval gives. -/
def addInterval (now : Instant) (request : ReconstructionRequest) (budget : InstanceBudget)
    (p : Progress) (interval : EntityInterval) : Action (Resolver σ) Progress := do
  let fetched ← Resolver.onStore (repository.instances {
    interval
    time := request.time
    attributeIds := request.attributeIds
    limit := budget.fetchLimit
    order := if request.lastN.isSome then .descending else .ascending })
  let fetched := Named.group (·.attributeId) fetched
  let tooMany := fetched.any fun (_, instances) => budget.isExceededBy instances.length
  let kept := Named.mapValues (fun instances => instances.take budget.perAttribute) fetched
  let parents := (kept.flatMap (·.2)).filter (·.hasSubAttributes)
  let subs ←
    if parents = [] then pure []
    else Resolver.onStore (repository.subInstances (parents.map (·.id)))
  let (records, p) ← Resolver.onStore (recordsOf repository p interval.entityId)
  let attributes ← ofAttributes repository subs kept
  let part := { shell now records interval with attributes }
  pure { p with
    entities := Named.update interval.entityId
      (fun present => match present with
        | some entity => entity.merge part
        | none => part)
      p.entities
    limited := p.limited || tooMany }

end Reconstruction

/-- The entities of intervals, put together within a ceiling of instances. -/
def reconstruct {σ : Type} (repository : Repository σ) (ceiling : UInt32) (now : Instant)
    (intervals : List EntityInterval) (request : ReconstructionRequest) : Action σ Reconstruction := do
  let entityIds := nameSet (intervals.map (·.entityId))
  if entityIds = [] then pure {}
  else
    let attributes ←
      if request.attributeIds = [] then repository.mostAttributes entityIds
      else pure request.attributeIds.length
    let budget := budget ceiling request.lastN entityIds.length attributes
    let (p, _) ← Resolver.runFrom []
      (intervals.foldlM (Reconstruction.addInterval repository now request budget)
        { limited := budget.limited })
    pure {
      entities := p.entities.map fun (_, entity) => entity.sortInstances request.time.property
      limited := p.limited }

end EntityHistory
