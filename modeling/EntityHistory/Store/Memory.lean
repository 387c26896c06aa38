/-
The log in memory.

A repository that keeps the whole log and answers by going through it. The intervals of a leaf come from the
timeline of the instances of its attribute, and those of a plan from the algebra of intervals.
-/
import EntityHistory.Entity.Creation
import EntityHistory.Interval.Timeline
import EntityHistory.Query.Evaluate
import EntityHistory.Store.Repository

namespace EntityHistory

/-- The log, in the order in which it was written. -/
structure Log where
  records : List EntityRecord := []
  instances : List AttributeInstance := []
  subInstances : List SubInstance := []
deriving Repr, Inhabited

namespace Log

/-- The log with one more record. -/
def addRecord (r : EntityRecord) (log : Log) : Log := { log with records := log.records ++ [r] }

/-- The log with one more instance. -/
def addInstance (i : AttributeInstance) (log : Log) : Log := { log with instances := log.instances ++ [i] }

/-- The log with one more sub-instance. -/
def addSubInstance (s : SubInstance) (log : Log) : Log :=
  { log with subInstances := log.subInstances ++ [s] }

/-- Of some records the latest; of several of one time the one written last. -/
def latest (records : List EntityRecord) : Option EntityRecord :=
  records.foldl
    (fun best r =>
      match best with
      | none => some r
      | some best => if r.writtenAt < best.writtenAt then some best else some r)
    none

/-- The entities that exist according to their latest records and that a filter admits, in order. -/
def candidates [PatternEngine] (log : Log) (filter : EntityFilter) : Except QueryFault (List String) := do
  let pattern ← filter.pattern
  pure <| (nameSet (log.records.map (·.entityId))).filter fun entityId =>
    (latest (log.records.filter fun r => r.entityId = entityId)).any fun r =>
      r.mode ≠ .delete && filter.accepts pattern r.entityId r.entityType

/-- The creation time that an instance is compared by. A creation at the low water mark counts as none. -/
def createdAt (log : Log) (i : AttributeInstance) : Option Instant :=
  let t := creationAt (creationTimesIn log.instances i.entityId i.attributeId) i.writtenAt
  if t = lowWaterMark then none else some t

section Engine

variable [PatternEngine]

/-- Whether a leaf of a plan holds of an instance. -/
def leafHolds (log : Log) (leaf : PlanLeaf) (i : AttributeInstance) : Bool :=
  match leaf with
  | .comparison c => c.holds i log.subInstances (log.createdAt i)
  | .geo g =>
    match i.value with
    | some (.geometry stored) => i.mode ≠ .delete && g.accepts stored
    | _ => false

/-- The timeline of a leaf over the candidates. -/
def leafPoints (log : Log) (candidates : List String) (time : TimeQuery) (leaf : PlanLeaf) :
    List TimelinePoint :=
  (log.instances.filter fun i =>
    i.attributeId = leaf.attributeId && candidates.contains i.entityId).filterMap fun i =>
      (i.time? time.property).map fun t => ⟨i.entityId, t, log.leafHolds leaf i⟩

/-- The intervals of a leaf over the candidates. -/
def leafIntervals (log : Log) (candidates : List String) (time : TimeQuery) (leaf : PlanLeaf) :
    List EntityInterval :=
  TimelinePoint.intervals (log.leafPoints candidates time leaf) time

/-- The intervals of candidates: those of the plan, or the whole window. -/
def intervals (log : Log) (candidates : List String) (time : TimeQuery) : Option Plan → List EntityInterval
  | some plan => (plan.evaluate (m := Id) fun leaf => log.leafIntervals candidates time leaf).run
  | none => candidates.map fun entityId => ⟨entityId, time.window.start, time.window.stop⟩

/-- The answer to an interval query. -/
def findIntervals (log : Log) (q : IntervalQuery) : Except QueryFault IntervalPage := do
  let candidates ← log.candidates q.filter
  let intervals := EntityInterval.normalize (log.intervals candidates q.time q.plan)
  match q.page with
  | none => pure { intervals }
  | some page =>
    let result := paginate intervals page.anchor page.size
    pure (if page.count then result else { result with totalEntities := none })

end Engine

/-- The records of an entity in the order of their times. -/
def entityRecords (log : Log) (entityId : String) : List EntityRecord :=
  (log.records.filter fun r => r.entityId = entityId).mergeSort fun a b => a.writtenAt ≤ b.writtenAt

/-- Whether an instance is in the answer to a query, the limit apart. -/
def admits (q : InstanceQuery) (i : AttributeInstance) : Bool :=
  i.entityId = q.interval.entityId && (q.attributeIds = [] || q.attributeIds.contains i.attributeId) &&
    (i.time? q.time.property).any fun t => q.interval.contains t && q.time.accepts t

/-- Whether one instance comes before another or is level with it: by a time, then by identifier. -/
def isBefore (property : TimeProperty) (a b : AttributeInstance) : Bool :=
  match a.time? property, b.time? property with
  | some s, some t => s < t || (s = t && a.id ≤ b.id)
  | none, _ => true
  | some _, none => false

/-- The instances that a query gets of one attribute: the first ones in its order, up to the limit. The
descending order is the ascending one turned round. -/
def firstInstances (q : InstanceQuery) (instances : List AttributeInstance) : List AttributeInstance :=
  let ascending := instances.mergeSort (isBefore q.time.property)
  let ordered := match q.order with
    | .ascending => ascending
    | .descending => ascending.reverse
  ordered.take q.limit

/-- The answer to an instance query, attribute by attribute. -/
def findInstances (log : Log) (q : InstanceQuery) : List AttributeInstance :=
  (Named.group (·.attributeId) (log.instances.filter (admits q))).flatMap fun (_, instances) =>
    firstInstances q instances

/-- The sub-instances of some instances in the order of their times. -/
def findSubInstances (log : Log) (parentIds : List String) : List SubInstance :=
  (log.subInstances.filter fun s => parentIds.contains s.parentId).mergeSort fun a b =>
    a.writtenAt ≤ b.writtenAt

/-- The greatest number of attributes that one of some entities has. -/
def mostAttributes (log : Log) (entityIds : List String) : Nat :=
  (entityIds.map fun entityId =>
    (nameSet ((log.instances.filter fun i => i.entityId = entityId).map (·.attributeId))).length).foldl
      max 0

/-- The log as a repository. -/
def repository [PatternEngine] : Repository Log where
  findIntervals q := do
    let log ← get
    match log.findIntervals q with
    | .ok page => pure page
    | .error fault => throw (.invalidQuery fault)
  entityRecords entityId := do pure ((← get).entityRecords entityId)
  instances q := do pure ((← get).findInstances q)
  subInstances parentIds := do pure ((← get).findSubInstances parentIds)
  creationTimes entityId attributeId := do
    pure (creationTimesIn (← get).instances entityId attributeId)
  mostAttributes entityIds := do pure ((← get).mostAttributes entityIds)

end Log

end EntityHistory
