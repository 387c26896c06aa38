/-
A repository on a database.

Each question becomes statements, and the rows that they answer are read. How statements are run is a
parameter. Questions about no instances or no entities are answered without a statement. The rows of a plan
whose unions were made pairwise can still overlap, so they are brought into normal form.
-/
import EntityHistory.Sql.Statements
import EntityHistory.Store.Rows

namespace EntityHistory.Database

variable {σ : Type}

/-- Reads rows, or a value of one, as what they hold. -/
def reading {α : Type} (r : Except RecordFault α) : Action σ α :=
  match r with
  | .ok a => pure a
  | .error fault => throw (.unreadableRecord fault)

/-- A column of the first of some rows. -/
def first {α : Type} (read : Sql.Value → Option α) (column : String) (rows : List Row) :
    Except RecordFault (Option α) :=
  match rows with
  | [] => pure none
  | row :: _ => some <$> Row.required read row column

variable (run : Sql.Statement → Action σ (List Row))

/-- The anchor that a statement finds. -/
def findAnchor (statement : Option Sql.Statement) : Action σ (Option String) :=
  match statement with
  | none => pure none
  | some statement => do reading (first Row.string? "entity_id" (← run statement))

/-- The number of entities that a statement counts. -/
def findCount (statement : Option Sql.Statement) : Action σ (Option Nat) :=
  match statement with
  | none => pure none
  | some statement => do
    let total ← reading (first Row.bigint? "total" (← run statement))
    pure (some (total.getD 0).toNat)

/-- The page that the statements of an interval query find. -/
def findIntervals (q : IntervalQuery) : Action σ IntervalPage := do
  let statements := Sql.intervalStatements q
  let rows ← run statements.intervals
  let intervals ← reading (rows.mapM Row.toInterval)
  let nextAnchor ← findAnchor run statements.nextAnchor
  let prevAnchor ← findAnchor run statements.prevAnchor
  let totalEntities ← findCount run statements.count
  pure {
    intervals := if q.plan.isSome then EntityInterval.normalize intervals else intervals
    nextAnchor
    prevAnchor
    totalEntities }

/-- The repository on a database whose statements are run in the given way. -/
def repository : Repository σ where
  findIntervals := findIntervals run
  entityRecords entityId := do
    reading ((← run (Sql.recordsStatement entityId)).mapM Row.toRecord)
  instances q := do reading ((← run (Sql.instancesStatement q)).mapM Row.toInstance)
  subInstances parentIds :=
    if parentIds = [] then pure []
    else do reading ((← run (Sql.subInstancesStatement parentIds)).mapM Row.toSubInstance)
  creationTimes entityId attributeId := do
    let rows ← run (Sql.creationTimesStatement entityId attributeId)
    reading (rows.mapM fun row => Row.required Row.instant? row "ts")
  mostAttributes entityIds :=
    if entityIds = [] then pure 0
    else do
      let rows ← run (Sql.mostAttributesStatement entityIds)
      let count ← reading (first Row.bigint? "attributes" rows)
      pure (count.getD 0).toNat

end EntityHistory.Database

namespace EntityHistory

/-- The recorded answers of a database that are still to be given, one for each statement: rows, or the
text of a failure. -/
abbrev Recording := List (Except String (List Row))

/-- Runs a statement by giving the next recorded answer. -/
def Recording.run (_ : Sql.Statement) : Action Recording (List Row) := do
  match ← get with
  | [] => throw (.database .noAnswerLeft)
  | answer :: rest =>
    set rest
    match answer with
    | .ok rows => pure rows
    | .error text => throw (.database (.failed text))

end EntityHistory
