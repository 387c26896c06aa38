/-
Intermediate relations.

An interval query is answered by a row of named relations, each made from earlier ones: the candidate
entities, for each leaf of the plan its samples and their runs, for each inner node the combination of its
children, and in the end the intervals and the numbering of entities that pages are cut by. A relation is a
value here, with the names of the relations it reads; its text is made from it.
-/
import EntityHistory.Interval.Plan
import EntityHistory.Sql.Condition
import EntityHistory.Store.Repository

namespace EntityHistory.Sql

/-- The name of a relation. The relations of a plan's nodes are numbered. -/
inductive RelationName where
  | candidates
  | node (n : Nat)
  /-- The samples of a leaf. -/
  | samples (n : Nat)
  /-- The last samples of a leaf from before the window, moved to its start. -/
  | starts (n : Nat)
  /-- The samples of a leaf with those that carry on over the edges of the window. -/
  | timeline (n : Nat)
  | intervals
  | ids
  | anchor
deriving DecidableEq, Repr

/-- The written form of a name. -/
def RelationName.text : RelationName → String
  | .candidates => "candidates"
  | .node n => "n" ++ toString n
  | .samples n => "n" ++ toString n ++ "_raw"
  | .starts n => "n" ++ toString n ++ "_s"
  | .timeline n => "n" ++ toString n ++ "_t"
  | .intervals => "intervals"
  | .ids => "ids"
  | .anchor => "anchor"

/-- A relation. -/
inductive Relation where
  /-- The entities that exist and that a filter admits. -/
  | candidates (filter : EntityFilter)
  /-- For each instance of a leaf's attribute whether the leaf holds of it. -/
  | samples (time : TimeQuery) (leaf : PlanLeaf)
  /-- The last sample of each entity that is not accepted and not later than the start of the window. -/
  | starts (time : TimeQuery) (points : RelationName)
  /-- The accepted samples, the starts, and the last of either at the end of the window. -/
  | timeline (time : TimeQuery) (points first : RelationName)
  /-- The maximal runs of samples at which the leaf holds. -/
  | runs (points : RelationName)
  /-- The common parts of overlapping rows of two relations. -/
  | both (left right : RelationName)
  /-- The unions of overlapping rows of two relations, and the rows that overlap none. -/
  | either (left right : RelationName)
  | nothing
  | copy (root : RelationName)
  /-- The window for each candidate. -/
  | wholeWindow (window : TimeWindow)
  /-- The entities with intervals, numbered. -/
  | ids
  /-- The number of the first entity of the page. -/
  | anchor (entityId : Option String)
deriving Repr

/-- The relations that a relation reads. -/
def Relation.reads : Relation → List RelationName
  | .candidates _ => []
  | .samples _ _ => [.candidates]
  | .starts _ points => [points]
  | .timeline _ points first => [points, first]
  | .runs points => [points]
  | .both left right => [left, right]
  | .either left right => [left, right]
  | .nothing => [.candidates]
  | .copy root => [root]
  | .wholeWindow _ => [.candidates]
  | .ids => [.intervals]
  | .anchor _ => [.ids]

/-- Restricts a column to a list of texts; an empty list does not restrict it. -/
def restriction (column : String) (texts : List String) : Fragment :=
  if texts = [] then []
  else text (" AND " ++ column ++ " IN (") ++ Fragment.bindList (texts.map .ofString) ++ text ")"

/-- The condition of a leaf on an instance. -/
def leafCondition : PlanLeaf → Fragment
  | .comparison c => (Condition.ofComparison c).fragment "ai"
  | .geo g => geoFragment "ai" g

/-- Only creations have a creation time. -/
def onlyCreations (property : TimeProperty) : Fragment :=
  if property = .createdAt then text " AND ai.operation_mode = 'Create'" else []

/-- Accepted samples and starts together; of samples of one time the accepted ones come first. -/
def windowRows (time : TimeQuery) (samples starts : RelationName) : Fragment :=
  text ("(SELECT entity_id, t, result, 0 AS o FROM " ++ samples.text ++ " WHERE ") ++
    timeCondition "t" time ++
    text (" UNION ALL SELECT entity_id, t, result, 1 AS o FROM " ++ starts.text ++ ") w")

/-- Rows of one entity that overlap. -/
def overlap : String :=
  "a.entity_id = b.entity_id AND a.start_time <= b.end_time AND b.start_time <= a.end_time"

/-- The text of a relation. -/
def Relation.fragment : Relation → Fragment
  | .candidates filter =>
    text ("SELECT latest.entity_id FROM (SELECT DISTINCT ON (er.entity_id) er.entity_id, er.entity_type, " ++
        "er.operation_mode FROM " ++ recordTable ++
        " er ORDER BY er.entity_id, er.ts DESC) latest WHERE latest.operation_mode <> 'Delete'") ++
      restriction "latest.entity_type" filter.types ++ restriction "latest.entity_id" filter.ids ++
      (match filter.idPattern with
        | some pattern => text " AND latest.entity_id ~ " ++ bind (.ofString pattern)
        | none => [])
  | .samples time leaf =>
    let column := timeColumn "ai" time.property
    text ("SELECT ai.entity_id, " ++ column ++
        " AS t, CASE WHEN ai.operation_mode = 'Delete' THEN false ELSE COALESCE((") ++
      leafCondition leaf ++
      text ("), false) END AS result FROM " ++ instanceTable ++
        " ai JOIN candidates c ON c.entity_id = ai.entity_id WHERE ai.attribute_id = ") ++
      bind (.ofString leaf.attributeId) ++ onlyCreations time.property ++ text " AND " ++
      (if time.carriesState then text (column ++ " IS NOT NULL") else timeCondition column time)
  | .starts time points =>
    text "SELECT DISTINCT ON (r.entity_id) r.entity_id, " ++ bind (.ofInstant time.window.start) ++
      text ("::timestamptz AS t, r.result FROM " ++ points.text ++ " r WHERE r.t <= ") ++
      bind (.ofInstant time.window.start) ++ text "::timestamptz AND NOT (" ++
      timeCondition "r.t" time ++ text ") ORDER BY r.entity_id, r.t DESC"
  | .timeline time points first =>
    text "SELECT entity_id, t, result FROM " ++ windowRows time points first ++
      text " UNION ALL (SELECT DISTINCT ON (w.entity_id) w.entity_id, " ++
      bind (.ofInstant time.window.stop) ++ text "::timestamptz AS t, w.result FROM " ++
      windowRows time points first ++ text " ORDER BY w.entity_id, w.t DESC, w.o)"
  | .runs points =>
    text ("SELECT entity_id, min(t) AS start_time, max(t) AS end_time FROM (SELECT entity_id, t, result, " ++
      "row_number() OVER (PARTITION BY entity_id ORDER BY t, result) - row_number() OVER (PARTITION BY " ++
      "entity_id, result ORDER BY t) AS grp FROM " ++ points.text ++
      ") ranked WHERE result GROUP BY entity_id, result, grp")
  | .both left right =>
    text ("SELECT a.entity_id, greatest(a.start_time, b.start_time) AS start_time, " ++
      "least(a.end_time, b.end_time) AS end_time FROM " ++ left.text ++ " a JOIN " ++ right.text ++
      " b ON " ++ overlap)
  | .either left right =>
    text ("SELECT a.entity_id, least(a.start_time, b.start_time) AS start_time, " ++
      "greatest(a.end_time, b.end_time) AS end_time FROM " ++ left.text ++ " a JOIN " ++ right.text ++
      " b ON " ++ overlap ++
      " UNION SELECT a.entity_id, a.start_time, a.end_time FROM " ++ left.text ++
      " a WHERE NOT EXISTS (SELECT 1 FROM " ++ right.text ++ " b WHERE " ++ overlap ++
      ") UNION SELECT b.entity_id, b.start_time, b.end_time FROM " ++ right.text ++
      " b WHERE NOT EXISTS (SELECT 1 FROM " ++ left.text ++ " a WHERE " ++ overlap ++ ")")
  | .nothing =>
    text "SELECT entity_id, now() AS start_time, now() AS end_time FROM candidates WHERE false"
  | .copy root => text ("SELECT entity_id, start_time, end_time FROM " ++ root.text)
  | .wholeWindow window =>
    text "SELECT entity_id, " ++ bind (.ofInstant window.start) ++ text "::timestamptz AS start_time, " ++
      bind (.ofInstant window.stop) ++ text "::timestamptz AS end_time FROM candidates"
  | .ids =>
    text ("SELECT entity_id, row_number() OVER (ORDER BY entity_id) AS rn FROM (SELECT DISTINCT " ++
      "entity_id FROM intervals) d")
  | .anchor entityId =>
    text "SELECT COALESCE((SELECT rn FROM ids WHERE entity_id = " ++ bind (.string entityId) ++
      text "), 1) AS rn"

/-- A relation with its name. -/
structure Definition where
  name : RelationName
  relation : Relation
deriving Repr

/-- The text of relations that are defined one after the other. -/
def withFragment (definitions : List Definition) : Fragment :=
  text "WITH " ++ Fragment.separated ", " (definitions.map fun d =>
    text (d.name.text ++ " AS (") ++ d.relation.fragment ++ text ")")

/-! ### Plans -/

/-- Definitions, the number of the node that they end in, and the next number to give. -/
structure Compiled where
  definitions : List Definition
  root : Nat
  next : Nat
deriving Repr

/-- The definitions of a leaf under a number. -/
def leafDefinitions (time : TimeQuery) (leaf : PlanLeaf) (n : Nat) : List Definition :=
  [⟨.samples n, .samples time leaf⟩] ++
    (if time.carriesState then
      [⟨.starts n, .starts time (.samples n)⟩,
        ⟨.timeline n, .timeline time (.samples n) (.starts n)⟩,
        ⟨.node n, .runs (.timeline n)⟩]
    else [⟨.node n, .runs (.samples n)⟩])

/-- Combines a node with further nodes, one after the other. -/
def combineFrom (combine : RelationName → RelationName → Relation) (root : Nat) (next : Nat) :
    List Nat → Compiled
  | [] => ⟨[], root, next⟩
  | child :: children =>
    let rest := combineFrom combine next (next + 1) children
    { rest with definitions := ⟨.node next, combine (.node root) (.node child)⟩ :: rest.definitions }

/-- Combines nodes; without any the result is empty. -/
def combineAll (combine : RelationName → RelationName → Relation) (next : Nat) : List Nat → Compiled
  | [] => ⟨[⟨.node next, .nothing⟩], next, next + 1⟩
  | child :: children => combineFrom combine child next children

mutual

/-- The definitions of a plan, its nodes numbered from `next` on. -/
def compile (time : TimeQuery) (next : Nat) : Plan → Compiled
  | .leaf l => ⟨leafDefinitions time l next, next, next + 1⟩
  | .all children =>
    let (definitions, roots, next) := compileList time next children
    let combined := combineAll .both next roots
    { combined with definitions := definitions ++ combined.definitions }
  | .any children =>
    let (definitions, roots, next) := compileList time next children
    let combined := combineAll .either next roots
    { combined with definitions := definitions ++ combined.definitions }

/-- The definitions of several plans, the numbers of their nodes, and the next number to give. -/
def compileList (time : TimeQuery) (next : Nat) : List Plan → List Definition × List Nat × Nat
  | [] => ([], [], next)
  | child :: children =>
    let first := compile time next child
    let (definitions, roots, next) := compileList time first.next children
    (first.definitions ++ definitions, first.root :: roots, next)

end

/-- The relations of an interval query. -/
def definitionsOf (q : IntervalQuery) : List Definition :=
  [⟨.candidates, .candidates q.filter⟩] ++
    (match q.plan with
      | some plan =>
        let compiled := compile q.time 0 plan
        compiled.definitions ++ [⟨.intervals, .copy (.node compiled.root)⟩]
      | none => [⟨.intervals, .wholeWindow q.time.window⟩]) ++
    (match q.page with
      | some page => [⟨.ids, .ids⟩, ⟨.anchor, .anchor page.anchor⟩]
      | none => [])

end EntityHistory.Sql
