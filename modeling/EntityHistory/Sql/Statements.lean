/-
The statements of the database.

Each question to the database is one statement, or for a page of intervals up to four that share their
relations: the intervals, the anchors of the neighbouring pages, and the number of entities.
-/
import EntityHistory.Sql.Relation

namespace EntityHistory.Sql

/-- The statements of an interval query, or something for each of them. -/
structure IntervalStatements (α : Type) where
  intervals : α
  nextAnchor : Option α
  prevAnchor : Option α
  count : Option α
deriving Repr

namespace IntervalStatements

variable {α β : Type}

def map (f : α → β) (s : IntervalStatements α) : IntervalStatements β where
  intervals := f s.intervals
  nextAnchor := s.nextAnchor.map f
  prevAnchor := s.prevAnchor.map f
  count := s.count.map f

/-- The statements in the order in which they are run. -/
def toList (s : IntervalStatements α) : List α :=
  s.intervals :: (s.nextAnchor.toList ++ s.prevAnchor.toList ++ s.count.toList)

theorem toList_map (f : α → β) (s : IntervalStatements α) : (s.map f).toList = s.toList.map f := by
  simp [map, toList, Option.toList_map]

end IntervalStatements

/-- What is selected of the relations for the intervals themselves. -/
def selectIntervals (page : Option PageRequest) : Fragment :=
  match page with
  | some page =>
    text (" SELECT i.entity_id, i.start_time, i.end_time FROM intervals i JOIN ids ON ids.entity_id = " ++
        "i.entity_id CROSS JOIN anchor WHERE ids.rn >= anchor.rn AND ids.rn < anchor.rn + ") ++
      bind (.ofNat page.size) ++ text " ORDER BY i.entity_id, i.start_time"
  | none => text " SELECT entity_id, start_time, end_time FROM intervals ORDER BY entity_id, start_time"

/-- What is selected for the anchor of the next page. -/
def selectNext (size : Nat) : Fragment :=
  text " SELECT ids.entity_id FROM ids CROSS JOIN anchor WHERE ids.rn = anchor.rn + " ++
    bind (.ofNat size)

/-- What is selected for the anchor of the previous page. -/
def selectPrev (size : Nat) : Fragment :=
  text (" SELECT ids.entity_id FROM ids CROSS JOIN anchor WHERE anchor.rn > 1 AND ids.rn = " ++
      "greatest(anchor.rn - ") ++
    bind (.ofNat size) ++ text ", 1)"

/-- What is selected for the number of entities. -/
def selectCount : Fragment := text " SELECT count(*) AS total FROM ids"

/-- What is selected of the relations in each of the statements. -/
def selects (q : IntervalQuery) : IntervalStatements Fragment where
  intervals := selectIntervals q.page
  nextAnchor := q.page.map fun page => selectNext page.size
  prevAnchor := q.page.map fun page => selectPrev page.size
  count := q.page.bind fun page => if page.count then some selectCount else none

/-- Besides the intervals, selections are only made for a page. -/
theorem cases_of_mem_selects {q : IntervalQuery} {f : Fragment} (h : f ∈ (selects q).toList) :
    f = selectIntervals q.page ∨
      ∃ page, q.page = some page ∧ (f = selectNext page.size ∨ f = selectPrev page.size ∨ f = selectCount) := by
  cases hpage : q.page with
  | none => simpa [selects, IntervalStatements.toList, hpage] using h
  | some page =>
    simp only [selects, IntervalStatements.toList, hpage, Option.map_some, Option.bind_some, Option.toList_some,
      List.cons_append, List.nil_append, List.mem_cons, Option.mem_toList] at h
    rcases h with rfl | rfl | rfl | h
    · exact .inl rfl
    · exact .inr ⟨page, rfl, .inl rfl⟩
    · exact .inr ⟨page, rfl, .inr (.inl rfl)⟩
    · split at h
      · exact .inr ⟨page, rfl, .inr (.inr (Option.some.inj h).symm)⟩
      · cases h

/-- What is asked for an interval query: each selection comes after the relations. -/
def intervalFragments (q : IntervalQuery) : IntervalStatements Fragment :=
  (selects q).map (withFragment (definitionsOf q) ++ ·)

/-- The statements of an interval query. -/
def intervalStatements (q : IntervalQuery) : IntervalStatements Statement :=
  (intervalFragments q).map Fragment.render

/-- The columns that a value is spread over. -/
def valueColumns : String :=
  "value_text, value_number, value_boolean, value_datetime, value_compound, value_relationship, " ++
    "ST_AsGeoJSON(COALESCE(geo_point, geo_linestring, geo_polygon, geo_multilinestring, " ++
    "geo_multipolygon)) AS geo_json"

/-- What is asked for the attribute instances within an interval. -/
def instancesFragment (q : InstanceQuery) : Fragment :=
  let column := timeColumn "ai" q.time.property
  let direction := match q.order with
    | .ascending => "ASC"
    | .descending => "DESC"
  text ("SELECT instance_id, entity_id, attribute_id, operation_mode, " ++ valueColumns ++
      ", observed_at, ts, dataset_id, unit_code, has_sub_attributes FROM (SELECT ai.*, row_number() " ++
      "OVER (PARTITION BY ai.attribute_id ORDER BY " ++ column ++ " " ++ direction ++
      ", ai.instance_id) AS rn FROM " ++ instanceTable ++ " ai WHERE ai.entity_id = ") ++
    bind (.ofString q.interval.entityId) ++ restriction "ai.attribute_id" q.attributeIds ++
    onlyCreations q.time.property ++ text (" AND " ++ column ++ " >= ") ++
    bind (.ofInstant q.interval.start) ++ text (" AND " ++ column ++ " <= ") ++
    bind (.ofInstant q.interval.stop) ++ text " AND " ++ timeCondition column q.time ++
    text ") ranked WHERE rn <= " ++ bind (.ofNat q.limit) ++ text " ORDER BY attribute_id, rn"

/-- The statement for the attribute instances within an interval. -/
def instancesStatement (q : InstanceQuery) : Statement := (instancesFragment q).render

/-- The statement for the sub-instances of some instances. -/
def subInstancesStatement (parentIds : List String) : Statement :=
  (text ("SELECT instance_id, parent_instance_id, attribute_id, " ++ valueColumns ++
      ", observed_at, ts, dataset_id, unit_code FROM " ++ subInstanceTable ++
      " WHERE parent_instance_id IN (") ++
    Fragment.bindList (parentIds.map .ofString) ++ text ") ORDER BY ts").render

/-- The statement for the records of an entity. -/
def recordsStatement (entityId : String) : Statement :=
  (text ("SELECT entity_id, entity_type, operation_mode, ts FROM " ++ recordTable ++
      " WHERE entity_id = ") ++
    bind (.ofString entityId) ++ text " ORDER BY ts").render

/-- The statement for the creation times of an attribute. -/
def creationTimesStatement (entityId attributeId : String) : Statement :=
  (text ("SELECT ts FROM " ++ instanceTable ++ " WHERE entity_id = ") ++ bind (.ofString entityId) ++
    text " AND attribute_id = " ++ bind (.ofString attributeId) ++
    text " AND operation_mode = 'Create' ORDER BY ts").render

/-- The statement for the greatest number of attributes of some entities. -/
def mostAttributesStatement (entityIds : List String) : Statement :=
  (text ("SELECT COALESCE(max(attributes), 0) AS attributes FROM (SELECT entity_id, count(DISTINCT " ++
      "attribute_id) AS attributes FROM " ++ instanceTable ++ " WHERE entity_id IN (") ++
    Fragment.bindList (entityIds.map .ofString) ++ text ") GROUP BY entity_id) per_entity").render

end EntityHistory.Sql
