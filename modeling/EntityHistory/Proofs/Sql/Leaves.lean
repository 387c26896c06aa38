/-
The clauses of the samples and the timeline of a leaf.

The samples of a leaf are the instances of its attribute that meet some conditions. Of each entity `DISTINCT ON`
keeps the row that comes first by some columns and moves it to an edge of the window, and `UNION ALL` puts such rows
and the accepted samples together. Read back, the tests and the columns to sort by give what these relations hold.

* `Sql.addsSame_samples`, `Sql.addsSame_starts`, `Sql.addsSame_timeline`: the relations are selected from clauses;
* `Sql.rows_ofLeaf`: the samples of the instances of a table;
* `Sql.mayHold_samples_iff_clauses`: what the samples may be;
* `Sql.mayHold_starts_iff_clauses`: what the last samples from before the window may be;
* `Sql.mayHold_timeline_iff_clauses`: what the samples with those that carry on over the edges may be.
-/
import EntityHistory.Proofs.Sql.Clauses
import EntityHistory.Proofs.Sql.Instances
import EntityHistory.Proofs.Sql.Samples

namespace EntityHistory.Sql

open Fragment TimelinePoint OrderDual

/-! ### Rows of points -/

namespace Row

/-- The row of a point with a mark. -/
def ofMarked (r : TimelinePoint × Nat) : Row
  | .mark => some (.bigint r.2)
  | c => ofPoint r.1 c

/-- The point that a row is, if it has what a point needs. -/
def point? (r : Row) : Option TimelinePoint :=
  match r .entityId, r .t, r .result with
  | some (.text e), some (.timestamptz t), some (.boolean result) => some ⟨e, t, result⟩
  | _, _, _ => none

end Row

/-! ### Places -/

section Places

variable {p p' : TimelinePoint} {r r' : TimelinePoint × Nat}

/-- The latest point comes first. -/
lemma le_latest_iff :
    (⟨.ofPoint p⟩ : Placed [⟨.t, true⟩]) ≤ ⟨.ofPoint p'⟩ ↔ toDual p.time ≤ toDual p'.time := by
  have htime : (⟨.t, true⟩ : SortColumn).compare (.ofPoint p) (.ofPoint p') = compare p'.time p.time := rfl
  rw [Placed.le_iff, compareBy_cons, compareBy_nil, htime, Ordering.then_eq, toDual_le_toDual]
  exact Std.LawfulBCmp.isLE_iff_le

/-- The latest point comes first, and of points of one time that with the lesser mark. -/
lemma le_latestFirst_iff :
    (⟨.ofMarked r⟩ : Placed [⟨.t, true⟩, ⟨.mark, false⟩]) ≤ ⟨.ofMarked r'⟩ ↔ latestFirst r ≤ latestFirst r' := by
  have htime : (⟨.t, true⟩ : SortColumn).compare (.ofMarked r) (.ofMarked r') = compare r'.1.time r.1.time := rfl
  have hmark : (⟨.mark, false⟩ : SortColumn).compare (.ofMarked r) (.ofMarked r') =
    compare (r.2 : Int) (r'.2 : Int) := rfl
  rw [Placed.le_iff, compareBy_cons, compareBy_cons, compareBy_nil, htime, hmark, Ordering.then_eq,
    Ordering.isLE_then_iff_or, compare_lt_iff_lt, compare_eq_iff_eq, Std.LawfulBCmp.isLE_iff_le, Int.ofNat_le,
    latestFirst, latestFirst, Prod.Lex.toLex_le_toLex, toDual_lt_toDual, toDual_inj, eq_comm (a := r'.1.time)]

end Places

/-! ### Tests of times -/

/-- What a time query asks of a term. -/
def timeTest (a : Term) (q : TimeQuery) : RowTest :=
  let atLeast := if q.inclusive then Operator.greaterOrEqual else .greater
  let atMost := if q.inclusive then Operator.lessOrEqual else .less
  match q.bounds with
  | .before t => .compares atMost a (.parameter (.ofInstant t))
  | .after t => .compares atLeast a (.parameter (.ofInstant t))
  | .between start stop =>
    .and (.compares atLeast a (.parameter (.ofInstant start))) (.compares atMost a (.parameter (.ofInstant stop)))
  | .unbounded => .isKnown a

section TimeTests

variable {a : Term} {q : TimeQuery} {t : Instant}

lemma addsSame_timeTest {column : String} (h : a.fragment = text column) (q : TimeQuery) :
    AddsSame (timeCondition column q) (timeTest a q).fragment := by
  have hatLeast : operatorText (if q.inclusive then .greaterOrEqual else .greater) =
      if q.inclusive then " >= " else " > " := by cases q.inclusive <;> rfl
  have hatMost : operatorText (if q.inclusive then .lessOrEqual else .less) =
      if q.inclusive then " <= " else " < " := by cases q.inclusive <;> rfl
  intro s
  rw [timeTest, timeCondition]
  cases q.bounds <;>
    simp only [RowTest.fragment, Term.fragment, h, hatLeast, hatMost, continuedBy_append, continuedBy_text,
      String.append_assoc]

/-- Of a time, the test is true or false as the query accepts it. -/
lemma truth_timeTest {σ : Scope} (h : a.eval σ = some (.timestamptz t)) (q : TimeQuery) :
    (timeTest a q).truth σ = some (q.accepts t) := by
  have hatLeast (u : Instant) : comparison (if q.inclusive then .greaterOrEqual else .greater) (a.eval σ)
      ((Term.parameter (.ofInstant u)).eval σ) = some (if q.inclusive then decide (u ≤ t) else decide (u < t)) := by
    rw [h]
    refine congrArg some (Bool.eq_iff_iff.2 ((meets_atLeast q.inclusive t u).trans ?_))
    cases q.inclusive <;> simp
  have hatMost (u : Instant) : comparison (if q.inclusive then .lessOrEqual else .less) (a.eval σ)
      ((Term.parameter (.ofInstant u)).eval σ) = some (if q.inclusive then decide (t ≤ u) else decide (t < u)) := by
    rw [h]
    refine congrArg some (Bool.eq_iff_iff.2 ((meets_atMost q.inclusive t u).trans ?_))
    cases q.inclusive <;> simp
  rw [timeTest, TimeQuery.accepts]
  cases q.bounds with
  | unbounded => simp [RowTest.truth, h]
  | before bound => simp [RowTest.truth, hatMost]
  | after bound => simp [RowTest.truth, hatLeast]
  | between start stop =>
    simp only [RowTest.truth, hatLeast, hatMost, Truth.some_and_some]
    cases q.inclusive <;> simp

end TimeTests

/-! ### Samples -/

/-- A select of samples: the instances of an attribute of the candidates that meet some conditions. -/
structure SampleSelect where
  attributeId : String
  column : Column
  conditions : List RowCondition

namespace SampleSelect

/-- The instance is of the candidate. -/
def ofCandidate : RowTest := .compares .equal (.column "c" .entityId) (.column "ai" .entityId)

def isDeletion : RowTest := .compares .equal (.column "ai" .operationMode) (.word OperationMode.delete.name)

def ofAttribute (s : SampleSelect) : RowTest :=
  .compares .equal (.column "ai" .attributeId) (.parameter (.ofString s.attributeId))

/-- The written form of a select. Whether a condition holds of an instance is its result. -/
def fragment (condition : Fragment) (s : SampleSelect) : Fragment :=
  text "SELECT ai.entity_id, " ++ (Expression.column s.column).fragment .instances ++ text " AS t, CASE WHEN " ++
    isDeletion.fragment ++ text " THEN false ELSE COALESCE((" ++ condition ++
    text ("), false) END AS result FROM " ++ instanceTable ++ " ai JOIN candidates c ON ") ++
    ofCandidate.fragment ++ text " WHERE " ++ s.ofAttribute.fragment ++ further s.conditions

/-- The instances that are selected. -/
def selects (instances : List AttributeInstance) (s : SampleSelect) (i : AttributeInstance) : Bool :=
  s.ofAttribute.selects (Scope.empty.add "ai" (.ofInstance i)) &&
    s.conditions.all fun condition => condition.truth instances i = some true

/-- The sample of an instance in which a condition has some truth, if the instance has a time. -/
def sample? (instances : List AttributeInstance) (truth : Truth) (s : SampleSelect) (i : AttributeInstance) :
    Option TimelinePoint :=
  match (RowData.ofInstance instances i).column s.column with
  | some (.timestamptz t) =>
    let deleted := isDeletion.selects (Scope.empty.add "ai" (.ofInstance i))
    some ⟨i.entityId, t, if deleted then false else truth.getD false⟩
  | _ => none

/-- The samples of a table for some candidates, when the truth of the condition is known of each instance. -/
def rows (instances : List AttributeInstance) (candidates : List String) (truth : AttributeInstance → Truth)
    (s : SampleSelect) : List TimelinePoint :=
  (instances.filter (s.selects instances)).flatMap fun i =>
    (candidates.filter fun e =>
      ofCandidate.selects ((Scope.empty.add "ai" (.ofInstance i)).add "c" (.ofEntity e))).filterMap fun _ =>
        s.sample? instances (truth i) i

/-- The select for the samples of a leaf. -/
def ofLeaf (q : TimeQuery) (leaf : PlanLeaf) : SampleSelect where
  attributeId := leaf.attributeId
  column := columnOf q.property
  conditions := (if q.property = .createdAt then [.isCreation] else []) ++
    if q.carriesState then [.isKnown (columnOf q.property)] else timeConditions (columnOf q.property) q

end SampleSelect

/-- The samples of a leaf are selected from their clauses. -/
theorem addsSame_samples (q : TimeQuery) (leaf : PlanLeaf) :
    AddsSame (Relation.samples q leaf).fragment ((SampleSelect.ofLeaf q leaf).fragment (leafCondition leaf)) := by
  have hconditions : AddsSame (onlyCreations q.property ++ (text " AND " ++
      (if q.carriesState then text ("ai" ++ (columnOf q.property).name ++ " IS NOT NULL")
        else timeCondition ("ai" ++ (columnOf q.property).name) q)))
      (further (SampleSelect.ofLeaf q leaf).conditions) := by
    rw [SampleSelect.ofLeaf, further_append]
    refine (addsSame_further_isCreation _).append ?_
    cases q.carriesState with
    | true =>
      intro s
      simp only [reduceIte, further_cons, further_nil, RowCondition.fragment, Expression.fragment, RowTable.alias,
        List.append_nil, continuedBy_append, continuedBy_text, String.append_assoc]
    | false => exact addsSame_further_timeConditions _ _
  have hcase : " AS t, CASE WHEN ai.operation_mode = 'Delete' THEN false ELSE COALESCE((" =
      " AS t, CASE WHEN " ++ "ai" ++ "." ++ "operation_mode" ++ " = " ++ "'" ++ "Delete" ++ "'" ++
        " THEN false ELSE COALESCE((" := rfl
  have hjoin : " ai JOIN candidates c ON c.entity_id = ai.entity_id WHERE ai.attribute_id = " =
      " ai JOIN candidates c ON " ++ "c" ++ "." ++ "entity_id" ++ " = " ++ "ai" ++ "." ++ "entity_id" ++
        " WHERE " ++ "ai" ++ "." ++ "attribute_id" ++ " = " := rfl
  intro s
  simp only [Relation.fragment, timeColumn_eq, SampleSelect.fragment, SampleSelect.isDeletion,
    SampleSelect.ofCandidate, SampleSelect.ofAttribute, RowTest.fragment, Term.fragment, ColumnName.text,
    OperationMode.name, operatorText, Expression.fragment, RowTable.alias, hcase, hjoin]
  rw [List.append_assoc, List.append_assoc]
  simp only [continuedBy_append, ← hconditions _, continuedBy_text, String.append_assoc]
  rfl

/-- The samples of the instances of a table, when the truth of a condition is known of each instance. -/
def samplesIn (instances : List AttributeInstance) (candidates : List String) (truth : AttributeInstance → Truth)
    (property : TimeProperty) (attributeId : String) : List TimelinePoint :=
  (instances.filter fun i => i.attributeId = attributeId && candidates.contains i.entityId).filterMap fun i =>
    (i.time? property).map fun t => ⟨i.entityId, t, sampleValue i.mode (truth i)⟩

section Samples

variable (instances : List AttributeInstance) {candidates : List String} {truth : AttributeInstance → Truth}
  {i : AttributeInstance}

/-- What the column of a time property has of an instance. -/
lemma exists_column (i : AttributeInstance) (property : TimeProperty) :
    ∃ time : Option Instant, (RowData.ofInstance instances i).column (columnOf property) = time.map .timestamptz ∧
      ∀ t : Instant, FirstRows.timeIn (columnOf property) i = t ↔ time = some t := by
  cases property with
  | observedAt =>
    refine ⟨i.observedAt, rfl, fun t => ?_⟩
    cases h : i.observedAt <;> simp [FirstRows.timeIn, columnOf, RowData.column, RowData.ofInstance, h]
  | createdAt | modifiedAt =>
    refine ⟨some i.writtenAt, rfl, fun t => ?_⟩
    simp [FirstRows.timeIn, columnOf, RowData.column, RowData.ofInstance]

lemma conditions_ofLeaf (i : AttributeInstance) (q : TimeQuery) (leaf : PlanLeaf) :
    ((SampleSelect.ofLeaf q leaf).conditions.all fun condition => condition.truth instances i = some true) = true ↔
      (q.property = .createdAt → i.mode = .create) ∧
        ∃ t : Instant, FirstRows.timeIn (columnOf q.property) i = t ∧ (q.carriesState || q.accepts t) = true := by
  simp only [SampleSelect.ofLeaf, List.all_append, Bool.and_eq_true, List.all_eq_true, decide_eq_true_eq,
    truth_isCreation]
  refine and_congr_right fun _ => ?_
  cases q.carriesState with
  | true => simp [truth_isKnown]
  | false => simpa using truth_timeConditions q

lemma selects_ofLeaf (q : TimeQuery) (leaf : PlanLeaf) : (SampleSelect.ofLeaf q leaf).selects instances i =
    (decide (i.attributeId = leaf.attributeId) &&
      (SampleSelect.ofLeaf q leaf).conditions.all fun condition => condition.truth instances i = some true) := by
  have hattribute : (SampleSelect.ofLeaf q leaf).ofAttribute.selects (Scope.empty.add "ai" (.ofInstance i)) =
      decide (i.attributeId = leaf.attributeId) := by
    simp [SampleSelect.ofAttribute, SampleSelect.ofLeaf, RowTest.selects, RowTest.truth, Term.eval, Row.ofInstance,
      Datum.ofValue?, Value.ofString, comparison_equal_text]
  rw [SampleSelect.selects, hattribute]

lemma selects_isDeletion :
    SampleSelect.isDeletion.selects (Scope.empty.add "ai" (.ofInstance i)) = decide (i.mode = .delete) := by
  simp [SampleSelect.isDeletion, RowTest.selects, RowTest.truth, Term.eval, Row.ofInstance, comparison_equal_text,
    OperationMode.name_inj]

/-- The sample of an instance has the time in the column. -/
lemma sample?_eq_map {time : Option Instant} {s : SampleSelect}
    (h : (RowData.ofInstance instances i).column s.column = time.map .timestamptz) (condition : Truth) :
    s.sample? instances condition i = time.map fun t => ⟨i.entityId, t, sampleValue i.mode condition⟩ := by
  rw [SampleSelect.sample?, h, selects_isDeletion]
  cases time <;> simp [sampleValue]

/-- The instances that are selected have the samples that are asked for, and the others have none of them. -/
lemma sample?_ofLeaf (q : TimeQuery) (leaf : PlanLeaf) (hattribute : i.attributeId = leaf.attributeId) :
    (if (SampleSelect.ofLeaf q leaf).selects instances i then
        (SampleSelect.ofLeaf q leaf).sample? instances (truth i) i else none) =
      ((i.time? q.property).map fun t =>
        (⟨i.entityId, t, sampleValue i.mode (truth i)⟩ : TimelinePoint)).filter (isSampled q) := by
  obtain ⟨time, hcolumn, htime⟩ := exists_column instances i q.property
  have htime? (t : Instant) : i.time? q.property = some t ↔
      time = some t ∧ (q.property = .createdAt → i.mode = .create) := by rw [time?_eq_some_iff, htime]
  have hconditions := conditions_ofLeaf instances i q leaf
  simp only [selects_ofLeaf, hattribute, decide_true, Bool.true_and, hconditions, htime,
    sample?_eq_map instances (s := SampleSelect.ofLeaf q leaf) hcolumn]
  cases time with
  | none =>
    have hnone : i.time? q.property = none :=
      Option.eq_none_iff_forall_ne_some.2 fun t ht => by simpa using (htime? t).1 ht
    simp [hnone]
  | some t =>
    by_cases hmode : q.property = .createdAt → i.mode = .create
    · have hsome : i.time? q.property = some t := (htime? t).2 ⟨rfl, hmode⟩
      simp [hsome, and_iff_right hmode, isSampled, Option.filter]
    · have hnone : i.time? q.property = none :=
        Option.eq_none_iff_forall_ne_some.2 fun t ht => hmode ((htime? t).1 ht).2
      simp [hnone, hmode]

end Samples

/-- The samples of a leaf, read back from their clauses. -/
theorem rows_ofLeaf (instances : List AttributeInstance) {candidates : List String} (hnodup : candidates.Nodup)
    (truth : AttributeInstance → Truth) (q : TimeQuery) (leaf : PlanLeaf) :
    (SampleSelect.ofLeaf q leaf).rows instances candidates truth =
      (samplesIn instances candidates truth q.property leaf.attributeId).filter (isSampled q) := by
  have hcandidate (i : AttributeInstance) (e : String) : SampleSelect.ofCandidate.selects
      ((Scope.empty.add "ai" (.ofInstance i)).add "c" (.ofEntity e)) = decide (e = i.entityId) := by
    simp [SampleSelect.ofCandidate, RowTest.selects, RowTest.truth, Term.eval, Row.ofInstance, Row.ofEntity,
      comparison_equal_text]
  -- the join keeps an instance once if its entity is a candidate
  have hjoin (i : AttributeInstance) (sample : Option TimelinePoint) :
      (candidates.filter fun e => decide (e = i.entityId)).filterMap (fun _ => sample) =
        (if candidates.contains i.entityId then sample else none).toList := by
    rw [List.filter_eq, hnodup.count]
    simp only [List.contains_iff_mem]
    split <;> cases sample <;> rfl
  rw [samplesIn, List.filter_filterMap, List.filterMap_filter, SampleSelect.rows]
  simp only [hcandidate, hjoin]
  rw [← List.filterMap_eq_flatMap_toList, List.filterMap_filter]
  refine List.filterMap_congr fun i _ => ?_
  by_cases hattribute : i.attributeId = leaf.attributeId
  · rw [← sample?_ofLeaf instances q leaf hattribute]
    cases hcontains : candidates.contains i.entityId <;> simp [hattribute]
  · simp [selects_ofLeaf, hattribute]

/-- What the samples of a leaf may be, read back from their clauses. -/
theorem mayHold_samples_iff_clauses {samplesOf : PlanLeaf → List TimelinePoint} {tables : RelationName → LeafTable}
    {instances : List AttributeInstance} {candidates : List String} {truth : AttributeInstance → Truth}
    {q : TimeQuery} {leaf : PlanLeaf} {table : LeafTable} (hnodup : candidates.Nodup)
    (hsamples : samplesOf leaf = samplesIn instances candidates truth q.property leaf.attributeId) :
    (Relation.samples q leaf).MayHold samplesOf tables table ↔
      ∃ out, out.Perm ((SampleSelect.ofLeaf q leaf).rows instances candidates truth) ∧ table = .points out := by
  rw [mayHold_samples_iff, hsamples, rows_ofLeaf instances hnodup]

/-! ### First rows -/

/-- A select that keeps of each entity the row that comes first, and moves it to a time. -/
structure FirstOfEntity where
  row : String
  test : Option RowTest
  order : List SortColumn
  time : Instant

namespace FirstOfEntity

def outputs (s : FirstOfEntity) : List Output :=
  [.kept s.row .entityId, .computed (.instant s.time) .t, .kept s.row .result]

/-- The written form of a select from a source. -/
def fragment (source : Fragment) (s : FirstOfEntity) : Fragment :=
  text ("SELECT DISTINCT ON (" ++ s.row ++ ".entity_id) ") ++ Output.listFragment s.outputs ++ text " FROM " ++
    source ++ text (" " ++ s.row) ++ (s.test.elim [] fun test => text " WHERE " ++ test.fragment) ++
    text " ORDER BY " ++
    Fragment.separated ", " ((Term.column s.row .entityId).fragment :: s.order.map (·.fragment (.column s.row)))

/-- The rows that are looked at. -/
def selects (s : FirstOfEntity) (r : Row) : Bool :=
  s.test.all fun test => test.selects (Scope.empty.add s.row r)

/-- What a select may give of the rows of a source. -/
def MayGive {α : Type} (s : FirstOfEntity) (rowOf : α → Row) (rows : List α) (out : List TimelinePoint) : Prop :=
  ∃ chosen, IsDistinctOn (fun a => rowOf a .entityId) (fun a => (⟨rowOf a⟩ : Placed s.order))
      (rows.filter fun a => s.selects (rowOf a)) chosen ∧
    out = chosen.filterMap fun a => (Output.row (Scope.empty.add s.row (rowOf a)) s.outputs).point?

variable {α ω : Type} [LE ω] {s : FirstOfEntity} {rowOf : α → Row} {point : α → TimelinePoint} {order : α → ω}
  {P : α → Bool} {rows : List α} {out : List TimelinePoint}

lemma point?_outputs {r : Row} {p : TimelinePoint} (hentity : r .entityId = some (.text p.entityId))
    (hresult : r .result = some (.boolean p.result)) :
    (Output.row (Scope.empty.add s.row r) s.outputs).point? = some (moved s.time p) := by
  simp [Row.point?, Output.row, outputs, Output.name, Output.term, Term.eval, hentity, hresult, moved]

/-- The rows that are kept, where columns and order of the rows are known. -/
lemma mayGive_iff (hentity : ∀ a, rowOf a .entityId = some (.text (point a).entityId))
    (hresult : ∀ a, rowOf a .result = some (.boolean (point a).result))
    (hselects : ∀ a, s.selects (rowOf a) = P a)
    (horder : ∀ a b, (⟨rowOf a⟩ : Placed s.order) ≤ ⟨rowOf b⟩ ↔ order a ≤ order b) :
    s.MayGive rowOf rows out ↔ ∃ chosen, IsDistinctOn (fun a => (point a).entityId) order (rows.filter P) chosen ∧
      out = chosen.map fun a => moved s.time (point a) := by
  have hkey : ∀ a b, rowOf a .entityId = rowOf b .entityId ↔ (point a).entityId = (point b).entityId := by
    simp [hentity]
  simp only [MayGive, hselects, point?_outputs (hentity _) (hresult _), List.filterMap_eq_map']
  refine exists_congr fun chosen => and_congr_left' ⟨fun h => h.congr hkey horder, fun h => ?_⟩
  exact h.congr (fun a b => (hkey a b).symm) fun a b => (horder a b).symm

/-- The last samples that are not accepted and not later than the start of the window, moved to it. -/
def starts (q : TimeQuery) : FirstOfEntity where
  row := "r"
  test := some (.and (.compares .lessOrEqual (.column "r" .t) (.instant q.window.start))
    (.not (timeTest (.column "r" .t) q)))
  order := [⟨.t, true⟩]
  time := q.window.start

/-- The last samples of a window, moved to its end. -/
def ends (q : TimeQuery) : FirstOfEntity where
  row := "w"
  test := none
  order := [⟨.t, true⟩, ⟨.mark, false⟩]
  time := q.window.stop

lemma selects_starts (q : TimeQuery) (p : TimelinePoint) : (starts q).selects (.ofPoint p) = isEarlier q p := by
  have htime : (Term.column "r" .t).eval (Scope.empty.add "r" (.ofPoint p)) = some (.timestamptz p.time) := by
    rw [Term.eval, Scope.add_self]
    rfl
  rw [selects, starts, Option.all_some, RowTest.selects_and, isEarlier]
  simp only [RowTest.selects, RowTest.truth, htime, truth_timeTest htime]
  simp [Term.eval, comparison_timestamptz, meets_lessOrEqual, Truth.not]

end FirstOfEntity

/-- The last samples from before the window are selected from their clauses. -/
theorem addsSame_starts (q : TimeQuery) (points : RelationName) :
    AddsSame (Relation.starts q points).fragment ((FirstOfEntity.starts q).fragment (text points.text)) := by
  have hhead : "SELECT DISTINCT ON (r.entity_id) r.entity_id, " =
      "SELECT DISTINCT ON (" ++ "r" ++ ".entity_id) " ++ "r" ++ "." ++ "entity_id" ++ ", " := rfl
  have hfrom : "::timestamptz AS t, r.result FROM " =
      "::timestamptz" ++ " AS " ++ "t" ++ ", " ++ "r" ++ "." ++ "result" ++ " FROM " := rfl
  have hwhere : " r WHERE r.t <= " = " " ++ "r" ++ " WHERE " ++ "r" ++ "." ++ "t" ++ " <= " := rfl
  have hnot : "::timestamptz AND NOT (" = "::timestamptz" ++ " AND " ++ "NOT (" := rfl
  have horder : ") ORDER BY r.entity_id, r.t DESC" =
      ")" ++ " ORDER BY " ++ "r" ++ "." ++ "entity_id" ++ ", " ++ "r" ++ "." ++ "t" ++ " DESC" := rfl
  have htime : AddsSame (timeCondition "r.t" q) (timeTest (.column "r" .t) q).fragment := addsSame_timeTest rfl q
  intro s
  simp only [Relation.fragment, FirstOfEntity.fragment, FirstOfEntity.starts, FirstOfEntity.outputs,
    Output.listFragment, Output.fragment, SortColumn.fragment, RowTest.fragment, Term.fragment, ColumnName.text,
    operatorText, List.map_cons, List.map_nil, Fragment.separated, Option.elim, if_true, continuedBy_append,
    htime _]
  rw [hhead, hfrom, hwhere, hnot, horder]
  simp only [continuedBy_text, String.append_assoc]

/-- What the last samples from before the window may be, read back from their clauses. -/
theorem mayHold_starts_iff_clauses {samplesOf : PlanLeaf → List TimelinePoint} {tables : RelationName → LeafTable}
    {q : TimeQuery} {points : RelationName} {rows : List TimelinePoint} {table : LeafTable}
    (hrows : tables points = .points rows) :
    (Relation.starts q points).MayHold samplesOf tables table ↔
      ∃ out, (FirstOfEntity.starts q).MayGive Row.ofPoint rows out ∧ table = .points out := by
  have hgive (out : List TimelinePoint) : (FirstOfEntity.starts q).MayGive Row.ofPoint rows out ↔ _ :=
    FirstOfEntity.mayGive_iff (fun _ => rfl) (fun _ => rfl) (FirstOfEntity.selects_starts q)
      fun _ _ => le_latest_iff
  simp only [hgive, mayHold_starts_iff hrows]
  constructor
  · rintro ⟨chosen, hchosen, rfl⟩
    exact ⟨_, ⟨chosen, hchosen, rfl⟩, rfl⟩
  · rintro ⟨_, ⟨chosen, hchosen, rfl⟩, rfl⟩
    exact ⟨chosen, hchosen, rfl⟩

/-! ### Marked points -/

/-- A select of points that marks them with a number. -/
structure MarkedSelect where
  source : RelationName
  test : Option RowTest
  mark : Nat

namespace MarkedSelect

/-- The written form of a select. -/
def fragment (s : MarkedSelect) : Fragment :=
  text ("SELECT entity_id, t, result, " ++ toString s.mark ++ " AS o FROM " ++ s.source.text) ++
    s.test.elim [] fun test => text " WHERE " ++ test.fragment

/-- The points that are selected, with their mark. -/
def rows (tables : RelationName → List TimelinePoint) (s : MarkedSelect) : List (TimelinePoint × Nat) :=
  ((tables s.source).filter fun p => s.test.all fun test => test.selects (Scope.empty.add "" (.ofPoint p))).map
    fun p => (p, s.mark)

/-- The accepted samples, and the starts with a greater mark. -/
def window (q : TimeQuery) (points first : RelationName) : List MarkedSelect :=
  [⟨points, some (timeTest (.own .t) q), 0⟩, ⟨first, none, 1⟩]

/-- The written form of several selects together. -/
def unionFragment (selects : List MarkedSelect) : Fragment :=
  text "(" ++ Fragment.separated " UNION ALL " (selects.map fragment) ++ text ")"

end MarkedSelect

/-- The points of a table. -/
def LeafTable.rows : LeafTable → List TimelinePoint
  | .points rows => rows
  | .intervals _ => []

lemma addsSame_windowRows (q : TimeQuery) (points first : RelationName) : AddsSame (windowRows q points first)
    (MarkedSelect.unionFragment (MarkedSelect.window q points first) ++ text " w") := by
  have hfirst : "(SELECT entity_id, t, result, 0 AS o FROM " =
      "(" ++ "SELECT entity_id, t, result, " ++ toString 0 ++ " AS o FROM " := rfl
  have hsecond : " UNION ALL SELECT entity_id, t, result, 1 AS o FROM " =
      " UNION ALL " ++ "SELECT entity_id, t, result, " ++ toString 1 ++ " AS o FROM " := rfl
  have hend : ") w" = ")" ++ " w" := rfl
  have htime : AddsSame (timeCondition "t" q) (timeTest (.own .t) q).fragment := addsSame_timeTest rfl q
  intro s
  simp only [windowRows, MarkedSelect.unionFragment, MarkedSelect.window, MarkedSelect.fragment, List.map_cons,
    List.map_nil, List.append_nil, Fragment.separated, Option.elim, continuedBy_append, htime _]
  rw [hfirst, hsecond, hend]
  simp only [continuedBy_text, String.append_assoc]

/-- The timeline of a leaf is selected from its clauses. -/
theorem addsSame_timeline (q : TimeQuery) (points first : RelationName) :
    AddsSame (Relation.timeline q points first).fragment
      (text "SELECT entity_id, t, result FROM " ++
        MarkedSelect.unionFragment (MarkedSelect.window q points first) ++ text " w UNION ALL (" ++
        (FirstOfEntity.ends q).fragment (MarkedSelect.unionFragment (MarkedSelect.window q points first)) ++
        text ")") := by
  have hhead : " UNION ALL (SELECT DISTINCT ON (w.entity_id) w.entity_id, " =
      " UNION ALL (" ++ "SELECT DISTINCT ON (" ++ "w" ++ ".entity_id) " ++ "w" ++ "." ++ "entity_id" ++ ", " := rfl
  have hfrom : "::timestamptz AS t, w.result FROM " =
      "::timestamptz" ++ " AS " ++ "t" ++ ", " ++ "w" ++ "." ++ "result" ++ " FROM " := rfl
  have horder : " ORDER BY w.entity_id, w.t DESC, w.o)" = " ORDER BY " ++ "w" ++ "." ++ "entity_id" ++ ", " ++
      "w" ++ "." ++ "t" ++ " DESC" ++ ", " ++ "w" ++ "." ++ "o" ++ ")" := rfl
  have hw : " w UNION ALL (" = " " ++ "w" ++ " UNION ALL (" := rfl
  have hw' : " w" = " " ++ "w" := rfl
  intro s
  simp only [Relation.fragment, FirstOfEntity.fragment, FirstOfEntity.ends, FirstOfEntity.outputs,
    Output.listFragment, Output.fragment, SortColumn.fragment, Term.fragment, ColumnName.text, List.map_cons,
    List.map_nil, List.append_nil, Fragment.separated, Option.elim, reduceIte, Bool.false_eq_true,
    continuedBy_append, addsSame_windowRows _ _ _ _]
  rw [hhead, hfrom, horder, hw, hw']
  simp only [continuedBy_text, String.append_assoc]

/-- The marked points, read back from their clauses. -/
lemma rows_window (q : TimeQuery) (points first : RelationName) (tables : RelationName → List TimelinePoint) :
    (MarkedSelect.window q points first).flatMap (MarkedSelect.rows tables) =
      marked q (tables points) (tables first) := by
  have htest (p : TimelinePoint) :
      (timeTest (.own .t) q).selects (Scope.empty.add "" (.ofPoint p)) = q.accepts p.time := by
    have htime : (Term.own .t).eval (Scope.empty.add "" (.ofPoint p)) = some (.timestamptz p.time) := by
      rw [Term.eval, Scope.add_self]
      rfl
    simp [RowTest.selects, truth_timeTest htime]
  simp [MarkedSelect.window, MarkedSelect.rows, marked, htest]

/-- What the timeline of a leaf may be, read back from its clauses. -/
theorem mayHold_timeline_iff_clauses {samplesOf : PlanLeaf → List TimelinePoint}
    {tables : RelationName → LeafTable} {q : TimeQuery} {points first : RelationName}
    {rows firstRows : List TimelinePoint} {table : LeafTable} (hrows : tables points = .points rows)
    (hfirst : tables first = .points firstRows) :
    (Relation.timeline q points first).MayHold samplesOf tables table ↔
      let window := (MarkedSelect.window q points first).flatMap (MarkedSelect.rows fun name => (tables name).rows)
      ∃ last out, (FirstOfEntity.ends q).MayGive Row.ofMarked window last ∧
        out.Perm (window.map (·.1) ++ last) ∧ table = .points out := by
  have hgive (out : List TimelinePoint) :
      (FirstOfEntity.ends q).MayGive Row.ofMarked (marked q rows firstRows) out ↔ _ :=
    FirstOfEntity.mayGive_iff (P := fun _ => true) (fun _ => rfl) (fun _ => rfl) (fun _ => rfl)
      fun _ _ => le_latestFirst_iff
  simp only [rows_window, hrows, hfirst, LeafTable.rows, hgive, List.filter_true, mayHold_timeline_iff hrows hfirst]
  constructor
  · rintro ⟨chosen, out, hchosen, hout, rfl⟩
    exact ⟨_, out, ⟨chosen, hchosen, rfl⟩, hout, rfl⟩
  · rintro ⟨_, out, ⟨chosen, hchosen, rfl⟩, hout, rfl⟩
    exact ⟨chosen, out, hchosen, hout, rfl⟩

end EntityHistory.Sql
