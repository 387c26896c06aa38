/-
The clauses of the relations of intervals.

An inner node of a plan is written as a join of two relations on the test that their rows overlap, and a disjunction
also gives the rows of either side for which there is no row of the other one with this test. Read back, the clauses
make of the rows of two relations what the tables of the inner nodes are.

* `Sql.selects_overlapping`: what the written test of two rows says;
* `Sql.addsSame_intervalSelect`: relations of intervals are written from their clauses;
* `Sql.rows_intervalSelect`: the clauses give the tables of these relations.
-/
import EntityHistory.Proofs.Sql.Clauses
import EntityHistory.Proofs.Sql.Tables

namespace EntityHistory.Sql

open Fragment EntityInterval

/-! ### Selects of intervals -/

/-- The interval that a row is, if it has what an interval needs. -/
def Row.interval? (r : Row) : Option EntityInterval :=
  match r .entityId, r .startTime, r .endTime with
  | some (.text e), some (.timestamptz start), some (.timestamptz stop) => some ⟨e, start, stop⟩
  | _, _, _ => none

/-- What a relation of intervals is selected by. -/
inductive IntervalSelect where
  /-- A row for each two rows of two relations on which a test is true. -/
  | join (outputs : List Output) (left right : RelationName) (test : RowTest)
  /-- A row for each row of a relation for which there is none of another one on which a test is true. -/
  | without (outputs : List Output) (own other : String) (rows others : RelationName) (test : RowTest)
  /-- The rows of two selects, each once. -/
  | union (s s' : IntervalSelect)
  /-- Some columns of all rows. -/
  | columns (names : List ColumnName) (source : RelationName)
  | nothing (source : RelationName)

namespace IntervalSelect

/-- The written form of a select. -/
def fragment : IntervalSelect → Fragment
  | .join outputs left right test =>
    text "SELECT " ++ Output.listFragment outputs ++
      text (" FROM " ++ left.text ++ " a JOIN " ++ right.text ++ " b ON ") ++ test.fragment
  | .without outputs own other rows others test =>
    text "SELECT " ++ Output.listFragment outputs ++
      text (" FROM " ++ rows.text ++ " " ++ own ++ " WHERE NOT EXISTS (SELECT 1 FROM " ++ others.text ++ " " ++
        other ++ " WHERE ") ++ test.fragment ++ text ")"
  | .union s s' => s.fragment ++ text " UNION " ++ s'.fragment
  | .columns names source =>
    text ("SELECT " ++ ", ".intercalate (names.map ColumnName.text) ++ " FROM " ++ source.text)
  | .nothing source =>
    text ("SELECT entity_id, now() AS start_time, now() AS end_time FROM " ++ source.text ++ " WHERE false")

/-- The rows of a select when those of other relations are known. -/
def rows (tables : RelationName → List EntityInterval) : IntervalSelect → List EntityInterval
  | .join outputs left right test =>
    let scope (a b : EntityInterval) := (Scope.empty.add "a" (.ofInterval a)).add "b" (.ofInterval b)
    (tables left).flatMap fun a => ((tables right).filter fun b => test.selects (scope a b)).filterMap fun b =>
      (Output.row (scope a b) outputs).interval?
  | .without outputs own other rows others test =>
    let scope (a : EntityInterval) := Scope.empty.add own (.ofInterval a)
    ((tables rows).filter fun a => !(tables others).any fun b =>
      test.selects ((scope a).add other (.ofInterval b))).filterMap fun a =>
        (Output.row (scope a) outputs).interval?
  | .union s s' => (s.rows tables ++ s'.rows tables).dedup
  | .columns names source => (tables source).filterMap fun i =>
      Row.interval? fun c => if c ∈ names then Row.ofInterval i c else none
  | .nothing _ => []

end IntervalSelect

/-! ### The relations of inner nodes -/

/-- The columns of an interval. -/
def intervalColumns : List ColumnName := [.entityId, .startTime, .endTime]

/-- The rows `a` and `b` are of one entity and overlap. -/
def overlapping : RowTest :=
  .and (.compares .equal (.column "a" .entityId) (.column "b" .entityId))
    (.and (.compares .lessOrEqual (.column "a" .startTime) (.column "b" .endTime))
      (.compares .lessOrEqual (.column "b" .startTime) (.column "a" .endTime)))

/-- The common part of two rows. -/
def commonPart : List Output :=
  [.kept "a" .entityId, .computed (.greatest (.column "a" .startTime) (.column "b" .startTime)) .startTime,
    .computed (.least (.column "a" .endTime) (.column "b" .endTime)) .endTime]

/-- The hull of two rows. -/
def commonHull : List Output :=
  [.kept "a" .entityId, .computed (.least (.column "a" .startTime) (.column "b" .startTime)) .startTime,
    .computed (.greatest (.column "a" .endTime) (.column "b" .endTime)) .endTime]

/-- What the relations of inner nodes, and the one that takes the root over, are selected by. -/
def Relation.intervalSelect? : Relation → Option IntervalSelect
  | .both left right => some (.join commonPart left right overlapping)
  | .either left right =>
    some (.union (.join commonHull left right overlapping)
      (.union (.without (intervalColumns.map (.kept "a")) "a" "b" left right overlapping)
        (.without (intervalColumns.map (.kept "b")) "b" "a" right left overlapping)))
  | .nothing => some (.nothing .candidates)
  | .copy root => some (.columns intervalColumns root)
  | _ => none

/-! ### What is written -/

lemma addsSame_overlap : AddsSame (text overlap) overlapping.fragment := by
  have htext : overlap = "a" ++ "." ++ "entity_id" ++ " = " ++ "b" ++ "." ++ "entity_id" ++ " AND " ++
      "a" ++ "." ++ "start_time" ++ " <= " ++ "b" ++ "." ++ "end_time" ++ " AND " ++
      "b" ++ "." ++ "start_time" ++ " <= " ++ "a" ++ "." ++ "end_time" := rfl
  intro s
  rw [htext]
  simp only [overlapping, RowTest.fragment, Term.fragment, ColumnName.text, operatorText, continuedBy_append,
    continuedBy_text, String.append_assoc]

/-- A join on overlapping rows, with the columns that it gives as a fixed text. -/
lemma addsSame_join {columns : String} {outputs : List Output}
    (h : AddsSame (text columns) (Output.listFragment outputs)) (left right : RelationName) :
    AddsSame
      (text ("SELECT " ++ columns ++ " FROM " ++ left.text ++ " a JOIN " ++ right.text ++ " b ON " ++ overlap))
      (IntervalSelect.join outputs left right overlapping).fragment := by
  intro s
  simp only [IntervalSelect.fragment, continuedBy_append, ← h _, ← addsSame_overlap _, continuedBy_text,
    String.append_assoc]

/-- The rows without overlapping ones, with the columns that are given as a fixed text. -/
lemma addsSame_without {columns : String} {outputs : List Output}
    (h : AddsSame (text columns) (Output.listFragment outputs)) (own other : String)
    (rows others : RelationName) :
    AddsSame (text ("SELECT " ++ columns ++ " FROM " ++ rows.text ++ " " ++ own ++
        " WHERE NOT EXISTS (SELECT 1 FROM " ++ others.text ++ " " ++ other ++ " WHERE " ++ overlap ++ ")"))
      (IntervalSelect.without outputs own other rows others overlapping).fragment := by
  intro s
  simp only [IntervalSelect.fragment, continuedBy_append, ← h _, ← addsSame_overlap _, continuedBy_text,
    String.append_assoc]

lemma addsSame_union {t t' : String} {s s' : IntervalSelect} (h : AddsSame (text t) s.fragment)
    (h' : AddsSame (text t') s'.fragment) : AddsSame (text (t ++ " UNION " ++ t')) (s.union s').fragment := by
  intro statement
  simp only [IntervalSelect.fragment, continuedBy_append, ← h _, ← h' _, continuedBy_text, String.append_assoc]

lemma addsSame_commonPart : AddsSame
    (text ("a.entity_id, greatest(a.start_time, b.start_time) AS start_time, " ++
      "least(a.end_time, b.end_time) AS end_time"))
    (Output.listFragment commonPart) := fun _ => rfl

lemma addsSame_commonHull : AddsSame
    (text ("a.entity_id, least(a.start_time, b.start_time) AS start_time, " ++
      "greatest(a.end_time, b.end_time) AS end_time"))
    (Output.listFragment commonHull) := fun _ => rfl

lemma addsSame_kept (name : String) : AddsSame
    (text (name ++ ".entity_id, " ++ name ++ ".start_time, " ++ name ++ ".end_time"))
    (Output.listFragment (intervalColumns.map (.kept name))) := by
  have hentity : ".entity_id, " = "." ++ "entity_id" ++ ", " := rfl
  have hstart : ".start_time, " = "." ++ "start_time" ++ ", " := rfl
  have hstop : ".end_time" = "." ++ "end_time" := rfl
  intro s
  simp only [Output.listFragment, intervalColumns, List.map_cons, List.map_nil, Fragment.separated,
    Output.fragment, Term.fragment, ColumnName.text, hentity, hstart, hstop, continuedBy_append,
    continuedBy_text, String.append_assoc]

lemma addsSame_both (left right : RelationName) : AddsSame (Relation.both left right).fragment
    (IntervalSelect.join commonPart left right overlapping).fragment := by
  have hcolumns : "SELECT a.entity_id, greatest(a.start_time, b.start_time) AS start_time, " ++
        "least(a.end_time, b.end_time) AS end_time FROM " =
      "SELECT " ++ ("a.entity_id, greatest(a.start_time, b.start_time) AS start_time, " ++
        "least(a.end_time, b.end_time) AS end_time") ++ " FROM " := rfl
  simp only [Relation.fragment]
  rw [hcolumns]
  exact addsSame_join addsSame_commonPart left right

lemma addsSame_either (left right : RelationName) : AddsSame (Relation.either left right).fragment
    ((IntervalSelect.join commonHull left right overlapping).union
      ((IntervalSelect.without (intervalColumns.map (.kept "a")) "a" "b" left right overlapping).union
        (.without (intervalColumns.map (.kept "b")) "b" "a" right left overlapping))).fragment := by
  have hcolumns : "SELECT a.entity_id, least(a.start_time, b.start_time) AS start_time, " ++
        "greatest(a.end_time, b.end_time) AS end_time FROM " =
      "SELECT " ++ ("a.entity_id, least(a.start_time, b.start_time) AS start_time, " ++
        "greatest(a.end_time, b.end_time) AS end_time") ++ " FROM " := rfl
  have hleft : " UNION SELECT a.entity_id, a.start_time, a.end_time FROM " = " UNION " ++ ("SELECT " ++
      ("a" ++ ".entity_id, " ++ "a" ++ ".start_time, " ++ "a" ++ ".end_time") ++ " FROM ") := rfl
  have hright : ") UNION SELECT b.entity_id, b.start_time, b.end_time FROM " = ")" ++ " UNION " ++ ("SELECT " ++
      ("b" ++ ".entity_id, " ++ "b" ++ ".start_time, " ++ "b" ++ ".end_time") ++ " FROM ") := rfl
  have ha : " a WHERE NOT EXISTS (SELECT 1 FROM " = " " ++ "a" ++ " WHERE NOT EXISTS (SELECT 1 FROM " := rfl
  have hb : " b WHERE NOT EXISTS (SELECT 1 FROM " = " " ++ "b" ++ " WHERE NOT EXISTS (SELECT 1 FROM " := rfl
  have ha' : " a WHERE " = " " ++ "a" ++ " WHERE " := rfl
  have hb' : " b WHERE " = " " ++ "b" ++ " WHERE " := rfl
  have hparts := addsSame_union (addsSame_join addsSame_commonHull left right)
    (addsSame_union (addsSame_without (addsSame_kept "a") "a" "b" left right)
      (addsSame_without (addsSame_kept "b") "b" "a" right left))
  simp only [Relation.fragment]
  rw [hcolumns, hleft, hright, ha, hb, ha', hb']
  simpa only [String.append_assoc] using hparts

lemma addsSame_copy (root : RelationName) :
    AddsSame (Relation.copy root).fragment (IntervalSelect.columns intervalColumns root).fragment := by
  have hcolumns : "SELECT entity_id, start_time, end_time FROM " =
    "SELECT " ++ ", ".intercalate (intervalColumns.map ColumnName.text) ++ " FROM " := rfl
  simp only [Relation.fragment, IntervalSelect.fragment]
  rw [hcolumns]
  exact .refl _

/-- Relations of intervals are written from their clauses. -/
theorem addsSame_intervalSelect {r : Relation} {select : IntervalSelect} (h : r.intervalSelect? = some select) :
    AddsSame r.fragment select.fragment := by
  cases r with
  | both left right =>
    cases h
    exact addsSame_both left right
  | either left right =>
    cases h
    exact addsSame_either left right
  | nothing =>
    cases h
    exact fun _ => rfl
  | copy root =>
    cases h
    exact addsSame_copy root
  | candidates | samples | starts | timeline | runs | wholeWindow | ids | anchor => cases h

/-! ### What is read back -/

variable {a b : EntityInterval} {σ : Scope}

lemma selects_overlapping (ha : σ "a" = .ofInterval a) (hb : σ "b" = .ofInterval b) :
    overlapping.selects σ = a.overlaps b := by
  simp only [overlapping, RowTest.selects_and]
  simp only [RowTest.selects, RowTest.truth, Term.eval, ha, hb, Row.ofInterval, comparison_equal_text,
    comparison_timestamptz, meets_lessOrEqual, Option.some.injEq, Bool.decide_eq_true]
  rw [Bool.eq_iff_iff, overlaps_iff]
  simp

lemma interval?_commonPart (ha : σ "a" = .ofInterval a) (hb : σ "b" = .ofInterval b) :
    (Output.row σ commonPart).interval? = some (a.inter b) := by
  simp [Row.interval?, Output.row, commonPart, Output.name, Output.term, Term.eval, ha, hb, Row.ofInterval,
    unlessOrdered_lt, unlessOrdered_gt, inter]

lemma interval?_commonHull (ha : σ "a" = .ofInterval a) (hb : σ "b" = .ofInterval b) :
    (Output.row σ commonHull).interval? = some (a.hull b) := by
  simp [Row.interval?, Output.row, commonHull, Output.name, Output.term, Term.eval, ha, hb, Row.ofInterval,
    unlessOrdered_lt, unlessOrdered_gt, hull]

lemma interval?_kept {name : String} (ha : σ name = .ofInterval a) :
    (Output.row σ (intervalColumns.map (.kept name))).interval? = some a := by
  simp [Row.interval?, Output.row, intervalColumns, Output.name, Output.term, Term.eval, ha, Row.ofInterval]

section Rows

variable {tables : RelationName → List EntityInterval} {left right rows others : RelationName}
  {outputs : List Output} {own other : String}

/-- A join on overlapping rows, whose columns are what two rows are combined into. -/
lemma rows_join {combine : EntityInterval → EntityInterval → EntityInterval}
    (h : ∀ {a b : EntityInterval} {σ : Scope}, σ "a" = .ofInterval a → σ "b" = .ofInterval b →
      (Output.row σ outputs).interval? = some (combine a b)) :
    (IntervalSelect.join outputs left right overlapping).rows tables =
      joinRows combine (tables left) (tables right) := by
  rw [IntervalSelect.rows, joinRows]
  refine congrArg (List.flatMap · (tables left)) (funext fun a => ?_)
  have hscope (b : EntityInterval) :
      ((Scope.empty.add "a" (.ofInterval a)).add "b" (.ofInterval b)) "a" = .ofInterval a := by simp
  simp only [selects_overlapping (hscope _) Scope.add_self, h (hscope _) Scope.add_self, List.filterMap_eq_map']

/-- The rows of one side that overlap none of the other. -/
lemma rows_without (h : ∀ {a b : EntityInterval},
      overlapping.selects ((Scope.empty.add own (.ofInterval a)).add other (.ofInterval b)) = a.overlaps b) :
    (IntervalSelect.without (intervalColumns.map (.kept own)) own other rows others overlapping).rows tables =
      rowsWithout (tables rows) (tables others) := by
  rw [IntervalSelect.rows, rowsWithout]
  simp only [h, interval?_kept Scope.add_self, List.filterMap_some]

lemma rows_union (s s' s'' : IntervalSelect) :
    (s.union (s'.union s'')).rows tables = (s.rows tables ++ s'.rows tables ++ s''.rows tables).dedup := by
  rw [IntervalSelect.rows, IntervalSelect.rows, List.append_assoc, List.dedup_append, List.dedup_idem,
    ← List.dedup_append]

lemma rows_columns : (IntervalSelect.columns intervalColumns rows).rows tables = tables rows := by
  have hrow (i : EntityInterval) :
      (Row.interval? fun c => if c ∈ intervalColumns then Row.ofInterval i c else none) = some i := by
    simp [Row.interval?, intervalColumns, Row.ofInterval]
  simp only [IntervalSelect.rows, hrow, List.filterMap_some]

end Rows

/-- The clauses give the tables of the relations of intervals. -/
theorem rows_intervalSelect {r : Relation} {select : IntervalSelect} (h : r.intervalSelect? = some select)
    (runsOf : PlanLeaf → List EntityInterval) (tables : RelationName → Table) :
    select.rows (fun name => (tables name).rows) = (r.table runsOf tables).rows := by
  cases r with
  | both left right =>
    cases h
    exact rows_join interval?_commonPart
  | either left right =>
    cases h
    rw [rows_union, rows_join interval?_commonHull, rows_without (selects_overlapping (by simp) (by simp)),
      rows_without fun {a b} => ?_]
    · rfl
    · rw [overlaps_comm]
      exact selects_overlapping (by simp) (by simp)
  | nothing =>
    cases h
    rfl
  | copy root =>
    cases h
    exact rows_columns
  | candidates | samples | starts | timeline | runs | wholeWindow | ids | anchor => cases h

end EntityHistory.Sql
