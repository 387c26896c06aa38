/-
The clauses of the runs of a leaf.

The points of a leaf are numbered twice, among all points of their entity and among those with the same result, and
the true ones are grouped by the difference of the two numbers. Read back, the columns of both numberings, the
columns to group by and the aggregates of the times give what the runs of a leaf may be.

* `Sql.Numbering.mayGive_all_iff`, `Sql.Numbering.mayGive_within_iff`: the two numberings;
* `Sql.addsSame_runs`: the runs of a leaf are selected from their clauses;
* `Sql.mayHold_runs_iff_clauses`: what they may be.
-/
import EntityHistory.Proofs.Sql.Clauses
import EntityHistory.Proofs.Sql.Samples

namespace EntityHistory.Sql

open Fragment TimelinePoint

/-- The row of a point with a difference of numbers. -/
def Row.ofRanked (r : TimelinePoint × Int) : Row
  | .group => some (.bigint r.2)
  | c => ofPoint r.1 c

/-! ### Places -/

section Places

variable {p p' : TimelinePoint}

/-- The earliest point comes first, and of points of one time a false one. -/
lemma lt_earliestFirst_iff : (⟨.ofPoint p⟩ : Placed [⟨.t, false⟩, ⟨.result, false⟩]) < ⟨.ofPoint p'⟩ ↔
    toLex (p.time, p.result) < toLex (p'.time, p'.result) := by
  have htime : (⟨.t, false⟩ : SortColumn).compare (.ofPoint p) (.ofPoint p') = compare p.time p'.time := rfl
  have hresult : (⟨.result, false⟩ : SortColumn).compare (.ofPoint p) (.ofPoint p') =
    compare p.result p'.result := rfl
  rw [Placed.lt_iff, compareBy_cons, compareBy_cons, compareBy_nil, htime, hresult, Ordering.then_eq,
    Ordering.then_eq_lt, compare_lt_iff_lt, compare_eq_iff_eq, compare_lt_iff_lt, Prod.Lex.toLex_lt_toLex]

lemma lt_earliest_iff : (⟨.ofPoint p⟩ : Placed [⟨.t, false⟩]) < ⟨.ofPoint p'⟩ ↔ p.time < p'.time := by
  have htime : (⟨.t, false⟩ : SortColumn).compare (.ofPoint p) (.ofPoint p') = compare p.time p'.time := rfl
  rw [Placed.lt_iff, compareBy_cons, compareBy_nil, htime, Ordering.then_eq, compare_lt_iff_lt]

end Places

/-! ### Numberings -/

namespace Numbering

/-- Among all points of an entity, by time and result. -/
def all : Numbering := ⟨[.entityId], [⟨.t, false⟩, ⟨.result, false⟩]⟩

/-- Among the points of an entity with one result, by time. -/
def within : Numbering := ⟨[.entityId, .result], [⟨.t, false⟩]⟩

variable {rows : List TimelinePoint} {number : Fin rows.length → Nat}

lemma mayGive_all_iff : all.MayGive Row.ofPoint rows number ↔
    IsRowNumber (fun i => (rows.get i).entityId) (fun i => toLex ((rows.get i).time, (rows.get i).result)) number :=
  mayGive_iff entityId (fun p => toLex (p.time, p.result)) (fun _ _ => by simp [all, Row.ofPoint])
    fun _ _ => lt_earliestFirst_iff

lemma mayGive_within_iff : within.MayGive Row.ofPoint rows number ↔
    IsRowNumber (fun i => ((rows.get i).entityId, (rows.get i).result)) (fun i => (rows.get i).time) number :=
  mayGive_iff (fun p => (p.entityId, p.result)) time (fun _ _ => by simp [within, Row.ofPoint])
    fun _ _ => lt_earliest_iff

end Numbering

/-! ### Groups -/

/-- An aggregate of times. -/
inductive Aggregate where
  | min
  | max

/-- The written form of an aggregate. -/
def Aggregate.text : Aggregate → String
  | .min => "min"
  | .max => "max"

/-- What an aggregate gives of some times. -/
def Aggregate.IsOf (times : Set Instant) (t : Instant) : Aggregate → Prop
  | .min => IsLeast times t
  | .max => IsGreatest times t

/-- A select of intervals: one for each group of numbered points on which a column is true. -/
structure GroupSelect where
  start : Aggregate
  stop : Aggregate
  number : Numbering
  minus : Numbering
  test : ColumnName
  keys : List ColumnName

namespace GroupSelect

/-- The written form of a select. -/
def fragment (points : RelationName) (s : GroupSelect) : Fragment :=
  text ("SELECT entity_id, " ++ s.start.text ++ "(t) AS start_time, " ++ s.stop.text ++
      "(t) AS end_time FROM (SELECT entity_id, t, result, ") ++
    s.number.fragment ++ text " - " ++ s.minus.fragment ++
    text (" AS grp FROM " ++ points.text ++ ") ranked WHERE " ++ s.test.text ++ " GROUP BY ") ++
    Numbering.columnsFragment s.keys

/-- What a group is by. -/
def key (s : GroupSelect) (r : TimelinePoint × Int) : List (Option Datum) := s.keys.map (Row.ofRanked r)

/-- The rows that are grouped. -/
def selects (s : GroupSelect) (r : TimelinePoint × Int) : Bool :=
  match Row.ofRanked r s.test with
  | some (.boolean b) => b
  | _ => false

/-- The interval of a group of rows. -/
structure IsGroup (s : GroupSelect) (rows : List (TimelinePoint × Int)) (k : List (Option Datum))
    (i : EntityInterval) : Prop where
  entityId : ∀ r ∈ rows, s.key r = k → r.1.entityId = i.entityId
  start : s.start.IsOf {t | ∃ r ∈ rows, s.key r = k ∧ r.1.time = t} i.start
  stop : s.stop.IsOf {t | ∃ r ∈ rows, s.key r = k ∧ r.1.time = t} i.stop

/-- What a select may give of points. Of points that are the same both numberings take the same one first. -/
def MayGive (s : GroupSelect) (rows : List TimelinePoint) (out : List EntityInterval) : Prop :=
  ∃ number minus : Fin rows.length → Nat,
    s.number.MayGive Row.ofPoint rows number ∧ s.minus.MayGive Row.ofPoint rows minus ∧
    (∀ i j, rows.get i = rows.get j → (number i < number j ↔ minus i < minus j)) ∧
    let ranked := (List.finRange rows.length).map fun i => (rows.get i, (number i : Int) - minus i)
    IsGroupBy s.key (s.IsGroup (ranked.filter s.selects)) (ranked.filter s.selects) out

/-- The runs of true points. -/
def runs : GroupSelect := ⟨.min, .max, .all, .within, .result, [.entityId, .result, .group]⟩

/-- The key of a run as data. -/
def keyData (k : String × Bool × Int) : List (Option Datum) :=
  [some (.text k.1), some (.boolean k.2.1), some (.bigint k.2.2)]

lemma keyData_injective : Function.Injective keyData := by
  rintro ⟨e, result, n⟩ ⟨e', result', n'⟩ h
  simpa [keyData] using h

lemma key_runs : runs.key = keyData ∘ groupKey := rfl

lemma isGroup_runs_iff {rows : List (TimelinePoint × Int)} {k : String × Bool × Int} {i : EntityInterval} :
    runs.IsGroup rows (keyData k) i ↔ IsGroupRow rows k i := by
  have hkey (r : TimelinePoint × Int) : runs.key r = keyData k ↔ groupKey r = k := by
    rw [key_runs]
    exact keyData_injective.eq_iff
  constructor
  · rintro ⟨hentity, hstart, hstop⟩
    simp only [hkey] at hentity hstart hstop
    obtain ⟨r, hr, hrk, -⟩ := hstart.1
    refine ⟨?_, hstart, hstop⟩
    rw [← hentity r hr hrk, ← hrk]
    rfl
  · rintro ⟨hentity, hstart, hstop⟩
    refine ⟨fun r hr hrk => ?_, ?_, ?_⟩
    · rw [hentity, ← (hkey r).1 hrk]
      rfl
    · simp only [hkey]
      exact hstart
    · simp only [hkey]
      exact hstop

end GroupSelect

/-- The runs of a leaf are selected from their clauses. -/
theorem addsSame_runs (points : RelationName) :
    AddsSame (Relation.runs points).fragment (GroupSelect.runs.fragment points) := by
  have hall : AddsSame (text "row_number() OVER (PARTITION BY entity_id ORDER BY t, result)")
      Numbering.all.fragment := fun _ => rfl
  have hwithin : AddsSame (text ("row_number() OVER (PARTITION BY " ++ "entity_id, result ORDER BY t)"))
      Numbering.within.fragment := fun _ => rfl
  have hkeys : AddsSame (text "entity_id, result, grp")
      (Numbering.columnsFragment GroupSelect.runs.keys) := fun _ => rfl
  have hhead : "SELECT entity_id, min(t) AS start_time, max(t) AS end_time FROM (SELECT entity_id, t, result, " =
      "SELECT entity_id, " ++ "min" ++ "(t) AS start_time, " ++ "max" ++
        "(t) AS end_time FROM (SELECT entity_id, t, result, " := rfl
  have hminus : "row_number() OVER (PARTITION BY entity_id ORDER BY t, result) - row_number() OVER (PARTITION BY " =
      "row_number() OVER (PARTITION BY entity_id ORDER BY t, result)" ++ " - " ++
        "row_number() OVER (PARTITION BY " := rfl
  have hgroup : "entity_id, result ORDER BY t) AS grp FROM " =
      "entity_id, result ORDER BY t)" ++ " AS grp FROM " := rfl
  have hend : ") ranked WHERE result GROUP BY entity_id, result, grp" =
      ") ranked WHERE " ++ "result" ++ " GROUP BY " ++ "entity_id, result, grp" := rfl
  intro s
  simp only [Relation.fragment, GroupSelect.fragment, continuedBy_append, ← hkeys _]
  rw [hhead, hminus, hgroup, hend]
  simp only [GroupSelect.runs, Aggregate.text, ColumnName.text, ← hall _, ← hwithin _, continuedBy_text,
    String.append_assoc]

/-- What the runs of a leaf may be, read back from their clauses. -/
theorem mayHold_runs_iff_clauses {samplesOf : PlanLeaf → List TimelinePoint} {tables : RelationName → LeafTable}
    {points : RelationName} {rows : List TimelinePoint} {table : LeafTable} (hrows : tables points = .points rows) :
    (Relation.runs points).MayHold samplesOf tables table ↔
      ∃ out, GroupSelect.runs.MayGive rows out ∧ table = .intervals out := by
  have hgroups (ranked : List (TimelinePoint × Int)) (out : List EntityInterval) :
      IsGroupBy GroupSelect.runs.key (GroupSelect.runs.IsGroup ranked) ranked out ↔
        IsGroupBy groupKey (IsGroupRow ranked) ranked out := by
    rw [GroupSelect.key_runs]
    exact isGroupBy_comp_iff GroupSelect.keyData_injective fun _ _ => GroupSelect.isGroup_runs_iff
  have hselects : GroupSelect.runs.selects = fun r => r.1.result := rfl
  have hnumber : GroupSelect.runs.number = .all := rfl
  have hminus : GroupSelect.runs.minus = .within := rfl
  rw [mayHold_runs_iff hrows]
  simp only [GroupSelect.MayGive, hnumber, hminus, Numbering.mayGive_all_iff, Numbering.mayGive_within_iff,
    hselects, hgroups, IsRanking]
  constructor
  · rintro ⟨_, out, ⟨number, minus, hall, hwithin, hsame, rfl⟩, hout, rfl⟩
    exact ⟨out, ⟨number, minus, hall, hwithin, hsame, hout⟩, rfl⟩
  · rintro ⟨out, ⟨number, minus, hall, hwithin, hsame, hout⟩, rfl⟩
    exact ⟨_, out, ⟨number, minus, hall, hwithin, hsame, rfl⟩, hout, rfl⟩

end EntityHistory.Sql
