/-
Rows and the clauses that read them.

The text of a relation is written from clauses: terms on the rows that it reads, which stand under names, tests that
compare terms by three-valued logic, the columns that are given, columns to sort by, and numberings. Each has its
text and its meaning on rows by one syntax, so that the parts of a text can be read back.

The last creation of an attribute is written as a sub-select on the table of instances. Read back, it gives the
greatest time of the creations of the same attribute of the same entity, up to the time of the row.

* `Sql.Term.fragment`, `Sql.Term.eval`: the text and the datum of a term;
* `Sql.RowTest.fragment`, `Sql.RowTest.truth`: the text and the truth of a test;
* `Sql.SortColumn.fragment`, `Sql.compareBy`: the text of a column to sort by, and the order of rows;
* `Sql.addsSame_creationExpression`: the sub-select for the last creation is written from its clauses;
* `Sql.value_lastCreation`: its value is the last creation.
-/
import EntityHistory.Interval.Timeline
import EntityHistory.Proofs.Sql.Truth
import EntityHistory.Proofs.Sql.Windows

namespace EntityHistory.Sql

open Fragment

/-! ### Rows -/

/-- The columns that clauses name. -/
inductive ColumnName where
  | entityId
  | attributeId
  | operationMode
  | ts
  | startTime
  | endTime
  | t
  | result
  | mark
  | group
deriving DecidableEq

/-- The written form of a name. -/
def ColumnName.text : ColumnName → String
  | .entityId => "entity_id"
  | .attributeId => "attribute_id"
  | .operationMode => "operation_mode"
  | .ts => "ts"
  | .startTime => "start_time"
  | .endTime => "end_time"
  | .t => "t"
  | .result => "result"
  | .mark => "o"
  | .group => "grp"

/-- A row has a datum in each column, or none if the column is null or not there. -/
abbrev Row := ColumnName → Option Datum

namespace Row

def ofInstance (i : AttributeInstance) : Row
  | .entityId => some (.text i.entityId)
  | .attributeId => some (.text i.attributeId)
  | .operationMode => some (.text i.mode.name)
  | .ts => some (.timestamptz i.writtenAt)
  | _ => none

def ofEntity (entityId : String) : Row
  | .entityId => some (.text entityId)
  | _ => none

def ofInterval (i : EntityInterval) : Row
  | .entityId => some (.text i.entityId)
  | .startTime => some (.timestamptz i.start)
  | .endTime => some (.timestamptz i.stop)
  | _ => none

def ofPoint (p : TimelinePoint) : Row
  | .entityId => some (.text p.entityId)
  | .t => some (.timestamptz p.time)
  | .result => some (.boolean p.result)
  | _ => none

end Row

/-- The rows that a clause reads, by their names. -/
abbrev Scope := String → Row

namespace Scope

/-- No rows. -/
def empty : Scope := fun _ _ => none

/-- One more row under a name. -/
def add (σ : Scope) (name : String) (r : Row) : Scope := Function.update σ name r

variable {σ : Scope} {name name' : String} {r : Row}

@[simp] lemma add_self : σ.add name r name = r := Function.update_self ..

@[simp] lemma add_of_ne (h : name' ≠ name) : σ.add name r name' = σ name' := Function.update_of_ne h ..

end Scope

/-! ### Terms -/

/-- A term on rows. -/
inductive Term where
  | column (name : String) (c : ColumnName)
  /-- A column of the only row. -/
  | own (c : ColumnName)
  | parameter (v : Value)
  /-- A parameter with a cast. -/
  | instant (t : Instant)
  | word (s : String)
  | greatest (a b : Term)
  | least (a b : Term)

/-- Of two data the second if they are in a given order, and else the first. Null gives way to the other. -/
def unlessOrdered (order : Ordering) : Option Datum → Option Datum → Option Datum
  | none, b => b
  | a, none => a
  | some a, some b => if a.compare? b = some order then some b else some a

namespace Term

/-- The written form of a term. -/
def fragment : Term → Fragment
  | .column name c => text (name ++ "." ++ c.text)
  | .own c => text c.text
  | .parameter v => bind v
  | .instant t => bind (.ofInstant t) ++ text "::timestamptz"
  | .word s => text ("'" ++ s ++ "'")
  | .greatest a b => text "greatest(" ++ a.fragment ++ text ", " ++ b.fragment ++ text ")"
  | .least a b => text "least(" ++ a.fragment ++ text ", " ++ b.fragment ++ text ")"

/-- The datum of a term. -/
def eval (σ : Scope) : Term → Option Datum
  | .column name c => σ name c
  | .own c => σ "" c
  | .parameter v => Datum.ofValue? v
  | .instant t => some (.timestamptz t)
  | .word s => some (.text s)
  | .greatest a b => unlessOrdered .lt (a.eval σ) (b.eval σ)
  | .least a b => unlessOrdered .gt (a.eval σ) (b.eval σ)

end Term

lemma unlessOrdered_lt (s t : Instant) :
    unlessOrdered .lt (some (.timestamptz s)) (some (.timestamptz t)) = some (.timestamptz (max s t)) := by
  simp only [unlessOrdered, Datum.compare?, Option.some.injEq, compare_lt_iff_lt]
  split_ifs with h
  · rw [max_eq_right_of_lt h]
  · rw [max_eq_left (not_lt.1 h)]

lemma unlessOrdered_gt (s t : Instant) :
    unlessOrdered .gt (some (.timestamptz s)) (some (.timestamptz t)) = some (.timestamptz (min s t)) := by
  simp only [unlessOrdered, Datum.compare?, Option.some.injEq, compare_gt_iff_gt]
  split_ifs with h
  · rw [min_eq_right_of_lt h]
  · rw [min_eq_left (not_lt.1 h)]

/-! ### Tests -/

lemma Truth.some_and_some (a b : Bool) : Truth.and (some a) (some b) = some (a && b) := by
  cases a <;> cases b <;> rfl

/-- A conjunction is true where both parts are. -/
lemma Truth.decide_and (a b : Truth) :
    decide (a.and b = some true) = (decide (a = some true) && decide (b = some true)) := by
  rcases a with _ | _ | _ <;> rcases b with _ | _ | _ <;> rfl

/-- A test of rows. -/
inductive RowTest where
  | compares (operator : Operator) (a b : Term)
  | isKnown (a : Term)
  | and (a b : RowTest)
  | not (a : RowTest)

namespace RowTest

/-- The written form of a test. -/
def fragment : RowTest → Fragment
  | .compares operator a b => a.fragment ++ text (operatorText operator) ++ b.fragment
  | .isKnown a => a.fragment ++ text " IS NOT NULL"
  | .and a b => a.fragment ++ text " AND " ++ b.fragment
  | .not a => text "NOT (" ++ a.fragment ++ text ")"

/-- The truth of a test. -/
def truth (σ : Scope) : RowTest → Truth
  | .compares operator a b => comparison operator (a.eval σ) (b.eval σ)
  | .isKnown a => some (a.eval σ).isSome
  | .and a b => (a.truth σ).and (b.truth σ)
  | .not a => (a.truth σ).not

/-- Whether a test selects rows: it is true of them. -/
def selects (test : RowTest) (σ : Scope) : Bool := test.truth σ = some true

variable {σ : Scope} {a b : RowTest}

lemma selects_and : (a.and b).selects σ = (a.selects σ && b.selects σ) := Truth.decide_and _ _

end RowTest

lemma comparison_equal_text (s t : String) :
    comparison .equal (some (.text s)) (some (.text t)) = some (decide (s = t)) := by
  have hcompare : (compareOfLessAndEq s t).isEq = decide (s = t) := by
    rw [Bool.eq_iff_iff, Ordering.isEq_iff_eq_eq, compareOfLessAndEq_eq_eq le_refl not_le, decide_eq_true_eq]
  exact congrArg some hcompare

lemma comparison_timestamptz (operator : Operator) (s t : Instant) :
    comparison operator (some (.timestamptz s)) (some (.timestamptz t)) = some (meets operator (compare s t)) :=
  rfl

lemma meets_lessOrEqual (s t : Instant) : meets .lessOrEqual (compare s t) = decide (s ≤ t) := by
  rw [Bool.eq_iff_iff, decide_eq_true_eq]
  exact meets_atMost true s t

/-! ### Columns that are given -/

/-- A column that is given. -/
inductive Output where
  /-- A column under the name that it has. -/
  | kept (row : String) (c : ColumnName)
  | computed (term : Term) (name : ColumnName)

namespace Output

def name : Output → ColumnName
  | .kept _ c => c
  | .computed _ name => name

def term : Output → Term
  | .kept row c => .column row c
  | .computed term _ => term

/-- The written form of a column that is given. -/
def fragment : Output → Fragment
  | .kept row c => (Term.column row c).fragment
  | .computed term name => term.fragment ++ text (" AS " ++ name.text)

/-- The written form of several columns. -/
def listFragment (outputs : List Output) : Fragment := Fragment.separated ", " (outputs.map fragment)

/-- The row of the columns that are given. -/
def row (σ : Scope) (outputs : List Output) : Row := fun c =>
  (outputs.find? fun o => o.name = c).bind fun o => o.term.eval σ

end Output

/-! ### Columns to sort by -/

/-- A column to sort by. -/
structure SortColumn where
  name : ColumnName
  descending : Bool

/-- The order of two data. Null comes after all others. -/
def compareData : Option Datum → Option Datum → Ordering
  | some a, some b => (a.compare? b).getD .eq
  | some _, none => .lt
  | none, some _ => .gt
  | none, none => .eq

namespace SortColumn

/-- The written form of a column to sort by, which is named by a term. -/
def fragment (term : ColumnName → Term) (c : SortColumn) : Fragment :=
  (term c.name).fragment ++ if c.descending then text " DESC" else []

/-- The order of two rows by a column. -/
def compare (c : SortColumn) (r r' : Row) : Ordering :=
  if c.descending then compareData (r' c.name) (r c.name) else compareData (r c.name) (r' c.name)

end SortColumn

/-- The order of two rows by some columns: the first in which they differ decides. -/
def compareBy (columns : List SortColumn) (r r' : Row) : Ordering :=
  columns.foldr (fun c o => (c.compare r r').then o) .eq

/-- A row in its place by some columns. -/
structure Placed (columns : List SortColumn) where
  row : Row

instance (columns : List SortColumn) : LE (Placed columns) := ⟨fun a b => (compareBy columns a.row b.row).isLE⟩

instance (columns : List SortColumn) : LT (Placed columns) := ⟨fun a b => compareBy columns a.row b.row = .lt⟩

section Places

variable {columns : List SortColumn} {a b : Placed columns}

lemma Placed.le_iff : a ≤ b ↔ (compareBy columns a.row b.row).isLE = true := Iff.rfl

lemma Placed.lt_iff : a < b ↔ compareBy columns a.row b.row = .lt := Iff.rfl

lemma compareBy_cons (c : SortColumn) (r r' : Row) :
    compareBy (c :: columns) r r' = (c.compare r r').then (compareBy columns r r') := rfl

lemma compareBy_nil (r r' : Row) : compareBy [] r r' = .eq := rfl

end Places

/-! ### Numberings -/

/-- A numbering of rows: in each partition by the data in some columns, in an order. -/
structure Numbering where
  partition : List ColumnName
  order : List SortColumn

namespace Numbering

/-- The written form of a list of columns. -/
def columnsFragment (columns : List ColumnName) : Fragment :=
  Fragment.separated ", " (columns.map fun c => (Term.own c).fragment)

/-- The written form of a numbering. -/
def fragment (n : Numbering) : Fragment :=
  text "row_number() OVER (" ++
    (if n.partition = [] then [] else text "PARTITION BY " ++ columnsFragment n.partition ++ text " ") ++
    text "ORDER BY " ++ Fragment.separated ", " (n.order.map (·.fragment .own)) ++ text ")"

open Classical in
/-- The numbers that a numbering may give the elements of a list. -/
def MayGive {α : Type} (n : Numbering) (rowOf : α → Row) (l : List α) (number : Fin l.length → Nat) : Prop :=
  IsRowNumber (fun k => n.partition.map (rowOf (l.get k))) (fun k => (⟨rowOf (l.get k)⟩ : Placed n.order)) number

variable {α κ ω : Type} [DecidableEq κ] [LT ω] {n : Numbering} {rowOf : α → Row} {l : List α}
  {number : Fin l.length → Nat}

/-- The numbers that are given, where partition and order of the rows are known. -/
lemma mayGive_iff (key : α → κ) (order : α → ω)
    (hkey : ∀ a b, n.partition.map (rowOf a) = n.partition.map (rowOf b) ↔ key a = key b)
    (horder : ∀ a b, (⟨rowOf a⟩ : Placed n.order) < ⟨rowOf b⟩ ↔ order a < order b) :
    n.MayGive rowOf l number ↔ IsRowNumber (fun k => key (l.get k)) (fun k => order (l.get k)) number := by
  classical
  constructor
  · exact fun h => h.congr (fun _ _ => hkey _ _) fun _ _ => horder _ _
  · exact fun h => h.congr (fun _ _ => (hkey _ _).symm) fun _ _ => (horder _ _).symm

end Numbering

/-! ### The last creation -/

/-- A sub-select of the greatest time in a column, of the rows on which a test is true. -/
structure GreatestTime where
  name : String
  column : ColumnName
  test : RowTest

namespace GreatestTime

/-- The written form of a sub-select on a table. -/
def fragment (table : String) (s : GreatestTime) : Fragment :=
  text ("(SELECT max(" ++ s.name ++ "." ++ s.column.text ++ ") FROM " ++ table ++ " " ++ s.name ++ " WHERE ") ++
    s.test.fragment ++ text ")"

/-- The value of a sub-select on the rows of a table, null if none of them has a time. -/
def value (rows : List Row) (σ : Scope) (s : GreatestTime) : Option Datum :=
  let times := (rows.filter fun r => s.test.selects (σ.add s.name r)).filterMap fun r =>
    match r s.column with
    | some (.timestamptz t) => some t
    | _ => none
  times.max?.map .timestamptz

/-- The last creation of the attribute of a row up to this row. -/
def lastCreation (row : String) : GreatestTime where
  name := "cr"
  column := .ts
  test := .and (.compares .equal (.column "cr" .entityId) (.column row .entityId))
    (.and (.compares .equal (.column "cr" .attributeId) (.column row .attributeId))
      (.and (.compares .equal (.column "cr" .operationMode) (.word OperationMode.create.name))
        (.compares .lessOrEqual (.column "cr" .ts) (.column row .ts))))

end GreatestTime

/-- The sub-select for the last creation is written from its clauses. -/
theorem addsSame_creationExpression (row : String) :
    AddsSame (text (creationExpression row)) ((GreatestTime.lastCreation row).fragment instanceTable) := by
  have hmax : "(SELECT max(cr.ts) FROM " = "(SELECT max(" ++ "cr" ++ "." ++ "ts" ++ ") FROM " := rfl
  have hentity : " cr WHERE cr.entity_id = " =
      " " ++ "cr" ++ " WHERE " ++ "cr" ++ "." ++ "entity_id" ++ " = " := rfl
  have hattribute : ".entity_id AND cr.attribute_id = " =
      "." ++ "entity_id" ++ " AND " ++ "cr" ++ "." ++ "attribute_id" ++ " = " := rfl
  have hmode : ".attribute_id AND cr.operation_mode = 'Create' AND cr.ts <= " =
      "." ++ "attribute_id" ++ " AND " ++ "cr" ++ "." ++ "operation_mode" ++ " = " ++ "'" ++ "Create" ++ "'" ++
        " AND " ++ "cr" ++ "." ++ "ts" ++ " <= " := rfl
  have hend : ".ts)" = "." ++ "ts" ++ ")" := rfl
  intro s
  unfold creationExpression
  rw [hmax, hentity, hattribute, hmode, hend]
  simp only [GreatestTime.lastCreation, GreatestTime.fragment, RowTest.fragment, Term.fragment, ColumnName.text,
    OperationMode.name, operatorText, continuedBy_append, continuedBy_text, String.append_assoc]

/-- On the row of an instance, the sub-select gives the last creation of its attribute up to it. -/
theorem value_lastCreation (instances : List AttributeInstance) (i : AttributeInstance) (table : RowTable) :
    (GreatestTime.lastCreation table.alias).value (instances.map Row.ofInstance)
        (Scope.empty.add table.alias (Row.ofInstance i)) =
      Expression.lastCreation.eval (RowData.ofInstance instances i) := by
  have hrow : table.alias ≠ "cr" := by cases table <;> decide
  have htest (cr : AttributeInstance) : (GreatestTime.lastCreation table.alias).test.selects
      ((Scope.empty.add table.alias (Row.ofInstance i)).add "cr" (Row.ofInstance cr)) =
        (cr.entityId = i.entityId && cr.attributeId = i.attributeId && cr.mode = .create &&
          cr.writtenAt ≤ i.writtenAt) := by
    simp only [GreatestTime.lastCreation, RowTest.selects_and]
    simp only [RowTest.selects, RowTest.truth, Term.eval, Scope.add_self, Scope.add_of_ne hrow, Row.ofInstance,
      comparison_equal_text, comparison_timestamptz, meets_lessOrEqual, OperationMode.name_inj, Option.some.injEq,
      Bool.decide_eq_true, Bool.and_assoc]
  rw [Expression.eval, RowData.ofInstance, GreatestTime.value, List.filter_map, List.filterMap_map]
  refine congrArg (fun times : List Instant => times.max?.map Datum.timestamptz) ?_
  rw [RowData.creationsUntil, ← List.filterMap_eq_map]
  exact congrArg₂ List.filterMap rfl (List.filter_congr fun cr _ => htest cr)

end EntityHistory.Sql
