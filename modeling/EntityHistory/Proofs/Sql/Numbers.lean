/-
The clauses of the relations that pages are cut by.

The entities of the intervals are numbered in their order, each once, and the number of the anchor is looked up among
them. Read back, the numbering, the test and the default give what the two relations may hold.

* `Sql.addsSame_ids`, `Sql.isIds_iff_clauses`: the numbered entities;
* `Sql.addsSame_anchor`, `Sql.isAnchor_iff_clauses`: the number of the anchor.
-/
import EntityHistory.Proofs.Sql.Clauses
import EntityHistory.Proofs.Sql.Pages

namespace EntityHistory.Sql

open Fragment

/-! ### Numbered entities -/

/-- Among all entities, by their names. -/
def Numbering.entities : Numbering := ⟨[], [⟨.entityId, false⟩]⟩

/-- The relation of the numbered entities is selected from its clauses. -/
theorem addsSame_ids : AddsSame Relation.ids.fragment
    (text "SELECT entity_id, " ++ Numbering.entities.fragment ++
      text (" AS rn FROM (SELECT DISTINCT " ++ ColumnName.entityId.text ++ " FROM " ++
        RelationName.intervals.text ++ ") d")) := fun _ => rfl

lemma lt_entity_iff {e e' : String} :
    (⟨.ofEntity e⟩ : Placed [⟨.entityId, false⟩]) < ⟨.ofEntity e'⟩ ↔ e < e' := by
  have hname : (⟨.entityId, false⟩ : SortColumn).compare (.ofEntity e) (.ofEntity e') = compareOfLessAndEq e e' :=
    rfl
  rw [Placed.lt_iff, compareBy_cons, compareBy_nil, hname, Ordering.then_eq, compareOfLessAndEq_eq_lt]

/-- What the numbered entities may be, read back from their clauses. -/
theorem isIds_iff_clauses {rows : List EntityInterval} {ids : List (String × Nat)} : IsIds rows ids ↔
    ∃ (entities : List String) (number : Fin entities.length → Nat), entities.Nodup ∧
      (∀ e, e ∈ entities ↔ ∃ i ∈ rows, Row.ofInterval i .entityId = some (.text e)) ∧
      Numbering.entities.MayGive Row.ofEntity entities number ∧ ids = numbered entities number := by
  have hnumber {entities : List String} {number : Fin entities.length → Nat} :
      Numbering.entities.MayGive Row.ofEntity entities number ↔
        IsRowNumber (fun _ => ()) (fun k => entities[k]) number :=
    Numbering.mayGive_iff (fun _ => ()) id (fun _ _ => by simp [Numbering.entities]) fun _ _ => lt_entity_iff
  simp only [IsIds, hnumber, Row.ofInterval, Option.some.injEq, Datum.text.injEq]

/-! ### The number of the anchor -/

/-- A number that is looked up among those of entities, with a default. -/
structure NumberLookUp where
  test : RowTest
  default : Nat

namespace NumberLookUp

/-- The written form of a look-up. -/
def fragment (s : NumberLookUp) : Fragment :=
  text ("SELECT COALESCE((SELECT rn FROM " ++ RelationName.ids.text ++ " WHERE ") ++ s.test.fragment ++
    text ("), " ++ toString s.default ++ ") AS rn")

/-- What a look-up may give. -/
def MayGive (s : NumberLookUp) (ids : List (String × Nat)) (n : Nat) : Prop :=
  ∃ value, IsScalar ((ids.filter fun r => s.test.selects (Scope.empty.add "" (.ofEntity r.1))).map (·.2)) value ∧
    n = value.getD s.default

/-- The number of an anchor. -/
def anchor (entityId : Option String) : NumberLookUp :=
  ⟨.compares .equal (.own .entityId) (.parameter (.string entityId)), 1⟩

end NumberLookUp

/-- The relation of the number of the anchor is selected from its clauses. -/
theorem addsSame_anchor (entityId : Option String) :
    AddsSame (Relation.anchor entityId).fragment (NumberLookUp.anchor entityId).fragment := by
  have hwhere : "SELECT COALESCE((SELECT rn FROM ids WHERE entity_id = " =
      "SELECT COALESCE((SELECT rn FROM " ++ "ids" ++ " WHERE " ++ "entity_id" ++ " = " := rfl
  have hdefault : "), 1) AS rn" = "), " ++ toString 1 ++ ") AS rn" := rfl
  intro s
  simp only [Relation.fragment, NumberLookUp.fragment, NumberLookUp.anchor, RowTest.fragment, Term.fragment,
    ColumnName.text, RelationName.text, operatorText, continuedBy_append]
  rw [hwhere, hdefault]
  simp only [continuedBy_text, String.append_assoc]

/-- What the number of the anchor may be, read back from its clauses. -/
theorem isAnchor_iff_clauses {ids : List (String × Nat)} {entityId : Option String} {n : Nat} :
    IsAnchor ids entityId n ↔ (NumberLookUp.anchor entityId).MayGive ids n := by
  have htest (e : String) : (NumberLookUp.anchor entityId).test.selects (Scope.empty.add "" (.ofEntity e)) =
      decide (entityId = some e) := by
    cases entityId with
    | none => rfl
    | some anchor =>
      simp [NumberLookUp.anchor, RowTest.selects, RowTest.truth, Term.eval, Row.ofEntity, Datum.ofValue?,
        comparison_equal_text, eq_comm]
  simp only [NumberLookUp.MayGive, htest]
  rfl

end EntityHistory.Sql
