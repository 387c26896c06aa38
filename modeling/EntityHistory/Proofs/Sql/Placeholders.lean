/-
The placeholders of the statements.

Every fixed text that goes into a statement is clear, whatever plan, page or window the statement is for: the
texts come from columns, operators, relation names and clauses, and all that a query brings is a value. So
placeholders and values agree in every statement of an interval query and of an instance query, and an
operand that is made by itself goes into a statement as if it were written there.

* `isClear_relation`: the fixed texts of a relation
* `isClear_intervalFragments`, `isClear_instancesFragment`: those of the statements
* `placeholders_agree`: placeholders and values agree
-/
import EntityHistory.Proofs.Sql.ReadBack
import EntityHistory.Sql.Statements
import Mathlib.Data.List.Forall2

namespace EntityHistory.Sql

open Fragment

/-! ### Columns and names -/

/-- Digits in a name follow a letter. -/
lemma isClearText_relationName (name : RelationName) : IsClearText name.text := by
  have hnumbered (n : Nat) : IsClearText ("n" ++ toString n) :=
    IsClearText.append_of_ne (isClearText_ofList rfl) (by decide) <| by
      rw [Nat.toString_eq_ofList_toDigits, String.toList_ofList]
      exact Statement.sign_not_mem_of_isDigit fun c hc => Nat.isDigit_of_mem_toDigits (by decide) (by decide) hc
  cases name with
  | node n => exact hnumbered n
  | samples n | starts n | timeline n => exact (hnumbered n).append (isClearText_ofList rfl)
  | candidates | intervals | ids | anchor => exact isClearText_ofList rfl

lemma isClearText_timeColumn {row : String} (hrow : IsClearText row) (property : TimeProperty) :
    IsClearText (timeColumn row property) := by
  cases property <;> exact hrow.append (isClearText_ofList rfl)

lemma isClearText_temporalExpression {expression : String} (h : IsClearText expression) (kind : ValueKind) :
    IsClearText (temporalExpression expression kind) := by
  cases kind with
  | date | time => exact ((isClearText_ofList rfl).append h).append (isClearText_ofList rfl)
  | _ => exact h

lemma isClearText_valueExpression {row : String} (hrow : IsClearText row) (kind : ValueKind) :
    IsClearText (valueExpression row kind) := by
  have hdateTime : IsClearText (row ++ ".value_datetime") := hrow.append (isClearText_ofList rfl)
  cases kind with
  | number | boolean | dateTime => exact hrow.append (isClearText_ofList rfl)
  | date => exact isClearText_temporalExpression hdateTime .date
  | time => exact isClearText_temporalExpression hdateTime .time
  | _ =>
    unfold valueExpression
    apply_rules [IsClearText.append, isClearText_ofList]

lemma isClearText_creationExpression {row : String} (hrow : IsClearText row) :
    IsClearText (creationExpression row) := by
  unfold creationExpression instanceTable
  apply_rules [IsClearText.append, isClearText_ofList]

/-! ### Conditions -/

lemma isClear_bindList (values : List Value) : IsClear (bindList values) := by
  refine isClear_separated (isClearText_ofList rfl) fun f hf => ?_
  obtain ⟨v, -, rfl⟩ := List.mem_map.mp hf
  exact isClear_bind v

lemma isClear_timeCondition {column : String} (hcolumn : IsClearText column) (q : TimeQuery) :
    IsClear (timeCondition column q) := by
  have hatLeast : IsClearText (if q.inclusive then " >= " else " > ") := by
    split <;> exact isClearText_ofList rfl
  have hatMost : IsClearText (if q.inclusive then " <= " else " < ") := by
    split <;> exact isClearText_ofList rfl
  unfold timeCondition
  cases q.bounds <;> simp only [isClear_append, isClear_text, isClear_bind, and_true] <;> and_intros <;>
    apply_rules [IsClearText.append, isClearText_ofList]

lemma isClear_memberPath {row : String} (hrow : IsClearText row) (keys : List String) :
    IsClear (memberPath row keys) := by
  have hstep : IsClearText " -> " := isClearText_ofList rfl
  refine isClear_append.mpr ⟨isClear_text.mpr (hrow.append (isClearText_ofList rfl)), ?_⟩
  induction keys with
  | nil => exact isClear_nil
  | cons key keys ih =>
    simp only [List.flatMap_cons, isClear_append, isClear_text, isClear_bind, hstep, ih, and_true]

lemma isClear_operand {row : String} (hrow : IsClearText row) (operand : Operand) :
    IsClear (operand.fragment row) := by
  cases operand with
  | member keys kind =>
    have htype : IsClearText (memberCast kind).1 := by cases kind <;> exact isClearText_ofList rfl
    have hcast : IsClearText (memberCast kind).2 := by cases kind <;> exact isClearText_ofList rfl
    simp only [Operand.fragment, isClear_append, isClear_text, isClear_memberPath hrow, and_true]
    and_intros <;> apply_rules [IsClearText.append, isClearText_ofList]
  | value kind => exact isClear_text.mpr (isClearText_valueExpression hrow kind)
  | createdAt kind =>
    exact isClear_text.mpr (isClearText_temporalExpression (isClearText_creationExpression hrow) kind)
  | observedAt kind | writtenAt kind =>
    exact isClear_text.mpr (isClearText_temporalExpression (hrow.append (isClearText_ofList rfl)) kind)
  | unitCode | datasetId => exact isClear_text.mpr (hrow.append (isClearText_ofList rfl))

lemma isClear_literal (value : QueryValue) : IsClear (literal value) := by
  cases value <;> simp only [literal, isClear_append, isClear_text, isClear_bind, true_and] <;>
    exact isClearText_ofList rfl

lemma isClear_test (test : Test) : IsClear test.fragment := by
  cases test with
  | oneOf negated items =>
    have hitems : IsClear (separated ", " (items.map literal)) := by
      refine isClear_separated (isClearText_ofList rfl) fun f hf => ?_
      obtain ⟨item, -, rfl⟩ := List.mem_map.mp hf
      exact isClear_literal item
    simp only [Test.fragment, isClear_append, isClear_text, hitems, and_true]
    cases negated <;> exact ⟨isClearText_ofList rfl, isClearText_ofList rfl⟩
  | between negated low high =>
    simp only [Test.fragment, isClear_append, isClear_text, isClear_literal, and_true]
    cases negated <;> exact ⟨isClearText_ofList rfl, isClearText_ofList rfl⟩
  | «matches» negated pattern =>
    simp only [Test.fragment, isClear_append, isClear_text, isClear_bind, and_true]
    cases negated <;> exact isClearText_ofList rfl
  | compares operator value =>
    simp only [Test.fragment, isClear_append, isClear_text, isClear_literal, and_true]
    cases operator <;> exact isClearText_ofList rfl

lemma isClear_condition {row : String} (hrow : IsClearText row) (c : Condition) :
    IsClear (c.fragment row) := by
  unfold Condition.fragment
  cases c.subAttribute with
  | none => exact isClear_append.mpr ⟨(isClear_operand hrow c.operand).respliced, isClear_test c.test⟩
  | some subAttribute =>
    have hoperand := (isClear_operand (isClearText_ofList rfl : IsClearText "s") c.operand).respliced
    simp only [subInstanceTable, isClear_append, isClear_text, isClear_bind, isClear_test, hoperand, and_true]
    and_intros <;> apply_rules [IsClearText.append, isClearText_ofList]

lemma isClear_geoCondition {column : String} (hcolumn : IsClearText column) (g : GeoQuery) :
    IsClear (geoCondition column g) := by
  unfold geoCondition
  cases g.relation <;> simp only [geoFunction, isClear_append, isClear_text, isClear_bind, and_true] <;>
    and_intros <;> apply_rules [IsClearText.append, isClearText_ofList]

lemma isClear_geoFragment {row : String} (hrow : IsClearText row) (g : GeoQuery) :
    IsClear (geoFragment row g) := by
  have hcolumns : ∀ f ∈ GeometryKind.all.map fun kind => geoCondition (row ++ "." ++ kind.column) g,
      IsClear f := by
    intro f hf
    obtain ⟨kind, -, rfl⟩ := List.mem_map.mp hf
    have hkind : IsClearText kind.column := by cases kind <;> exact isClearText_ofList rfl
    exact isClear_geoCondition ((hrow.append (isClearText_ofList rfl)).append hkind) g
  have hsome := isClear_separated (isClearText_ofList rfl : IsClearText " OR ") hcolumns
  simp only [geoFragment, isClear_append, isClear_text, hsome, and_true]
  exact ⟨isClearText_ofList rfl, isClearText_ofList rfl⟩

/-! ### Relations -/

lemma isClear_restriction {column : String} (hcolumn : IsClearText column) (texts : List String) :
    IsClear (restriction column texts) := by
  unfold restriction
  split
  · exact isClear_nil
  · simp only [isClear_append, isClear_text, isClear_bindList, and_true]
    and_intros <;> apply_rules [IsClearText.append, isClearText_ofList]

lemma isClear_leafCondition (leaf : PlanLeaf) : IsClear (leafCondition leaf) := by
  have hrow : IsClearText "ai" := isClearText_ofList rfl
  cases leaf with
  | comparison c => exact isClear_condition hrow _
  | geo g => exact isClear_geoFragment hrow g

lemma isClear_onlyCreations (property : TimeProperty) : IsClear (onlyCreations property) := by
  unfold onlyCreations
  split
  · exact isClear_text.mpr (isClearText_ofList rfl)
  · exact isClear_nil

lemma isClear_windowRows (time : TimeQuery) (samples starts : RelationName) :
    IsClear (windowRows time samples starts) := by
  have htime := isClear_timeCondition (isClearText_ofList rfl : IsClearText "t") time
  simp only [windowRows, isClear_append, isClear_text, htime, and_true]
  and_intros <;> apply_rules [IsClearText.append, isClearText_relationName, isClearText_ofList]

/-- The fixed texts of a relation are clear, whatever the relation is made from. -/
theorem isClear_relation (r : Relation) : IsClear r.fragment := by
  cases r with
  | candidates filter =>
    have htype := isClear_restriction (isClearText_ofList rfl : IsClearText "latest.entity_type") filter.types
    have hid := isClear_restriction (isClearText_ofList rfl : IsClearText "latest.entity_id") filter.ids
    cases hpattern : filter.idPattern <;>
      simp only [Relation.fragment, hpattern, recordTable, isClear_append, isClear_text, isClear_bind, htype,
        hid, isClear_nil, and_true] <;>
      and_intros <;> apply_rules [IsClearText.append, isClearText_ofList]
  | samples time leaf =>
    have hcolumn := isClearText_timeColumn (isClearText_ofList rfl : IsClearText "ai") time.property
    have hwindow : IsClear (if time.carriesState then text (timeColumn "ai" time.property ++ " IS NOT NULL")
        else timeCondition (timeColumn "ai" time.property) time) := by
      split
      · exact isClear_text.mpr (hcolumn.append (isClearText_ofList rfl))
      · exact isClear_timeCondition hcolumn time
    simp only [Relation.fragment, instanceTable, isClear_append, isClear_text, isClear_bind,
      isClear_leafCondition, isClear_onlyCreations, hwindow, and_true]
    and_intros <;> apply_rules [IsClearText.append, isClearText_ofList]
  | starts time points =>
    have htime := isClear_timeCondition (isClearText_ofList rfl : IsClearText "r.t") time
    simp only [Relation.fragment, isClear_append, isClear_text, isClear_bind, htime, and_true]
    and_intros <;> apply_rules [IsClearText.append, isClearText_relationName, isClearText_ofList]
  | both left right | either left right =>
    have hleft := isClearText_relationName left
    have hright := isClearText_relationName right
    have hoverlap : IsClearText overlap := isClearText_ofList rfl
    simp only [Relation.fragment, isClear_text]
    repeat' apply IsClearText.append
    all_goals first | assumption | exact isClearText_ofList rfl
  | _ =>
    simp only [Relation.fragment, isClear_append, isClear_text, isClear_bind, isClear_windowRows, and_true]
    and_intros <;> apply_rules [IsClearText.append, isClearText_relationName, isClearText_ofList]

lemma isClear_withFragment (definitions : List Definition) : IsClear (withFragment definitions) := by
  have hdefinition (d : Definition) :
      IsClear (text (d.name.text ++ " AS (") ++ d.relation.fragment ++ text ")") := by
    simp only [isClear_append, isClear_text, isClear_relation, and_true]
    exact ⟨(isClearText_relationName d.name).append (isClearText_ofList rfl), isClearText_ofList rfl⟩
  refine isClear_append.mpr ⟨isClear_text.mpr (isClearText_ofList rfl),
    isClear_separated (isClearText_ofList rfl) fun f hf => ?_⟩
  obtain ⟨d, -, rfl⟩ := List.mem_map.mp hf
  exact hdefinition d

/-! ### Statements -/

lemma isClear_selectIntervals (page : Option PageRequest) : IsClear (selectIntervals page) := by
  cases page <;> simp only [selectIntervals, isClear_append, isClear_text, isClear_bind, and_true] <;>
    and_intros <;> apply_rules [IsClearText.append, isClearText_ofList]

lemma isClear_selectNext (size : Nat) : IsClear (selectNext size) := by
  simp only [selectNext, isClear_append, isClear_text, isClear_bind, and_true]
  exact isClearText_ofList rfl

lemma isClear_selectPrev (size : Nat) : IsClear (selectPrev size) := by
  simp only [selectPrev, isClear_append, isClear_text, isClear_bind, and_true]
  and_intros <;> apply_rules [IsClearText.append, isClearText_ofList]

lemma isClear_selectCount : IsClear selectCount := isClear_text.mpr (isClearText_ofList rfl)

lemma isClear_of_mem_selects {q : IntervalQuery} {f : Fragment} (hf : f ∈ (selects q).toList) : IsClear f := by
  obtain rfl | ⟨page, -, rfl | rfl | rfl⟩ := cases_of_mem_selects hf
  · exact isClear_selectIntervals q.page
  · exact isClear_selectNext page.size
  · exact isClear_selectPrev page.size
  · exact isClear_selectCount

lemma isClear_intervalFragments (q : IntervalQuery) : ∀ f ∈ (intervalFragments q).toList, IsClear f := by
  intro f hf
  rw [intervalFragments, IntervalStatements.toList_map, List.mem_map] at hf
  obtain ⟨select, hselect, rfl⟩ := hf
  exact isClear_append.mpr ⟨isClear_withFragment (definitionsOf q), isClear_of_mem_selects hselect⟩

lemma isClear_instancesFragment (q : InstanceQuery) : IsClear (instancesFragment q) := by
  have hcolumn := isClearText_timeColumn (isClearText_ofList rfl : IsClearText "ai") q.time.property
  have htime := isClear_timeCondition hcolumn q.time
  have hids := isClear_restriction (isClearText_ofList rfl : IsClearText "ai.attribute_id") q.attributeIds
  unfold instancesFragment valueColumns instanceTable
  cases q.order <;>
    simp only [isClear_append, isClear_text, isClear_bind, isClear_onlyCreations, htime, hids, and_true] <;>
    and_intros <;> apply_rules [IsClearText.append, isClearText_ofList]

/-- In each statement of an interval query and in the statement of an instance query the placeholders are
numbered from one on without a gap, one for each value, and each stands where its value belongs. An operand
that is rendered by itself and read back adds to a statement, whatever the statement has already, what the
operand adds when it is written there. -/
theorem placeholders_agree :
    (∀ q : IntervalQuery, List.Forall₂ Aligned (intervalStatements q).toList (intervalFragments q).toList) ∧
      (∀ q : InstanceQuery, Aligned (instancesStatement q) (instancesFragment q)) ∧
      ∀ (operand : Operand) (s : Statement),
        s.continuedBy (operand.fragment "ai").respliced = s.continuedBy (operand.fragment "ai") ∧
          s.continuedBy (operand.fragment "s").respliced = s.continuedBy (operand.fragment "s") := by
  refine ⟨fun q => ?_, fun q => aligned_render (isClear_instancesFragment q), fun operand s => ⟨?_, ?_⟩⟩
  · rw [intervalStatements, IntervalStatements.toList_map, List.forall₂_map_left_iff, List.forall₂_same]
    exact fun f hf => aligned_render (isClear_intervalFragments q f hf)
  · exact (isClear_operand (isClearText_ofList rfl) operand).continuedBy_respliced s
  · exact (isClear_operand (isClearText_ofList rfl) operand).continuedBy_respliced s

end EntityHistory.Sql
