/-
Plans of queries.

The plan of a query is made by cutting its rows into groups, and a group or a row of groups that has one member
only gives way to this member. Here it is shown that nothing of the query is lost by this: the leaves of the
plan are the comparisons of the query in their order, with the geographic query after them, and as a formula
the plan is the infix reading of the query.

* `Plan.leaves_ofTerm`: the leaves of the plan of a term;
* `Plan.IsReading.reads_ofTerm`: its value, by any way of reading plans as formulas;
* `Plan.build_reads_infix`: the two for a query together with a geographic query.
-/
import EntityHistory.Proofs.Interval.Plan
import EntityHistory.Proofs.Query.Infix

namespace EntityHistory.Plan

open QueryTerm (Reads)

/-! ### Leaves -/

lemma leavesOf_eq_flatMap (plans : List Plan) : leavesOf plans = plans.flatMap leaves := by
  induction plans with
  | nil => rfl
  | cons p plans ih => rw [leavesOf, ih, List.flatMap_cons]

@[simp] lemma leaves_allOf (plans : List Plan) : (allOf plans).leaves = plans.flatMap leaves := by
  unfold allOf
  split
  · simp
  · rw [leaves, leavesOf_eq_flatMap]

@[simp] lemma leaves_anyOf (plans : List Plan) : (anyOf plans).leaves = plans.flatMap leaves := by
  unfold anyOf
  split
  · simp
  · rw [leaves, leavesOf_eq_flatMap]

lemma ofTerms_eq_map (terms : List QueryTerm) : ofTerms terms = terms.map ofTerm := by
  induction terms with
  | nil => rfl
  | cons t terms ih => rw [ofTerms, ih, List.map_cons]

lemma leavesOf_eq_flatMap_leaves (terms : List QueryTerm) :
    QueryTerm.leavesOf terms = terms.flatMap QueryTerm.leaves := by
  induction terms with
  | nil => rfl
  | cons t terms ih => rw [QueryTerm.leavesOf, ih, List.flatMap_cons]

/-- The plan of a row of terms, by the groups of the row. -/
lemma ofTerm_logical {terms : List QueryTerm} {connectors : List Connector}
    (h : terms.length = connectors.length + 1) :
    ofTerm (.logical terms connectors) =
      anyOf ((groups terms connectors).map fun group => allOf (group.map ofTerm)) := by
  rw [ofTerm, ofTerms_eq_map, groups_map ofTerm h, List.map_map]
  rfl

/-- The leaves of the plan of a term are its comparisons from left to right. -/
lemma leaves_ofTerm {t : QueryTerm} (ht : t.Proper) : (ofTerm t).leaves = t.leaves.map .comparison := by
  induction t using QueryTerm.induction with
  | comparison c => rfl
  | logical terms connectors ih =>
    obtain ⟨-, h, hproper⟩ := QueryTerm.proper_logical_iff.1 ht
    have hterms : terms.flatMap (fun t => (ofTerm t).leaves) =
        terms.flatMap fun t => t.leaves.map PlanLeaf.comparison :=
      List.flatMap_congr fun t ht => ih t ht (hproper t ht)
    calc (ofTerm (.logical terms connectors)).leaves
        = (groups terms connectors).flatMap fun group => group.flatMap fun t => (ofTerm t).leaves := by
          rw [ofTerm_logical h, leaves_anyOf, List.flatMap_map]
          simp only [leaves_allOf, List.flatMap_map]
      _ = terms.flatMap fun t => (ofTerm t).leaves := by
          conv_rhs => rw [← flatten_groups h, List.flatten_eq_flatMap, List.flatMap_assoc]
          rfl
      _ = (QueryTerm.leaves (.logical terms connectors)).map .comparison := by
          rw [hterms, QueryTerm.leaves, leavesOf_eq_flatMap_leaves, List.map_flatMap]

/-! ### Plans as formulas -/

/-- Whether a plan is true as a formula: a conjunction if all its members are, a disjunction if any is. -/
def isTrue (truth : PlanLeaf → Bool) : Plan → Bool
  | .leaf l => truth l
  | .all children => children.attach.all fun ⟨child, _⟩ => isTrue truth child
  | .any children => children.attach.any fun ⟨child, _⟩ => isTrue truth child

/-- A way of reading plans as formulas; what a conjunction of nothing means is left open. -/
structure IsReading (truth : PlanLeaf → Bool) (value : Plan → Bool) : Prop where
  leaf : ∀ l, value (.leaf l) = truth l
  all : ∀ children, children ≠ [] → value (.all children) = children.all value
  any : ∀ children, value (.any children) = children.any value

variable {truth : PlanLeaf → Bool} {value : Plan → Bool}

lemma isReading_isTrue (truth : PlanLeaf → Bool) : IsReading truth (isTrue truth) where
  leaf l := by rw [isTrue]
  all children _ := by simp [isTrue]
  any children := by simp [isTrue]

/-- The formula that evaluation follows is such a reading. -/
lemma isReading_holds (truth : PlanLeaf → Bool) : IsReading truth (holds truth) where
  leaf l := by rw [holds]
  all children hne := by
    obtain ⟨child, children, rfl⟩ := List.exists_cons_of_ne_nil hne
    rw [holds, allHold_eq_all, List.all_cons]
  any children := by rw [holds, anyHolds_eq_any]

namespace IsReading

lemma allOf (h : IsReading truth value) {plans : List Plan} (hne : plans ≠ []) :
    value (allOf plans) = plans.all value := by
  unfold Plan.allOf
  split
  · simp
  · exact h.all plans hne

lemma anyOf (h : IsReading truth value) (plans : List Plan) : value (anyOf plans) = plans.any value := by
  unfold Plan.anyOf
  split
  · simp
  · exact h.any plans

lemma ofTerm_logical (h : IsReading truth value) {terms : List QueryTerm} {connectors : List Connector}
    (hlength : terms.length = connectors.length + 1) :
    value (ofTerm (.logical terms connectors)) =
      (groups terms connectors).any fun group => group.all fun t => value (ofTerm t) := by
  have hgroups : ∀ group ∈ groups terms connectors,
      value (Plan.allOf (group.map ofTerm)) = group.all fun t => value (ofTerm t) := by
    intro group hgroup
    have hne : group.map ofTerm ≠ [] := by simpa using ne_nil_of_mem_groups hlength group hgroup
    rw [h.allOf hne, List.all_map]
    rfl
  calc value (ofTerm (.logical terms connectors))
      = ((groups terms connectors).map fun group => value (Plan.allOf (group.map ofTerm))).any id := by
        rw [Plan.ofTerm_logical hlength, h.anyOf, List.any_map, List.any_map]
        rfl
    _ = ((groups terms connectors).map fun group => group.all fun t => value (ofTerm t)).any id := by
        rw [List.map_congr_left hgroups]
    _ = (groups terms connectors).any fun group => group.all fun t => value (ofTerm t) := by
        rw [List.any_map]
        rfl

/-- The plan of a term has the value of the term's infix form. -/
lemma reads_ofTerm (h : IsReading truth value) {t : QueryTerm} (ht : t.Proper) :
    Reads (fun c => truth (.comparison c)) .disjunction t.tokens (value (ofTerm t)) :=
  (QueryTerm.reads_tokens (fun t => value (ofTerm t)) (fun c => h.leaf (.comparison c))
    (fun _ _ hlength => h.ofTerm_logical hlength) ht).1

end IsReading

/-- **The plan of a query is its infix reading.**  For a proper term and possibly a geographic query there is
a plan. Its leaves are the comparisons of the term from left to right and then the geographic query. However
leaves are true or false, the infix form of the term has exactly one reading, and the plan is true as a
formula when this reading and the geographic query are; evaluation follows the same formula. -/
theorem build_reads_infix (t : QueryTerm) (ht : t.Proper) (geo : Option GeoQuery) :
    ∃ p, build (some t) geo = some p ∧
      p.leaves = t.leaves.map PlanLeaf.comparison ++ (geo.map PlanLeaf.geo).toList ∧
      ∀ truth : PlanLeaf → Bool, ∃ b,
        (∀ b', Reads (fun c => truth (.comparison c)) .disjunction t.tokens b' ↔ b' = b) ∧
        p.isTrue truth = (b && (geo.map PlanLeaf.geo).all truth) ∧ p.holds truth = p.isTrue truth := by
  have hunique : ∀ truth : PlanLeaf → Bool, ∀ b',
      Reads (fun c => truth (.comparison c)) .disjunction t.tokens b' ↔ b' = (ofTerm t).isTrue truth := by
    intro truth b'
    have hreads := (isReading_isTrue truth).reads_ofTerm ht
    refine ⟨fun h => h.value_eq hreads, ?_⟩
    rintro rfl
    exact hreads
  have hholds : ∀ truth, (ofTerm t).holds truth = (ofTerm t).isTrue truth := fun truth =>
    ((isReading_holds truth).reads_ofTerm ht).value_eq ((isReading_isTrue truth).reads_ofTerm ht)
  cases geo with
  | none =>
    refine ⟨ofTerm t, rfl, by simp [leaves_ofTerm ht], fun truth => ⟨_, hunique truth, ?_, hholds truth⟩⟩
    simp
  | some g =>
    refine ⟨.all [ofTerm t, .leaf (.geo g)], rfl, ?_, fun truth => ⟨_, hunique truth, ?_, ?_⟩⟩
    · simp [leaves, leavesOf_eq_flatMap, leaves_ofTerm ht]
    · simp [isTrue]
    · simp [holds, allHold, isTrue, hholds]

/-- A term that asks whether an attribute is true. -/
def termOf (attributeId : String) : QueryTerm :=
  .comparison ⟨attributeId, none, .value, .equal, .boolean true⟩

/-- A row in a row: `(a|b;c);d` together with a geographic query. -/
theorem build_reads_infix_nested :
    let t := QueryTerm.logical
      [.logical [termOf "a", termOf "b", termOf "c"] [.or, .and], termOf "d"] [.and]
    let geo : GeoQuery := ⟨.within, ⟨.point [], {}⟩, "location"⟩
    t.Proper ∧ ∃ p, build (some t) (some geo) = some p ∧
      p.leaves = t.leaves.map PlanLeaf.comparison ++ [.geo geo] ∧
      ∀ truth : PlanLeaf → Bool, ∃ b,
        (∀ b', Reads (fun c => truth (.comparison c)) .disjunction t.tokens b' ↔ b' = b) ∧
        p.isTrue truth = (b && truth (.geo geo)) ∧ p.holds truth = p.isTrue truth := by
  intro t geo
  have ht : t.Proper := by simp [t, termOf, QueryTerm.Proper, QueryTerm.AllProper]
  exact ⟨ht, build_reads_infix t ht (some geo)⟩

end EntityHistory.Plan
