/-
Plans as formulas.

A plan is read as a Boolean formula over its leaves: a conjunction, a disjunction, or a leaf itself, where a
conjunction of nothing counts as false. Evaluating the plan on intervals agrees with this reading at every
instant of every entity, although it does not ask for leaves that cannot change an empty intersection. The
invariant is that a list of intervals represents a truth function: it is canonical, and it covers an entity
exactly where the function is true.

* `Plan.yields_evaluate`: whatever else the leaves do, the value of a plan is that of its leaves' values;
* `Plan.represents_intervals`: this value represents the formula;
* `Plan.evaluate_represents`: the two together.
-/
import EntityHistory.Interval.Plan
import EntityHistory.Proofs.Interval.Algebra
import EntityHistory.Proofs.Running

namespace EntityHistory

namespace EntityInterval

/-- A canonical list of intervals covers an entity exactly where a function is true. -/
structure Represents (is : List EntityInterval) (truth : String → Instant → Bool) : Prop where
  canonical : Canonical is
  covers_eq : ∀ e t, covers is e t = truth e t

variable {as bs : List EntityInterval} {p q : String → Instant → Bool}

lemma represents_nil : Represents [] fun _ _ => false := ⟨canonical_nil, fun _ _ => rfl⟩

lemma Represents.intersect (ha : Represents as p) (hb : Represents bs q) :
    Represents (intersect as bs) fun e t => p e t && q e t := by
  refine ⟨canonical_intersect ha.canonical hb.canonical, fun e t => ?_⟩
  rw [Bool.eq_iff_iff, covers_intersect ha.canonical hb.canonical, Bool.and_eq_true,
    ha.covers_eq, hb.covers_eq]

lemma Represents.union (ha : Represents as p) (hb : Represents bs q) :
    Represents (union as bs) fun e t => p e t || q e t := by
  refine ⟨canonical_union ha.canonical hb.canonical, fun e t => ?_⟩
  rw [Bool.eq_iff_iff, covers_union, Bool.or_eq_true, ha.covers_eq, hb.covers_eq]

end EntityInterval

namespace Plan

open EntityInterval

/-! ### The reading of a plan -/

mutual

/-- Whether a plan is true when its leaves are true or false as given. -/
def holds (truth : PlanLeaf → Bool) : Plan → Bool
  | .leaf l => truth l
  | .all [] => false
  | .all (child :: children) => holds truth child && allHold truth children
  | .any children => anyHolds truth children

/-- Whether all of some plans are true. -/
def allHold (truth : PlanLeaf → Bool) : List Plan → Bool
  | [] => true
  | child :: children => holds truth child && allHold truth children

/-- Whether any of some plans is true. -/
def anyHolds (truth : PlanLeaf → Bool) : List Plan → Bool
  | [] => false
  | child :: children => holds truth child || anyHolds truth children

end

lemma allHold_eq_all (truth : PlanLeaf → Bool) (children : List Plan) :
    allHold truth children = children.all (holds truth) := by
  induction children with
  | nil => rfl
  | cons child children ih => rw [allHold, ih, List.all_cons]

lemma anyHolds_eq_any (truth : PlanLeaf → Bool) (children : List Plan) :
    anyHolds truth children = children.any (holds truth) := by
  induction children with
  | nil => rfl
  | cons child children ih => rw [anyHolds, ih, List.any_cons]

/-- Plans by induction: what holds of leaves, and of a conjunction or disjunction when it holds of all its
members, holds of every plan. -/
@[elab_as_elim]
theorem induction {motive : Plan → Prop} (leaf : ∀ l, motive (.leaf l))
    (all : ∀ children, (∀ c ∈ children, motive c) → motive (.all children))
    (any : ∀ children, (∀ c ∈ children, motive c) → motive (.any children)) (p : Plan) : motive p := by
  refine @Plan.rec motive (fun ps => ∀ c ∈ ps, motive c) leaf all any ?_ ?_ p
  · simp
  · intro p ps hp hps
    exact List.forall_mem_cons.2 ⟨hp, hps⟩

lemma mem_leavesOf {children : List Plan} {l : PlanLeaf} :
    l ∈ leavesOf children ↔ ∃ c ∈ children, l ∈ c.leaves := by
  induction children with
  | nil => simp [leavesOf]
  | cons child children ih => simp [leavesOf, ih]

/-! ### Evaluation with effects -/

section Effects

variable {ε σ : Type} {intervalsOf : PlanLeaf → ExceptT ε (StateM σ) (List EntityInterval)}
  {f : PlanLeaf → List EntityInterval} {p : Plan} {children : List Plan}

/-- The intervals of a plan when those of its leaves are known. -/
def intervals (f : PlanLeaf → List EntityInterval) (p : Plan) : List EntityInterval :=
  (p.evaluate (m := Id) f).run

/-- The intersection of known intervals with those of some plans. -/
def intersectIntervals (f : PlanLeaf → List EntityInterval) (is : List EntityInterval)
    (children : List Plan) : List EntityInterval :=
  (intersectWith (m := Id) f is children).run

/-- The union of known intervals with those of some plans. -/
def uniteIntervals (f : PlanLeaf → List EntityInterval) (is : List EntityInterval)
    (children : List Plan) : List EntityInterval :=
  (uniteWith (m := Id) f is children).run

/-- Whatever the state, a computation succeeds with the given value. -/
def Yields (x : ExceptT ε (StateM σ) (List EntityInterval)) (is : List EntityInterval) : Prop :=
  ∀ s, ∃ s', Gives x s is s'

lemma yields_intersectWith (h : ∀ c ∈ children, Yields (c.evaluate intervalsOf) (c.intervals f))
    (is : List EntityInterval) :
    Yields (intersectWith intervalsOf is children) (intersectIntervals f is children) := by
  induction children generalizing is with
  | nil => exact fun s => ⟨s, gives_pure _ s⟩
  | cons child children ih =>
    intro s
    rw [List.forall_mem_cons] at h
    by_cases he : is = []
    · simp only [intersectWith, intersectIntervals, he, if_true]
      exact ⟨s, gives_pure _ s⟩
    · simp only [intersectWith, intersectIntervals, he, if_false]
      obtain ⟨s', hs'⟩ := h.1 s
      obtain ⟨s'', hs''⟩ := ih h.2 (EntityInterval.intersect is (child.intervals f)) s'
      exact ⟨s'', hs'.bind hs''⟩

lemma yields_uniteWith (h : ∀ c ∈ children, Yields (c.evaluate intervalsOf) (c.intervals f))
    (is : List EntityInterval) :
    Yields (uniteWith intervalsOf is children) (uniteIntervals f is children) := by
  induction children generalizing is with
  | nil => exact fun s => ⟨s, gives_pure _ s⟩
  | cons child children ih =>
    intro s
    rw [List.forall_mem_cons] at h
    obtain ⟨s', hs'⟩ := h.1 s
    obtain ⟨s'', hs''⟩ := ih h.2 (EntityInterval.union is (child.intervals f)) s'
    exact ⟨s'', hs'.bind hs''⟩

/-- If the leaves of a plan succeed with known intervals, whatever the state, so does the plan, with the
intervals that it has for them. -/
lemma yields_evaluate (h : ∀ l ∈ p.leaves, Yields (intervalsOf l) (f l)) :
    Yields (p.evaluate intervalsOf) (p.intervals f) := by
  induction p using Plan.induction with
  | leaf l => exact h l (by simp [leaves])
  | all children ih =>
    have hc : ∀ c ∈ children, Yields (c.evaluate intervalsOf) (c.intervals f) :=
      fun c hc => ih c hc fun l hl => h l (mem_leavesOf.2 ⟨c, hc, hl⟩)
    cases children with
    | nil => exact fun s => ⟨s, gives_pure _ s⟩
    | cons child children =>
      intro s
      rw [List.forall_mem_cons] at hc
      obtain ⟨s', hs'⟩ := hc.1 s
      obtain ⟨s'', hs''⟩ := yields_intersectWith hc.2 (child.intervals f) s'
      exact ⟨s'', hs'.bind hs''⟩
  | any children ih =>
    exact yields_uniteWith (fun c hc => ih c hc fun l hl => h l (mem_leavesOf.2 ⟨c, hc, hl⟩)) []

end Effects

/-! ### The value of a plan as a formula -/

section Formula

variable {f : PlanLeaf → List EntityInterval} {p : Plan} {children : List Plan}
  {is : List EntityInterval} {truth : String → Instant → Bool}

/-- The truth of a plan for an entity at an instant, when its leaves are true where they are covered. -/
def coveredTruth (f : PlanLeaf → List EntityInterval) (p : Plan) (e : String) (t : Instant) : Bool :=
  p.holds fun l => covers (f l) e t

lemma represents_intersectIntervals
    (h : ∀ c ∈ children, Represents (c.intervals f) (c.coveredTruth f)) (his : Represents is truth) :
    Represents (intersectIntervals f is children)
      fun e t => truth e t && allHold (fun l => covers (f l) e t) children := by
  induction children generalizing is truth with
  | nil => simpa [intersectIntervals, intersectWith, allHold] using his
  | cons child children ih =>
    rw [List.forall_mem_cons] at h
    by_cases he : is = []
    · -- nothing is left that the other plans could cut down
      have hfalse : ∀ e t, truth e t = false := fun e t => by
        rw [← his.covers_eq, he, covers_nil]
      simp only [intersectIntervals, intersectWith, he, if_true, hfalse, Bool.false_and]
      exact represents_nil
    · have hstep := ih h.2 (his.intersect h.1)
      simp only [intersectIntervals, intersectWith, he, if_false, allHold, ← Bool.and_assoc]
      exact hstep

lemma represents_uniteIntervals
    (h : ∀ c ∈ children, Represents (c.intervals f) (c.coveredTruth f)) (his : Represents is truth) :
    Represents (uniteIntervals f is children)
      fun e t => truth e t || anyHolds (fun l => covers (f l) e t) children := by
  induction children generalizing is truth with
  | nil => simpa [uniteIntervals, uniteWith, anyHolds] using his
  | cons child children ih =>
    rw [List.forall_mem_cons] at h
    have hstep := ih h.2 (his.union h.1)
    simp only [uniteIntervals, uniteWith, anyHolds, ← Bool.or_assoc]
    exact hstep

/-- The value of a plan over canonical leaves represents the formula that the plan is. -/
lemma represents_intervals (h : ∀ l ∈ p.leaves, Canonical (f l)) :
    Represents (p.intervals f) (p.coveredTruth f) := by
  induction p using Plan.induction with
  | leaf l => exact ⟨h l (by simp [leaves]), fun _ _ => rfl⟩
  | all children ih =>
    have hc : ∀ c ∈ children, Represents (c.intervals f) (c.coveredTruth f) :=
      fun c hc => ih c hc fun l hl => h l (mem_leavesOf.2 ⟨c, hc, hl⟩)
    cases children with
    | nil => exact represents_nil
    | cons child children =>
      rw [List.forall_mem_cons] at hc
      exact represents_intersectIntervals hc.2 hc.1
  | any children ih =>
    have hc : ∀ c ∈ children, Represents (c.intervals f) (c.coveredTruth f) :=
      fun c hc => ih c hc fun l hl => h l (mem_leavesOf.2 ⟨c, hc, hl⟩)
    have hu := represents_uniteIntervals hc represents_nil
    simp only [Bool.false_or] at hu
    exact hu

end Formula

/-- **A plan evaluates to the formula that it is.**  If every leaf succeeds, whatever it does to the state,
and gives a canonical list of intervals, then so does the plan; and its intervals cover an entity at an
instant exactly when the plan is true of the leaves that are covered there. -/
theorem evaluate_represents {ε σ : Type}
    {intervalsOf : PlanLeaf → ExceptT ε (StateM σ) (List EntityInterval)}
    {f : PlanLeaf → List EntityInterval} (p : Plan)
    (hyields : ∀ l ∈ p.leaves, ∀ s, ∃ s', Gives (intervalsOf l) s (f l) s')
    (hcanonical : ∀ l ∈ p.leaves, Canonical (f l)) (s : σ) :
    ∃ is s', Gives (p.evaluate intervalsOf) s is s' ∧ Canonical is ∧
      ∀ e t, covers is e t = p.holds fun l => covers (f l) e t := by
  obtain ⟨s', hs'⟩ := yields_evaluate hyields s
  have hr := represents_intervals hcanonical
  exact ⟨p.intervals f, s', hs', hr.canonical, hr.covers_eq⟩

/-- A leaf that looks at an attribute. -/
def leafOf (attributeId : String) : PlanLeaf :=
  .comparison ⟨attributeId, none, .value, .equal, .boolean true⟩

/-- A conjunction over a disjunction, whose leaves touch and overlap and count how often they are asked. -/
theorem evaluate_represents_counting :
    let f : PlanLeaf → List EntityInterval := fun l =>
      if l.attributeId = "a" then [⟨"e", ⟨0⟩, ⟨4⟩⟩, ⟨"e", ⟨6⟩, ⟨9⟩⟩, ⟨"f", ⟨1⟩, ⟨2⟩⟩]
      else [⟨"e", ⟨4⟩, ⟨5⟩⟩, ⟨"f", ⟨2⟩, ⟨3⟩⟩]
    let intervalsOf : PlanLeaf → ExceptT String (StateM Nat) (List EntityInterval) :=
      fun l => do modify (· + 1); pure (f l)
    let p := Plan.all [.any [.leaf (leafOf "a"), .leaf (leafOf "b")], .leaf (leafOf "b")]
    (∀ l ∈ p.leaves, ∀ s, ∃ s', Gives (intervalsOf l) s (f l) s') ∧
      (∀ l ∈ p.leaves, Canonical (f l)) ∧
      ∃ is s', Gives (p.evaluate intervalsOf) 0 is s' ∧ Canonical is ∧
        ∀ e t, covers is e t = p.holds fun l => covers (f l) e t := by
  intro f intervalsOf p
  have hyields : ∀ l ∈ p.leaves, ∀ s, ∃ s', Gives (intervalsOf l) s (f l) s' :=
    fun l _ s => ⟨s + 1, rfl⟩
  have hcanonical : ∀ l ∈ p.leaves, Canonical (f l) := by
    intro l _
    by_cases h : l.attributeId = "a"
    · simp only [f, h, if_true]
      decide
    · simp only [f, h, if_false]
      decide
  exact ⟨hyields, hcanonical, evaluate_represents p hyields hcanonical 0⟩

end Plan

end EntityHistory
