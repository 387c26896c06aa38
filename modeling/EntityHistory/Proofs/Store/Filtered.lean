/-
Retrieving the instances of which a comparison holds.

With a comparison as the plan, the intervals of a query are those in which the samples of an attribute are
true. If no two instances of the attribute have one time, then the intervals cover just the instances of which
the comparison holds: a false one ends the run before it, and no run reaches over it. Merging the intervals
does not change what they cover, so that just these instances are retrieved.

* `Log.covers_leafIntervals_iff`: which instances the intervals of a leaf cover;
* `Log.filtered_retrieval_perm`: retrieval with a comparison is complete and retrieves nothing else.
-/
import EntityHistory.Proofs.Store.Retrieval
import EntityHistory.Proofs.Timeline.Carry

namespace EntityHistory.Log

open EntityInterval TimelinePoint

variable {log : Log} {filter : EntityFilter} {time : TimeQuery} {candidates : List String} {t : Instant}
  {i : AttributeInstance} {property : TimeProperty} {leaf : PlanLeaf}

/-! ### Samples of a leaf -/

/-- No two instances of one attribute of an entity have a time in common. -/
def HasDistinctTimes (log : Log) (property : TimeProperty) : Prop :=
  log.instances.Pairwise fun i j => i.entityId = j.entityId → i.attributeId = j.attributeId →
    i.time? property = j.time? property → i.time? property = none

instance (log : Log) (property : TimeProperty) : Decidable (log.HasDistinctTimes property) :=
  inferInstanceAs (Decidable (List.Pairwise _ _))

lemma mem_leafPoints [PatternEngine] {p : TimelinePoint} : p ∈ log.leafPoints candidates time leaf ↔
    ∃ i ∈ log.instances, i.attributeId = leaf.attributeId ∧ i.entityId ∈ candidates ∧
      ∃ t, i.time? time.property = some t ∧ p = ⟨i.entityId, t, log.leafHolds leaf i⟩ := by
  simp only [leafPoints, List.mem_filterMap, List.mem_filter, Bool.and_eq_true, decide_eq_true_eq,
    List.contains_iff_mem, Option.map_eq_some_iff]
  constructor
  · rintro ⟨i, ⟨hi, ha, he⟩, t, ht, rfl⟩
    exact ⟨i, hi, ha, he, t, ht, rfl⟩
  · rintro ⟨i, hi, ha, he, t, ht, rfl⟩
    exact ⟨i, ⟨hi, ha, he⟩, t, ht, rfl⟩

/-- Then no entity has two different points at one time either. -/
lemma onePerTime_leafPoints [PatternEngine] (h : log.HasDistinctTimes time.property) (leaf : PlanLeaf) :
    OnePerTime (log.leafPoints candidates time leaf) := by
  intro p hp r hr he ht
  obtain ⟨i, hi, hia, -, s, hs, rfl⟩ := mem_leafPoints.1 hp
  obtain ⟨j, hj, hja, -, u, hu, rfl⟩ := mem_leafPoints.1 hr
  obtain rfl : s = u := ht
  have hsame : i = j := by
    by_contra hne
    have hsymm : Std.Symm fun i j : AttributeInstance => i.entityId = j.entityId →
        i.attributeId = j.attributeId → i.time? time.property = j.time? time.property →
          i.time? time.property = none :=
      ⟨fun i j h he ha ht => by rw [ht, h he.symm ha.symm ht.symm]⟩
    have hnone := h.forall hi hj hne he (hia.trans hja.symm) (hs.trans hu.symm)
    rw [hs] at hnone
    exact absurd hnone (by simp)
  rw [hsame]

/-- If a query carries no states, then its intervals cover an accepted point just when the point is true. -/
lemma covers_intervals_iff {points : List TimelinePoint} {p : TimelinePoint} (h : OnePerTime points)
    (hq : time.carriesState = false) (hp : p ∈ points) (haccepts : time.accepts p.time = true) :
    covers (TimelinePoint.intervals points time) p.entityId p.time = true ↔ p.result = true := by
  have hintervals :
      TimelinePoint.intervals points time = collapse (points.filter fun p => time.accepts p.time) := by
    rw [TimelinePoint.intervals, hq]
    rfl
  have hpa : p ∈ points.filter fun p => time.accepts p.time := List.mem_filter.2 ⟨hp, haccepts⟩
  rw [hintervals]
  constructor
  · intro hcovers
    obtain ⟨r, hr, hre, hrt, hresult, hlast⟩ := exists_last_of_covers hcovers
    -- the last point until the time of `p` has this time, and is `p`
    have hpr : p.time ≤ r.time := TimelinePoint.time_le_of_isBefore (hlast p hpa rfl le_rfl) hre.symm
    rwa [h p hp r (List.mem_of_mem_filter hr) hre.symm (le_antisymm hpr hrt)]
  · exact covers_collapse_of_mem hpa

/-- The intervals of a leaf cover an accepted instance of its attribute just when the instance is one of a
candidate and the leaf holds of it. -/
lemma covers_leafIntervals_iff [PatternEngine] (h : log.HasDistinctTimes time.property) (hq : time.carriesState = false)
    (hi : i ∈ log.instances) (ha : i.attributeId = leaf.attributeId)
    (ht : i.time? time.property = some t) (haccepts : time.accepts t = true) :
    covers (log.leafIntervals candidates time leaf) i.entityId t = true ↔
      i.entityId ∈ candidates ∧ log.leafHolds leaf i = true := by
  have hone : OnePerTime (log.leafPoints candidates time leaf) := onePerTime_leafPoints h leaf
  by_cases he : i.entityId ∈ candidates
  · have hp : ⟨i.entityId, t, log.leafHolds leaf i⟩ ∈ log.leafPoints candidates time leaf :=
      mem_leafPoints.2 ⟨i, hi, ha, he, t, ht, rfl⟩
    rw [leafIntervals, and_iff_right he]
    exact covers_intervals_iff hone hq hp haccepts
  · refine iff_of_false (fun hcovers => ?_) fun hboth => he hboth.1
    -- an entity that is covered has a point, and only candidates have points
    rw [leafIntervals, TimelinePoint.intervals, hq] at hcovers
    obtain ⟨p, hp, hpe, -⟩ := exists_last_of_covers hcovers
    obtain ⟨j, -, -, hj, u, -, rfl⟩ := mem_leafPoints.1 (List.mem_of_mem_filter hp)
    exact he (hpe ▸ hj)

lemma canonical_leafIntervals [PatternEngine] (log : Log) (candidates : List String) (time : TimeQuery)
    (leaf : PlanLeaf) :
    Canonical (EntityInterval.normalize (log.leafIntervals candidates time leaf)) :=
  canonical_normalize fun _ => start_le_stop_of_mem_collapse

/-! ### Retrieval with a comparison -/

/-- Of the sub-instances of a log a comparison only looks at those of the instance. -/
lemma holds_filter [PatternEngine] (c : Comparison) (i : AttributeInstance) (subs : List SubInstance)
    (createdAt : Option Instant) :
    c.holds i (subs.filter fun s => s.parentId = i.id) createdAt = c.holds i subs createdAt := by
  have hown : ∀ subAttribute, (subs.filter fun s => s.parentId = i.id).filter (fun s =>
      s.parentId = i.id && s.attributeId = subAttribute) =
        subs.filter fun s => s.parentId = i.id && s.attributeId = subAttribute := by
    intro subAttribute
    rw [List.filter_filter]
    refine List.filter_congr fun s _ => ?_
    cases decide (s.parentId = i.id) <;> simp
  rw [Comparison.holds, Comparison.holds]
  cases c.subAttribute with
  | none => rfl
  | some subAttribute => simp only [hown]

/-- With a comparison as the plan and a span as the time, what is retrieved of its attribute over all intervals
are the instances of candidates that the query accepts and of which the comparison holds, each of them once;
for a log in which no two instances of an attribute of an entity have one time. -/
theorem filtered_retrieval_perm [engine : PatternEngine] {pattern : Option engine.Compiled} (log : Log)
    (filter : EntityFilter) (start stop : Instant)
    (property : TimeProperty) (inclusive : Bool) (c : Comparison) (limit : Nat) (order : SortOrder)
    (hpattern : filter.pattern = .ok pattern) (hdistinct : log.HasDistinctTimes property)
    (hlimit : log.instances.length ≤ limit) :
    ∃ candidates page, log.candidates filter = .ok candidates ∧
      log.findIntervals ⟨filter, ⟨.between start stop, property, inclusive⟩, some (.leaf (.comparison c)),
        none⟩ = .ok page ∧
      (log.instancesOver page.intervals ⟨.between start stop, property, inclusive⟩ [c.attributeId] limit
          order).Perm
        (log.instances.filter fun i => i.attributeId = c.attributeId && candidates.contains i.entityId &&
          (i.time? property).any (TimeQuery.accepts ⟨.between start stop, property, inclusive⟩) &&
          c.holds i (log.subInstances.filter fun s => s.parentId = i.id) (log.createdAt i)) := by
  obtain ⟨candidates, hcandidates, -⟩ := exists_candidates log hpattern
  refine ⟨candidates, _, hcandidates, findIntervals_eq_ok hcandidates, ?_⟩
  have hplan : log.intervals candidates ⟨.between start stop, property, inclusive⟩
      (some (.leaf (.comparison c))) =
        log.leafIntervals candidates ⟨.between start stop, property, inclusive⟩ (.comparison c) := by
    rw [Log.intervals, Plan.evaluate]
    rfl
  rw [hplan]
  refine (instancesOver_perm (canonical_leafIntervals _ _ _ _).apart hlimit).trans (List.Perm.of_eq ?_)
  refine List.filter_congr fun i hi => ?_
  rw [holds_filter, Bool.eq_iff_iff]
  simp only [Bool.and_eq_true, Bool.or_eq_true, decide_eq_true_eq, List.contains_iff_mem, List.mem_singleton,
    Option.any_eq_true, covers_normalize, reduceCtorEq, false_or]
  have hcovers : i.attributeId = c.attributeId → ∀ t, i.time? property = some t →
      TimeQuery.accepts ⟨.between start stop, property, inclusive⟩ t = true →
        (covers (log.leafIntervals candidates ⟨.between start stop, property, inclusive⟩ (.comparison c))
          i.entityId t = true ↔ i.entityId ∈ candidates ∧ c.holds i log.subInstances (log.createdAt i) = true) :=
    fun ha t ht haccepts => covers_leafIntervals_iff hdistinct rfl hi ha ht haccepts
  constructor
  · rintro ⟨ha, t, ht, hspanned, haccepts⟩
    obtain ⟨he, hholds⟩ := (hcovers ha t ht haccepts).1 hspanned
    exact ⟨⟨⟨ha, he⟩, t, ht, haccepts⟩, hholds⟩
  · rintro ⟨⟨⟨ha, he⟩, t, ht, haccepts⟩, hholds⟩
    exact ⟨ha, t, ht, (hcovers ha t ht haccepts).2 ⟨he, hholds⟩, haccepts⟩

/-- A log with three observations, the second of which differs from the others. -/
def risesAndFalls : Log where
  records := [creation "urn:a"]
  instances := [observation "1" 1 7, observation "2" 2 3, observation "3" 3 7]

/-- The comparison for the greater observations. -/
def isGreat : Comparison where
  attributeId := "t"
  subAttribute := none
  target := .value
  operator := .greater
  value := .number (Double.ofInt 5)

theorem filtered_retrieval_perm_risesAndFalls :
    ∃ candidates page, risesAndFalls.candidates {} = .ok candidates ∧
      risesAndFalls.findIntervals ⟨{}, ⟨.between (.ofSecond 1) (.ofSecond 3), .observedAt, true⟩,
        some (.leaf (.comparison isGreat)), none⟩ = .ok page ∧
      (risesAndFalls.instancesOver page.intervals ⟨.between (.ofSecond 1) (.ofSecond 3), .observedAt, true⟩ ["t"]
          3 .descending).Perm
        (risesAndFalls.instances.filter fun i => i.attributeId = "t" && candidates.contains i.entityId &&
          (i.time? .observedAt).any
            (TimeQuery.accepts ⟨.between (.ofSecond 1) (.ofSecond 3), .observedAt, true⟩) &&
          isGreat.holds i (risesAndFalls.subInstances.filter fun s => s.parentId = i.id)
            (risesAndFalls.createdAt i)) :=
  filtered_retrieval_perm risesAndFalls {} (.ofSecond 1) (.ofSecond 3) .observedAt true isGreat 3 .descending rfl
    (by decide) (by decide)

end EntityHistory.Log
