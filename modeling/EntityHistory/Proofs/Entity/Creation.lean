/-
Creation times.

Of ascending creation times the one that an instance belongs to is the latest that is not later than the
instance. An instance that is a creation itself therefore belongs to itself.

* `creationAt_latest`: the creation is the latest one until then;
* `isCreationAt_creationAt`: the creation of an attribute at an instant;
* `creationAt_of_create`: a creation is its own.
-/
import Mathlib.Order.Bounds.Basic
import EntityHistory.Entity.Creation
import EntityHistory.Proofs.Sorting
import EntityHistory.Proofs.Time.Order

namespace EntityHistory

variable {creations : List Instant} {instances : List AttributeInstance} {c t : Instant}
  {entityId attributeId : String} {i : AttributeInstance}

/-- The times at which an attribute of an entity was created until an instant. -/
def createdUntil (instances : List AttributeInstance) (entityId attributeId : String) (t : Instant) : Set Instant :=
  {c | c ≤ t ∧ ∃ i ∈ instances,
    i.entityId = entityId ∧ i.attributeId = attributeId ∧ i.mode = .create ∧ i.writtenAt = c}

/-- The creation of an attribute at an instant: the latest one until then, or the low water mark if there is none. -/
def IsCreationAt (instances : List AttributeInstance) (entityId attributeId : String) (t c : Instant) : Prop :=
  IsGreatest (createdUntil instances entityId attributeId t) c ∨
    createdUntil instances entityId attributeId t = ∅ ∧ c = lowWaterMark

lemma mem_takeWhile_le (h : creations.Pairwise (· ≤ ·)) :
    c ∈ creations.takeWhile (fun c => c ≤ t) ↔ c ∈ creations ∧ c ≤ t := by
  induction creations with
  | nil => simp
  | cons first rest ih =>
    obtain ⟨hfirst, hrest⟩ := List.pairwise_cons.1 h
    by_cases hle : first ≤ t
    · rw [List.takeWhile_cons_of_pos (by simpa using hle), List.mem_cons, List.mem_cons, ih hrest]
      constructor
      · rintro (rfl | ⟨hc, hct⟩)
        · exact ⟨Or.inl rfl, hle⟩
        · exact ⟨Or.inr hc, hct⟩
      · rintro ⟨rfl | hc, hct⟩
        · exact Or.inl rfl
        · exact Or.inr ⟨hc, hct⟩
    · rw [List.takeWhile_cons_of_neg (by simpa using hle)]
      refine ⟨fun hc => absurd hc (by simp), ?_⟩
      rintro ⟨hc, hct⟩
      rcases List.mem_cons.1 hc with rfl | hc
      · exact absurd hct hle
      · exact absurd ((hfirst c hc).trans hct) hle

/-- Of ascending creation times, the creation at an instant is the latest one until then. -/
theorem creationAt_latest (h : creations.Pairwise (· ≤ ·)) (hc : c ∈ creations) (hct : c ≤ t) :
    creationAt creations t ∈ creations ∧ creationAt creations t ≤ t ∧ c ≤ creationAt creations t := by
  have hmem : c ∈ creations.takeWhile (fun c => c ≤ t) := (mem_takeWhile_le h).2 ⟨hc, hct⟩
  obtain ⟨last, hlast⟩ := Option.isSome_iff_exists.1 (List.getLast?_isSome.2 (List.ne_nil_of_mem hmem))
  have heq : creationAt creations t = last := by
    rw [creationAt, hlast]
    rfl
  obtain ⟨hl, hlt⟩ := (mem_takeWhile_le h).1 (List.mem_of_getLast? hlast)
  rw [heq]
  refine ⟨hl, hlt, ?_⟩
  obtain ⟨before, hbefore⟩ := List.getLast?_eq_some_iff.1 hlast
  have hsorted := h.sublist (List.takeWhile_sublist fun c => decide (c ≤ t))
  rw [hbefore] at hsorted hmem
  rcases List.mem_append.1 hmem with hcb | hcl
  · exact (List.pairwise_append.1 hsorted).2.2 c hcb last (by simp)
  · rw [List.mem_singleton.1 hcl]

/-- Without a creation until then it is the low water mark. -/
lemma creationAt_eq_lowWaterMark (h : ∀ c ∈ creations, ¬ c ≤ t) : creationAt creations t = lowWaterMark := by
  cases creations with
  | nil => rfl
  | cons first rest =>
    have hfirst : ¬ first ≤ t := h first List.mem_cons_self
    rw [creationAt, List.takeWhile_cons_of_neg (by simpa using hfirst)]
    rfl

lemma pairwise_creationTimesIn : (creationTimesIn instances entityId attributeId).Pairwise (· ≤ ·) :=
  (pairwise_mergeSort_of_key id (fun _ _ => decide_eq_true_iff) _).imp of_decide_eq_true

lemma mem_creationTimesIn : t ∈ creationTimesIn instances entityId attributeId ↔
    ∃ c ∈ instances, c.entityId = entityId ∧ c.attributeId = attributeId ∧ c.time? .createdAt = some t := by
  simp [creationTimesIn, and_assoc]

lemma time?_createdAt : i.time? .createdAt = some t ↔ i.mode = .create ∧ i.writtenAt = t := by
  simp [AttributeInstance.time?]

lemma mem_createdUntil : c ∈ createdUntil instances entityId attributeId t ↔
    c ∈ creationTimesIn instances entityId attributeId ∧ c ≤ t := by
  simp only [createdUntil, Set.mem_ofPred_eq, mem_creationTimesIn, time?_createdAt]
  exact and_comm

theorem isCreationAt_creationAt (instances : List AttributeInstance) (entityId attributeId : String) (t : Instant) :
    IsCreationAt instances entityId attributeId t
      (creationAt (creationTimesIn instances entityId attributeId) t) := by
  rcases Set.eq_empty_or_nonempty (createdUntil instances entityId attributeId t) with hempty | ⟨c, hc⟩
  · refine Or.inr ⟨hempty, creationAt_eq_lowWaterMark fun c hc hle => ?_⟩
    exact Set.notMem_empty c (hempty ▸ mem_createdUntil.2 ⟨hc, hle⟩)
  · obtain ⟨hc, hct⟩ := mem_createdUntil.1 hc
    obtain ⟨hmem, hle, -⟩ := creationAt_latest pairwise_creationTimesIn hc hct
    refine Or.inl ⟨mem_createdUntil.2 ⟨hmem, hle⟩, fun other hother => ?_⟩
    obtain ⟨hother, hot⟩ := mem_createdUntil.1 hother
    exact (creationAt_latest pairwise_creationTimesIn hother hot).2.2

/-- An instance with a creation time belongs to the creation that it is itself. -/
theorem creationAt_of_create (hi : i ∈ instances) (ht : i.time? .createdAt = some t) :
    creationAt (creationTimesIn instances i.entityId i.attributeId) i.writtenAt = t := by
  have htime : i.writtenAt = t := (time?_createdAt.1 ht).2
  have hmem : t ∈ creationTimesIn instances i.entityId i.attributeId :=
    mem_creationTimesIn.2 ⟨i, hi, rfl, rfl, ht⟩
  obtain ⟨-, hle, hge⟩ := creationAt_latest pairwise_creationTimesIn hmem htime.ge
  exact le_antisymm (hle.trans htime.le) hge

end EntityHistory
