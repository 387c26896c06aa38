/-
What a history tells of an instance.

An instance of a history has what the log has of it. Its creation time is the latest creation of its attribute
until it was written, and under its sub-attributes are its own sub-instances. These are fetched for all
instances of an interval together; as no two instances have the same identifier, each gets those that belong
to it, and one that is not marked to have sub-attributes gets none.

* `Reconstruction.isCreation_creationAt`: the creation time;
* `Reconstruction.listAt_subAttributesOf_perm`: the sub-instances;
* `Reconstruction.renders_of_mem_pieces`: what is shown of an instance that the budget leaves.
-/
import Mathlib.Data.List.Nodup
import Mathlib.Order.Bounds.Basic
import EntityHistory.Proofs.Service.Shown

namespace EntityHistory.Reconstruction

open Named

variable {log : Log} {request : ReconstructionRequest} {budget : InstanceBudget}
  {interval : EntityInterval} {intervals : List EntityInterval} {attributeId e name : String}
  {i j : AttributeInstance} {t : Instant} {ids : List String} {subs : List SubInstance}

/-! ### Creation times -/

/-- The times at which the attribute of an instance was created until the instance was written. -/
def creationsUntil (log : Log) (i : AttributeInstance) : Set Instant :=
  {t | t ≤ i.writtenAt ∧ ∃ c ∈ log.instances,
    c.entityId = i.entityId ∧ c.attributeId = i.attributeId ∧ c.mode = .create ∧ c.writtenAt = t}

/-- The creation that an instance belongs to: the latest one until it was written, or the low water mark if
there is none. -/
def IsCreation (log : Log) (i : AttributeInstance) (t : Instant) : Prop :=
  IsGreatest (creationsUntil log i) t ∨ creationsUntil log i = ∅ ∧ t = lowWaterMark

theorem isCreation_creationAt (log : Log) (i : AttributeInstance) :
    IsCreation log i (creationAt (creationTimesIn log.instances i.entityId i.attributeId) i.writtenAt) :=
  isCreationAt_creationAt log.instances i.entityId i.attributeId i.writtenAt

/-! ### Sub-instances -/

/-- The sub-instances of an instance that are of one sub-attribute. -/
def ownSubs (log : Log) (i : AttributeInstance) (name : String) : List SubInstance :=
  log.subInstances.filter fun s => s.parentId = i.id && s.attributeId = name

/-- For each of the instances that are asked for, all its sub-instances are found. -/
lemma filter_findSubInstances_perm (h : i.id ∈ ids) :
    ((log.findSubInstances ids).filter fun s => s.parentId = i.id && s.attributeId = name).Perm
      (ownSubs log i name) := by
  have hown : (log.subInstances.filter fun s => ids.contains s.parentId).filter
      (fun s => s.parentId = i.id && s.attributeId = name) = ownSubs log i name := by
    rw [List.filter_filter, ownSubs]
    refine List.filter_congr fun s _ => ?_
    by_cases hparent : s.parentId = i.id
    · simp [hparent, h]
    · simp [hparent]
  rw [← hown]
  exact (List.mergeSort_perm _ _).filter _

/-- For an instance that is not asked for, none is found. -/
lemma filter_findSubInstances_eq_nil (h : i.id ∉ ids) :
    (log.findSubInstances ids).filter (fun s => s.parentId = i.id) = [] := by
  refine List.filter_eq_nil_iff.2 fun s hs hparent => h ?_
  have hmem := (List.mem_filter.1 (List.mem_mergeSort.1 hs)).2
  rwa [of_decide_eq_true hparent, List.contains_iff_mem] at hmem

lemma grouped_subAttributesOf (subs : List SubInstance) (parentId : String) :
    Grouped (subAttributesOf subs parentId) :=
  (grouped_group _).mapValues fun _ hne => by simpa using hne

lemma listAt_subAttributesOf : listAt (subAttributesOf subs i.id) name =
    (subs.filter fun s => s.parentId = i.id && s.attributeId = name).map ofSubInstance := by
  rw [subAttributesOf, listAt_mapValues List.map_nil, listAt_group, List.filter_filter]
  refine congrArg _ (List.filter_congr fun s _ => ?_)
  rw [Bool.and_comm]

/-- Under a sub-attribute of an instance that is asked for are its own sub-instances. -/
lemma listAt_subAttributesOf_perm (h : i.id ∈ ids) :
    (listAt (subAttributesOf (log.findSubInstances ids) i.id) name).Perm
      ((ownSubs log i name).map ofSubInstance) := by
  rw [listAt_subAttributesOf]
  exact (filter_findSubInstances_perm h).map ofSubInstance

lemma subAttributesOf_eq_nil (h : i.id ∉ ids) : subAttributesOf (log.findSubInstances ids) i.id = [] := by
  rw [subAttributesOf, filter_findSubInstances_eq_nil h]
  rfl

/-! ### Instances of a history -/

/-- An instance of a history has what the log has of an instance. -/
structure Renders (log : Log) (i : AttributeInstance) (shown : TemporalInstance) : Prop where
  id : shown.id = i.id
  value : shown.value = i.value
  observedAt : shown.observedAt = i.observedAt
  createdAt : ∃ t, shown.createdAt = some t ∧ IsCreation log i t
  modifiedAt : shown.modifiedAt = some i.writtenAt
  datasetId : shown.datasetId = i.datasetId
  unitCode : shown.unitCode = i.unitCode
  grouped : Grouped shown.subAttributes
  subAttributes : i.hasSubAttributes = true →
    ∀ name, (listAt shown.subAttributes name).Perm ((ownSubs log i name).map ofSubInstance)
  subAttributes_eq_nil : i.hasSubAttributes = false → shown.subAttributes = []

/-- What the budget leaves of an attribute is among what is kept of all attributes. -/
lemma mem_kept_of_mem_taken (hone : 1 ≤ budget.perAttribute) (hfetch : budget.perAttribute ≤ budget.fetchLimit)
    (h : i ∈ taken log request budget attributeId interval) :
    i ∈ (kept log request budget interval).flatMap (·.2) := by
  rw [(grouped_kept hone).mem_flatMap_snd]
  exact ⟨attributeId, by rwa [listAt_kept hfetch]⟩

lemma mem_instances_of_mem_kept (hone : 1 ≤ budget.perAttribute)
    (hfetch : budget.perAttribute ≤ budget.fetchLimit)
    (h : i ∈ (kept log request budget interval).flatMap (·.2)) : i ∈ log.instances := by
  obtain ⟨attributeId, hi⟩ := (grouped_kept hone).mem_flatMap_snd.1 h
  rw [listAt_kept hfetch] at hi
  exact (mem_matching (mem_of_mem_taken hi)).1

lemma eq_of_id_eq (hids : (log.instances.map (·.id)).Nodup) (hi : i ∈ log.instances) (hj : j ∈ log.instances)
    (h : i.id = j.id) : i = j :=
  List.inj_on_of_nodup_map hids hi hj h

lemma renders_rebuilt (hone : 1 ≤ budget.perAttribute) (hfetch : budget.perAttribute ≤ budget.fetchLimit)
    (hids : (log.instances.map (·.id)).Nodup) (h : i ∈ taken log request budget i.attributeId interval) :
    Renders log i (rebuilt log (subsOf log (kept log request budget interval)) i.attributeId i) where
  id := rfl
  value := rfl
  observedAt := rfl
  createdAt := ⟨_, rfl, isCreation_creationAt log i⟩
  modifiedAt := rfl
  datasetId := rfl
  unitCode := rfl
  grouped := grouped_subAttributesOf _ _
  subAttributes := fun hmarked name => by
    refine listAt_subAttributesOf_perm (List.mem_map_of_mem ?_)
    exact List.mem_filter.2 ⟨mem_kept_of_mem_taken hone hfetch h, hmarked⟩
  subAttributes_eq_nil := fun hunmarked => by
    refine subAttributesOf_eq_nil fun hmem => ?_
    -- an instance with the identifier of a marked one would be this instance
    obtain ⟨j, hj, hid⟩ := List.mem_map.1 hmem
    obtain ⟨hj, hmarked⟩ := List.mem_filter.1 hj
    have hij : j = i := eq_of_id_eq hids (mem_instances_of_mem_kept hone hfetch hj)
      (mem_matching (mem_of_mem_taken h)).1 hid
    rw [hij, hunmarked] at hmarked
    exact Bool.false_ne_true hmarked

theorem renders_of_mem_pieces (hone : 1 ≤ budget.perAttribute)
    (hfetch : budget.perAttribute ≤ budget.fetchLimit) (hids : (log.instances.map (·.id)).Nodup)
    {piece : AttributeInstance × TemporalInstance}
    (h : piece ∈ pieces log request budget intervals e attributeId) : Renders log piece.1 piece.2 := by
  obtain ⟨interval, -, hpiece⟩ := List.mem_flatMap.1 h
  obtain ⟨i, hi, rfl⟩ := List.mem_map.1 hpiece
  obtain ⟨-, rfl, -⟩ := mem_matching (mem_of_mem_taken hi)
  exact renders_rebuilt hone hfetch hids hi

end EntityHistory.Reconstruction
