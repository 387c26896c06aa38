/-
What a reconstruction shows of the log.

Of intervals that have no instant in common each holds its own instances, so that what the budget leaves and
what it leaves out are together the instances of all of them. If no two instances of an attribute have the
same identifier, none of those that are left is dropped, and a history shows exactly these, in order.

* `Reconstruction.taken_append_omitted_perm`: nothing is lost between the intervals;
* `Reconstruction.forall₂_shows`: a history shows what the budget leaves;
* `Reconstruction.length_listAt_le`: and never more.
-/
import Mathlib.Data.List.Perm.Basic
import EntityHistory.Proofs.Interval.Canonical
import EntityHistory.Proofs.Service.Reconstruction

namespace EntityHistory.Reconstruction

open Named TemporalEntity EntityInterval

variable {log : Log} {now : Instant} {request : ReconstructionRequest} {budget : InstanceBudget}
  {interval : EntityInterval} {intervals : List EntityInterval} {attributeId e : String}
  {i j : AttributeInstance} {entity : TemporalEntity} {t : Instant} {property : TimeProperty}

/-! ### Instances of intervals that are apart -/

lemma spans_of_selects (h : selects request interval i = true)
    (ht : i.time? request.time.property = some t) : interval.Spans i.entityId t := by
  simp only [selects, Bool.and_eq_true, decide_eq_true_eq, ht, Option.any_some, contains] at h
  obtain ⟨⟨he, -⟩, ⟨hstart, hstop⟩, -⟩ := h
  exact ⟨he.symm, hstart, hstop⟩

lemma exists_time_of_selects (h : selects request interval i = true) :
    ∃ t, i.time? request.time.property = some t := by
  rw [selects, Bool.and_eq_true, Option.any_eq_true] at h
  obtain ⟨t, ht, -⟩ := h.2
  exact ⟨t, ht⟩

lemma apart_ownIntervals (h : Apart intervals) (e : String) : Apart (ownIntervals intervals e) := h.filter _

/-- The instances of intervals that are apart are those of each of them. -/
lemma flatMap_matching_perm (h : Apart intervals) (log : Log) (request : ReconstructionRequest)
    (e attributeId : String) : ((ownIntervals intervals e).flatMap (matching log request attributeId)).Perm
      (matchingAll log request intervals e attributeId) := by
  -- an instance with one time cannot lie in two intervals that are apart
  have hexclude : (ownIntervals intervals e).Pairwise fun a b => ∀ i ∈ log.instances,
      (i.attributeId = attributeId && selects request a i) = true →
        (i.attributeId = attributeId && selects request b i) = false := by
    refine (apart_ownIntervals h e).imp fun hab i _ ha => ?_
    by_contra hb
    rw [Bool.not_eq_false, Bool.and_eq_true] at hb
    rw [Bool.and_eq_true] at ha
    obtain ⟨t, ht⟩ := exists_time_of_selects ha.2
    exact hab i.entityId t (spans_of_selects ha.2 ht) (spans_of_selects hb.2 ht)
  have hany : matchingAll log request intervals e attributeId = log.instances.filter fun i =>
      (ownIntervals intervals e).any fun interval =>
        i.attributeId = attributeId && selects request interval i := by
    refine List.filter_congr fun i _ => ?_
    by_cases ha : i.attributeId = attributeId <;> simp [ha]
  rw [hany]
  exact Log.flatMap_filter_perm hexclude

/-- What the budget leaves out, interval by interval. -/
def omittedAll (log : Log) (request : ReconstructionRequest) (budget : InstanceBudget)
    (intervals : List EntityInterval) (e attributeId : String) : List AttributeInstance :=
  (ownIntervals intervals e).flatMap fun interval =>
    (Log.ordered (instanceQuery request budget interval) (matching log request attributeId interval)).drop
      budget.perAttribute

/-- The instances of intervals that are apart are those that the budget leaves and those it leaves out. -/
theorem taken_append_omitted_perm (h : Apart intervals) (log : Log) (request : ReconstructionRequest)
    (budget : InstanceBudget) (e attributeId : String) :
    (takenAll log request budget intervals e attributeId ++
      omittedAll log request budget intervals e attributeId).Perm
      (matchingAll log request intervals e attributeId) := by
  refine (List.flatMap_append_perm _ _ _).trans (List.Perm.trans ?_ (flatMap_matching_perm h log request e _))
  refine List.Perm.flatMap_left _ fun interval _ => ?_
  rw [taken, List.take_append_drop]
  exact Log.ordered_perm _ _

/-! ### Instances of a history -/

/-- An instance of a history is one of the log, with the creation time that the log has for it. -/
def Shows (log : Log) (i : AttributeInstance) (shown : TemporalInstance) : Prop :=
  ∃ subs, shown = rebuilt log subs i.attributeId i

lemma Shows.id_eq {shown : TemporalInstance} (h : Shows log i shown) : shown.id = i.id := by
  obtain ⟨subs, rfl⟩ := h
  rfl

/-- An instance has the same time in a history as in the log. -/
lemma Shows.time?_eq {shown : TemporalInstance} (h : Shows log i shown) (hi : i ∈ log.instances)
    (ht : i.time? property = some t) : shown.time? property = some t := by
  obtain ⟨subs, rfl⟩ := h
  cases property with
  | observedAt => exact ht
  | modifiedAt => exact ht
  | createdAt =>
    have hcreated : creationAt (creationTimesIn log.instances i.entityId i.attributeId) i.writtenAt = t :=
      creationAt_of_create hi ht
    rw [← hcreated]
    rfl

lemma isBefore_iff_of_shows {a b : TemporalInstance} (ha : Shows log i a) (hb : Shows log j b)
    (hi : i ∈ log.instances) (hj : j ∈ log.instances) (hti : ∃ t, i.time? property = some t)
    (htj : ∃ t, j.time? property = some t) : Log.isBefore property i j = a.isBefore property b := by
  obtain ⟨s, hs⟩ := hti
  obtain ⟨t, ht⟩ := htj
  rw [Log.isBefore, TemporalInstance.isBefore, hs, ht, ha.time?_eq hi hs, hb.time?_eq hj ht, ha.id_eq, hb.id_eq]

lemma mem_matching (h : i ∈ matching log request attributeId interval) :
    i ∈ log.instances ∧ i.attributeId = attributeId ∧ selects request interval i = true := by
  simpa [matching] using h

/-- What the budget leaves, each instance with what is shown of it. -/
def pieces (log : Log) (request : ReconstructionRequest) (budget : InstanceBudget)
    (intervals : List EntityInterval) (e attributeId : String) : List (AttributeInstance × TemporalInstance) :=
  (ownIntervals intervals e).flatMap fun interval =>
    (taken log request budget attributeId interval).map fun i =>
      (i, rebuilt log (subsOf log (kept log request budget interval)) attributeId i)

lemma map_fst_pieces : (pieces log request budget intervals e attributeId).map Prod.fst =
    takenAll log request budget intervals e attributeId := by
  rw [pieces, List.map_flatMap, takenAll]
  simp [Function.comp_def]

lemma map_snd_pieces : (pieces log request budget intervals e attributeId).map Prod.snd =
    (ownIntervals intervals e).flatMap fun interval => (taken log request budget attributeId interval).map
      (rebuilt log (subsOf log (kept log request budget interval)) attributeId) := by
  rw [pieces, List.map_flatMap]
  simp [Function.comp_def]

lemma shows_of_mem_pieces {piece : AttributeInstance × TemporalInstance}
    (h : piece ∈ pieces log request budget intervals e attributeId) : Shows log piece.1 piece.2 ∧
      piece.1 ∈ log.instances ∧ ∃ t, piece.1.time? request.time.property = some t := by
  obtain ⟨interval, -, hpiece⟩ := List.mem_flatMap.1 h
  obtain ⟨i, hi, rfl⟩ := List.mem_map.1 hpiece
  obtain ⟨hmem, rfl, hselects⟩ := mem_matching (mem_of_mem_taken hi)
  exact ⟨⟨_, rfl⟩, hmem, exists_time_of_selects hselects⟩

/-- What the budget leaves, in the order of the instances. -/
def sortedPieces (log : Log) (request : ReconstructionRequest) (budget : InstanceBudget)
    (intervals : List EntityInterval) (e attributeId : String) : List (AttributeInstance × TemporalInstance) :=
  (pieces log request budget intervals e attributeId).mergeSort fun a b =>
    Log.isBefore request.time.property a.1 b.1

lemma map_fst_sortedPieces : (sortedPieces log request budget intervals e attributeId).map Prod.fst =
    (takenAll log request budget intervals e attributeId).mergeSort (Log.isBefore request.time.property) := by
  rw [← map_fst_pieces]
  exact List.map_mergeSort fun _ _ _ _ => rfl

/-- Under each attribute a history has what the budget leaves, in order, without repeats. -/
lemma listAt_eq_dropRepeats (hone : 1 ≤ budget.perAttribute) (hfetch : budget.perAttribute ≤ budget.fetchLimit)
    (h : entity ∈ histories log now request budget intervals) (attributeId : String) :
    listAt entity.attributes attributeId = dropRepeats TemporalInstance.id
      ((sortedPieces log request budget intervals entity.id attributeId).map Prod.snd) := by
  rw [(listAt_histories hone hfetch h).2, ← map_snd_pieces, inOrder, sortedPieces]
  refine congrArg _ (Eq.symm (List.map_mergeSort fun a ha b hb => ?_))
  obtain ⟨hashows, halog, hatime⟩ := shows_of_mem_pieces ha
  obtain ⟨hbshows, hblog, hbtime⟩ := shows_of_mem_pieces hb
  exact isBefore_iff_of_shows hashows hbshows halog hblog hatime hbtime

/-- A history never shows more than what the budget leaves. -/
theorem length_listAt_le (hone : 1 ≤ budget.perAttribute) (hfetch : budget.perAttribute ≤ budget.fetchLimit)
    (h : entity ∈ histories log now request budget intervals) (attributeId : String) :
    (listAt entity.attributes attributeId).length ≤
      (takenAll log request budget intervals entity.id attributeId).length := by
  rw [listAt_eq_dropRepeats hone hfetch h]
  refine (dropRepeats_sublist TemporalInstance.id _).length_le.trans ?_
  rw [← map_fst_pieces, sortedPieces, List.length_map, List.length_mergeSort, List.length_map]

/-- If no identifier stands twice in the log, then no two instances of an attribute have the same. -/
lemma nodup_matchingAll (h : (log.instances.map (·.id)).Nodup) :
    ((matchingAll log request intervals e attributeId).map (·.id)).Nodup :=
  h.sublist (List.filter_sublist.map _)

section Unique

variable (hapart : Apart intervals)
  (hids : ((matchingAll log request intervals e attributeId).map (·.id)).Nodup)

include hapart hids in
lemma nodup_takenAll : ((takenAll log request budget intervals e attributeId).map (·.id)).Nodup := by
  have hall := (taken_append_omitted_perm hapart log request budget e attributeId).map (·.id)
  have htaken := hall.nodup_iff.2 hids
  rw [List.map_append] at htaken
  exact htaken.of_append_left

include hapart hids in
/-- No identifier repeats among what is shown. -/
lemma nodup_sortedPieces :
    (((sortedPieces log request budget intervals e attributeId).map Prod.snd).map TemporalInstance.id).Nodup := by
  have hsame : ((sortedPieces log request budget intervals e attributeId).map Prod.snd).map TemporalInstance.id =
      ((takenAll log request budget intervals e attributeId).mergeSort
        (Log.isBefore request.time.property)).map (·.id) := by
    rw [← map_fst_sortedPieces, List.map_map, List.map_map]
    exact List.map_congr_left fun piece hpiece =>
      (shows_of_mem_pieces (List.mem_mergeSort.1 hpiece)).1.id_eq
  rw [hsame]
  exact ((List.mergeSort_perm _ _).map _).nodup_iff.2 (nodup_takenAll hapart hids)

end Unique

/-- So nothing is dropped. -/
lemma listAt_eq_map_sortedPieces (hone : 1 ≤ budget.perAttribute)
    (hfetch : budget.perAttribute ≤ budget.fetchLimit) (hapart : Apart intervals)
    (h : entity ∈ histories log now request budget intervals)
    (hids : ((matchingAll log request intervals entity.id attributeId).map (·.id)).Nodup) :
    listAt entity.attributes attributeId =
      (sortedPieces log request budget intervals entity.id attributeId).map Prod.snd := by
  rw [listAt_eq_dropRepeats hone hfetch h, dropRepeats_eq_self _ (nodup_sortedPieces hapart hids)]

/-- A history shows what the budget leaves of an attribute, in order, if no two of its instances have the same
identifier. -/
theorem forall₂_shows (hone : 1 ≤ budget.perAttribute) (hfetch : budget.perAttribute ≤ budget.fetchLimit)
    (hapart : Apart intervals) (h : entity ∈ histories log now request budget intervals)
    (hids : ((matchingAll log request intervals entity.id attributeId).map (·.id)).Nodup) :
    List.Forall₂ (Shows log)
      ((takenAll log request budget intervals entity.id attributeId).mergeSort
        (Log.isBefore request.time.property))
      (listAt entity.attributes attributeId) := by
  rw [listAt_eq_map_sortedPieces hone hfetch hapart h hids, ← map_fst_sortedPieces,
    List.forall₂_map_left_iff, List.forall₂_map_right_iff, List.forall₂_same]
  exact fun piece hpiece => (shows_of_mem_pieces (List.mem_mergeSort.1 hpiece)).1

lemma length_listAt_eq (hone : 1 ≤ budget.perAttribute) (hfetch : budget.perAttribute ≤ budget.fetchLimit)
    (hapart : Apart intervals) (h : entity ∈ histories log now request budget intervals)
    (hids : ((matchingAll log request intervals entity.id attributeId).map (·.id)).Nodup) :
    (listAt entity.attributes attributeId).length =
      (takenAll log request budget intervals entity.id attributeId).length := by
  rw [← (forall₂_shows hone hfetch hapart h hids).length_eq, List.length_mergeSort]

end EntityHistory.Reconstruction
