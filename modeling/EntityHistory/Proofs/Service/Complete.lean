/-
The complete histories of a response.

A request without a number of instances fetches one instance more of each attribute than the budget leaves,
for each interval. A response is therefore marked as limited just when the budget leaves something out. All
that it shows are instances that the request asks for, each of them once and with all that the log has of it,
and unless the response is limited these are all there are.

* `Reconstruction.mem_matchingAll`: the instances that a request asks for;
* `Reconstruction.any_exceeds_eq_false_iff`: the budget is kept just when nothing is left out;
* `Reconstruction.mem_listAt_iff`: what a history shows of an attribute;
* `Reconstruction.complete_unless_limited`: what a response gives.
-/
import EntityHistory.Proofs.Service.Rendered
import EntityHistory.Proofs.Service.Share

namespace EntityHistory.Reconstruction

open Named TemporalEntity EntityInterval

variable {log : Log} {ceiling : UInt32} {now : Instant} {request : ReconstructionRequest}
  {budget : InstanceBudget} {interval : EntityInterval} {intervals : List EntityInterval}
  {attributeId e : String} {i j : AttributeInstance} {entity : TemporalEntity} {shown : TemporalInstance}

/-! ### What is asked for -/

/-- A request asks for an instance: its attribute is among those that are named, if any are, and it lies in
an interval of its entity at a time that is accepted. -/
def IsAskedFor (request : ReconstructionRequest) (intervals : List EntityInterval) (i : AttributeInstance) :
    Prop :=
  (request.attributeIds = [] ∨ i.attributeId ∈ request.attributeIds) ∧
    ∃ t, i.time? request.time.property = some t ∧ request.time.accepts t = true ∧
      ∃ interval ∈ intervals, interval.Spans i.entityId t

lemma selects_iff : selects request interval i = true ↔
    (request.attributeIds = [] ∨ i.attributeId ∈ request.attributeIds) ∧
      ∃ t, i.time? request.time.property = some t ∧ request.time.accepts t = true ∧
        interval.Spans i.entityId t := by
  simp only [selects, Bool.and_eq_true, Bool.or_eq_true, decide_eq_true_eq, List.contains_iff_mem,
    Option.any_eq_true, contains, Spans]
  constructor
  · rintro ⟨⟨hentity, hattribute⟩, t, ht, hspans, haccepts⟩
    exact ⟨hattribute, t, ht, haccepts, hentity.symm, hspans⟩
  · rintro ⟨hattribute, t, ht, haccepts, hentity, hspans⟩
    exact ⟨⟨hentity.symm, hattribute⟩, t, ht, hspans, haccepts⟩

lemma mem_ownIntervals : interval ∈ ownIntervals intervals e ↔ interval ∈ intervals ∧ interval.entityId = e := by
  simp [ownIntervals]

lemma entityId_of_selects (h : selects request interval i = true) : i.entityId = interval.entityId := by
  obtain ⟨-, t, -, -, hentity, -⟩ := selects_iff.1 h
  exact hentity.symm

/-- The instances that a request asks for, of one attribute of an entity. -/
theorem mem_matchingAll : i ∈ matchingAll log request intervals e attributeId ↔
    i ∈ log.instances ∧ i.entityId = e ∧ i.attributeId = attributeId ∧ IsAskedFor request intervals i := by
  rw [matchingAll, List.mem_filter, Bool.and_eq_true, decide_eq_true_eq, List.any_eq_true]
  refine and_congr_right fun _ => ?_
  constructor
  · rintro ⟨hattribute, interval, hinterval, hselects⟩
    obtain ⟨hmem, hentity⟩ := mem_ownIntervals.1 hinterval
    obtain ⟨hnamed, t, ht, haccepts, hspans⟩ := selects_iff.1 hselects
    exact ⟨(entityId_of_selects hselects).trans hentity, hattribute, hnamed, t, ht, haccepts, interval, hmem,
      hspans⟩
  · rintro ⟨hentity, hattribute, hnamed, t, ht, haccepts, interval, hmem, hspans⟩
    exact ⟨hattribute, interval, mem_ownIntervals.2 ⟨hmem, hspans.1.trans hentity⟩,
      selects_iff.2 ⟨hnamed, t, ht, haccepts, hspans⟩⟩

/-! ### What is left out -/

/-- When one instance more is fetched than the budget leaves, more are found to be there just when they are. -/
lemma exceeds_iff (hfetch : budget.fetchLimit = budget.perAttribute + 1) :
    exceeds log request budget interval = true ↔
      ∃ attributeId, budget.perAttribute < (matching log request attributeId interval).length := by
  -- what is fetched stops one after the budget, so it passes the budget just when all that matches does
  have hlength : ∀ attributeId, (listAt (fetched log request budget interval) attributeId).length =
      min (budget.perAttribute + 1) (matching log request attributeId interval).length := by
    intro attributeId
    rw [fetched, Log.listAt_group_findInstances, Log.firstInstances_eq, List.length_take,
      (Log.ordered_perm _ _).length_eq, ← hfetch]
    rfl
  have hgrouped : Grouped (fetched log request budget interval) := grouped_group _
  simp only [exceeds, List.any_eq_true, InstanceBudget.isExceededBy, decide_eq_true_eq]
  constructor
  · rintro ⟨entry, hentry, hlt⟩
    have hlist : listAt (fetched log request budget interval) entry.1 = entry.2 := (hgrouped.mem_iff.1 hentry).2
    rw [← hlist, hlength] at hlt
    exact ⟨entry.1, hlt.trans_le (Nat.min_le_right _ _)⟩
  · rintro ⟨attributeId, hlt⟩
    have hmore : budget.perAttribute < (listAt (fetched log request budget interval) attributeId).length := by
      rw [hlength]
      exact lt_min (Nat.lt_succ_self _) hlt
    have hne : listAt (fetched log request budget interval) attributeId ≠ [] :=
      List.ne_nil_of_length_pos (Nat.zero_lt_of_lt hmore)
    exact ⟨(attributeId, _), hgrouped.mem_iff.2 ⟨hne, rfl⟩, hmore⟩

/-- No interval has too many instances of an attribute just when none are left out. -/
theorem any_exceeds_eq_false_iff (hfetch : budget.fetchLimit = budget.perAttribute + 1) :
    intervals.any (exceeds log request budget) = false ↔
      ∀ e attributeId, omittedAll log request budget intervals e attributeId = [] := by
  simp only [List.any_eq_false, exceeds_iff hfetch, not_exists, not_lt, omittedAll, List.flatMap_eq_nil_iff,
    List.drop_eq_nil_iff, (Log.ordered_perm _ _).length_eq, mem_ownIntervals]
  constructor
  · rintro hle e attributeId interval ⟨hinterval, -⟩
    exact hle interval hinterval attributeId
  · intro hle interval hinterval attributeId
    exact hle interval.entityId attributeId interval ⟨hinterval, rfl⟩

/-- What is left out is asked for. -/
lemma mem_matchingAll_of_mem_omittedAll (hapart : Apart intervals)
    (h : i ∈ omittedAll log request budget intervals e attributeId) :
    i ∈ matchingAll log request intervals e attributeId :=
  (taken_append_omitted_perm hapart log request budget e attributeId).mem_iff.1 (List.mem_append_right _ h)

/-! ### What is shown -/

/-- One instance comes before another: first by time, then by identifier. -/
def IsEarlier (property : TimeProperty) (a b : TemporalInstance) : Prop :=
  ∃ s t, a.time? property = some s ∧ b.time? property = some t ∧ (s < t ∨ s = t ∧ a.id < b.id)

/-- The instances that a response shows. -/
def shownIn (r : Reconstruction) : List TemporalInstance :=
  r.entities.flatMap fun entity => entity.attributes.flatMap (·.2)

lemma mem_sortedPieces {piece : AttributeInstance × TemporalInstance} :
    piece ∈ sortedPieces log request budget intervals e attributeId ↔
      piece ∈ pieces log request budget intervals e attributeId := List.mem_mergeSort

lemma mem_takenAll : i ∈ takenAll log request budget intervals e attributeId ↔
    ∃ shown, (i, shown) ∈ pieces log request budget intervals e attributeId := by
  rw [← map_fst_pieces, List.mem_map]
  constructor
  · rintro ⟨⟨_, shown⟩, hpiece, rfl⟩
    exact ⟨shown, hpiece⟩
  · rintro ⟨shown, hpiece⟩
    exact ⟨_, hpiece, rfl⟩

lemma isEarlier_of_isBefore {property : TimeProperty} {a b : AttributeInstance × TemporalInstance}
    (h : Log.isBefore property a.1 b.1 = true) (hne : a.2.id ≠ b.2.id)
    (ha : Shows log a.1 a.2 ∧ a.1 ∈ log.instances ∧ ∃ t, a.1.time? property = some t)
    (hb : Shows log b.1 b.2 ∧ b.1 ∈ log.instances ∧ ∃ t, b.1.time? property = some t) :
    IsEarlier property a.2 b.2 := by
  obtain ⟨hashows, halog, s, hs⟩ := ha
  obtain ⟨hbshows, hblog, t, ht⟩ := hb
  refine ⟨s, t, hashows.time?_eq halog hs, hbshows.time?_eq hblog ht, ?_⟩
  rw [Log.isBefore, hs, ht, ← hashows.id_eq, ← hbshows.id_eq] at h
  rcases (by simpa using h : s < t ∨ s = t ∧ a.2.id ≤ b.2.id) with hlt | ⟨heq, hle⟩
  · exact Or.inl hlt
  · exact Or.inr ⟨heq, lt_of_le_of_ne hle hne⟩

/-- What is shown of an attribute is in strictly ascending order. -/
lemma pairwise_sortedPieces (hapart : Apart intervals)
    (hids : ((matchingAll log request intervals e attributeId).map (·.id)).Nodup) :
    ((sortedPieces log request budget intervals e attributeId).map Prod.snd).Pairwise
      (IsEarlier request.time.property) := by
  have hsorted : (sortedPieces log request budget intervals e attributeId).Pairwise fun a b =>
      Log.isBefore request.time.property a.1 b.1 = true :=
    pairwise_mergeSort_of_key
      (fun piece : AttributeInstance × TemporalInstance => Log.key request.time.property piece.1)
      (fun _ _ => Log.isBefore_iff_key_le) _
  have hdistinct : (((sortedPieces log request budget intervals e attributeId).map Prod.snd).map
      TemporalInstance.id).Nodup := nodup_sortedPieces hapart hids
  rw [List.map_map, List.Nodup, List.pairwise_map] at hdistinct
  rw [List.pairwise_map]
  -- sorting leaves room for two that are level, which would have one identifier
  refine (hsorted.and hdistinct).imp_of_mem ?_
  rintro a b ha hb ⟨hbefore, hne⟩
  exact isEarlier_of_isBefore hbefore hne (shows_of_mem_pieces (mem_sortedPieces.1 ha))
    (shows_of_mem_pieces (mem_sortedPieces.1 hb))

/-- A history shows what a request asks for: each attribute once, its instances in strictly ascending order,
and each of them with what the log has of an instance of this attribute that the request asks for. -/
structure IsHistory (log : Log) (request : ReconstructionRequest) (intervals : List EntityInterval)
    (entity : TemporalEntity) : Prop where
  grouped : Grouped entity.attributes
  ascending : ∀ attributeId,
    (listAt entity.attributes attributeId).Pairwise (IsEarlier request.time.property)
  renders : ∀ attributeId, ∀ shown ∈ listAt entity.attributes attributeId, ∃ i ∈ log.instances,
    i.entityId = entity.id ∧ i.attributeId = attributeId ∧ IsAskedFor request intervals i ∧ Renders log i shown

/-- An instance of the log is among those that histories show. -/
def IsShown (log : Log) (entities : List TemporalEntity) (i : AttributeInstance) : Prop :=
  ∃ entity ∈ entities, entity.id = i.entityId ∧
    ∃ shown ∈ listAt entity.attributes i.attributeId, Renders log i shown

section Histories

variable (hone : 1 ≤ budget.perAttribute) (hfetch : budget.perAttribute ≤ budget.fetchLimit)
  (hapart : Apart intervals) (hids : (log.instances.map (·.id)).Nodup)

include hone hfetch hapart hids

/-- What a history shows of an attribute is what the budget leaves of it. -/
theorem mem_listAt_iff (h : entity ∈ histories log now request budget intervals) :
    shown ∈ listAt entity.attributes attributeId ↔
      ∃ i, (i, shown) ∈ pieces log request budget intervals entity.id attributeId := by
  rw [listAt_eq_map_sortedPieces hone hfetch hapart h (nodup_matchingAll hids), List.mem_map]
  constructor
  · rintro ⟨⟨i, _⟩, hpiece, rfl⟩
    exact ⟨i, mem_sortedPieces.1 hpiece⟩
  · rintro ⟨i, hpiece⟩
    exact ⟨_, mem_sortedPieces.2 hpiece, rfl⟩

lemma isHistory (h : entity ∈ histories log now request budget intervals) :
    IsHistory log request intervals entity where
  grouped := (listAt_histories hone hfetch h).1
  ascending := fun attributeId => by
    rw [listAt_eq_map_sortedPieces hone hfetch hapart h (nodup_matchingAll hids)]
    exact pairwise_sortedPieces hapart (nodup_matchingAll hids)
  renders := fun attributeId shown hshown => by
    obtain ⟨i, hpiece⟩ := (mem_listAt_iff hone hfetch hapart hids h).1 hshown
    have htaken : i ∈ takenAll log request budget intervals entity.id attributeId :=
      mem_takenAll.2 ⟨shown, hpiece⟩
    have hmatching := (taken_append_omitted_perm hapart log request budget entity.id attributeId).mem_iff.1
      (List.mem_append_left _ htaken)
    obtain ⟨hi, hentity, hattribute, hasked⟩ := mem_matchingAll.1 hmatching
    exact ⟨i, hi, hentity, hattribute, hasked, renders_of_mem_pieces hone hfetch hids hpiece⟩

/-- An instance that the budget leaves is shown. -/
lemma isShown_of_mem_takenAll (h : i ∈ takenAll log request budget intervals i.entityId i.attributeId)
    (he : i.entityId ∈ entityIds intervals) :
    IsShown log (histories log now request budget intervals) i := by
  obtain ⟨entity, hentity, hid⟩ := exists_mem_histories he
  obtain ⟨shown, hpiece⟩ := mem_takenAll.1 h
  refine ⟨entity, hentity, hid, shown, ?_, renders_of_mem_pieces hone hfetch hids hpiece⟩
  rw [← hid] at hpiece
  exact (mem_listAt_iff hone hfetch hapart hids hentity).2 ⟨i, hpiece⟩

/-- An instance that the budget leaves out is not shown. -/
lemma not_isShown_of_mem_omittedAll (h : i ∈ omittedAll log request budget intervals e attributeId) :
    ¬ IsShown log (histories log now request budget intervals) i := by
  obtain ⟨-, rfl, rfl, -⟩ := mem_matchingAll.1 (mem_matchingAll_of_mem_omittedAll hapart h)
  rintro ⟨entity, hentity, hid, shown, hshown, hrenders⟩
  obtain ⟨j, hpiece⟩ := (mem_listAt_iff hone hfetch hapart hids hentity).1 hshown
  rw [hid] at hpiece
  have hj : j ∈ takenAll log request budget intervals i.entityId i.attributeId :=
    mem_takenAll.2 ⟨shown, hpiece⟩
  -- both have the identifier of what is shown, and it does not stand twice
  have hdistinct := ((taken_append_omitted_perm hapart log request budget i.entityId i.attributeId).map
    (·.id)).nodup_iff.2 (nodup_matchingAll hids)
  rw [List.map_append, List.nodup_append] at hdistinct
  refine hdistinct.2.2 j.id (List.mem_map_of_mem hj) i.id (List.mem_map_of_mem h) ?_
  rw [← hrenders.id, (renders_of_mem_pieces hone hfetch hids hpiece).id]

/-- Nothing is left out just when all that is asked for is shown. -/
lemma forall_omittedAll_eq_nil_iff :
    (∀ e attributeId, omittedAll log request budget intervals e attributeId = []) ↔
      ∀ i ∈ log.instances, IsAskedFor request intervals i →
        IsShown log (histories log now request budget intervals) i := by
  constructor
  · -- with nothing left out, all that is asked for is left by the budget
    intro hnone i hi hasked
    have hall := taken_append_omitted_perm hapart log request budget i.entityId i.attributeId
    rw [hnone, List.append_nil] at hall
    have htaken := hall.mem_iff.2 (mem_matchingAll.2 ⟨hi, rfl, rfl, hasked⟩)
    obtain ⟨-, t, -, -, interval, hinterval, hspans⟩ := hasked
    refine isShown_of_mem_takenAll hone hfetch hapart hids htaken ?_
    exact mem_nameSet.2 (List.mem_map.2 ⟨interval, hinterval, hspans.1⟩)
  · intro hshown e attributeId
    refine List.eq_nil_iff_forall_not_mem.2 fun i hi => ?_
    obtain ⟨hmem, -, -, hasked⟩ := mem_matchingAll.1 (mem_matchingAll_of_mem_omittedAll hapart hi)
    exact not_isShown_of_mem_omittedAll hone hfetch hapart hids hi (hshown i hmem hasked)

/-- No identifier stands twice under an attribute. -/
lemma nodup_listAt (h : entity ∈ histories log now request budget intervals) :
    ((listAt entity.attributes attributeId).map (·.id)).Nodup := by
  rw [listAt_eq_map_sortedPieces hone hfetch hapart h (nodup_matchingAll hids)]
  exact nodup_sortedPieces hapart (nodup_matchingAll hids)

omit hone hfetch hapart in
/-- What has the same identifier in two histories stands under the same attribute of the same entity. -/
lemma place_eq_of_id_eq {entity' : TemporalEntity} {shown' : TemporalInstance} {attributeId' : String}
    (h : IsHistory log request intervals entity) (h' : IsHistory log request intervals entity')
    (hshown : shown ∈ listAt entity.attributes attributeId)
    (hshown' : shown' ∈ listAt entity'.attributes attributeId') (hid : shown.id = shown'.id) :
    entity.id = entity'.id ∧ attributeId = attributeId' := by
  obtain ⟨i, hi, hentity, hattribute, -, hrenders⟩ := h.renders attributeId shown hshown
  obtain ⟨j, hj, hentity', hattribute', -, hrenders'⟩ := h'.renders attributeId' shown' hshown'
  have hij : i = j := eq_of_id_eq hids hi hj (by rw [← hrenders.id, hid, hrenders'.id])
  rw [← hentity, ← hattribute, hij]
  exact ⟨hentity', hattribute'⟩

/-- No identifier stands twice in a history. -/
lemma nodup_attributes (h : entity ∈ histories log now request budget intervals) :
    ((entity.attributes.flatMap (·.2)).map (·.id)).Nodup := by
  have hhistory := isHistory hone hfetch hapart hids h
  have hlist : ∀ entry ∈ entity.attributes, listAt entity.attributes entry.1 = entry.2 :=
    fun _ hentry => (hhistory.grouped.mem_iff.1 hentry).2
  rw [List.map_flatMap, List.nodup_flatMap]
  refine ⟨fun entry hentry => ?_, hhistory.grouped.sorted.imp_of_mem fun ha hb hlt id hid hid' => ?_⟩
  · rw [← hlist entry hentry]
    exact nodup_listAt hone hfetch hapart hids h
  · obtain ⟨shown, hshown, rfl⟩ := List.mem_map.1 hid
    obtain ⟨shown', hshown', heq⟩ := List.mem_map.1 hid'
    rw [← hlist _ ha] at hshown
    rw [← hlist _ hb] at hshown'
    exact hlt.ne (place_eq_of_id_eq hids hhistory hhistory hshown hshown' heq.symm).2

/-- No identifier stands twice in the histories. -/
lemma nodup_histories : (((histories log now request budget intervals).flatMap fun entity =>
    entity.attributes.flatMap (·.2)).map (·.id)).Nodup := by
  have hascending : (histories log now request budget intervals).Pairwise fun a b => a.id < b.id := by
    rw [← List.pairwise_map, ids_histories]
    exact pairwise_nameSet _
  rw [List.map_flatMap, List.nodup_flatMap]
  refine ⟨fun entity hentity => nodup_attributes hone hfetch hapart hids hentity,
    hascending.imp_of_mem fun {a b} ha hb hlt id hid hid' => ?_⟩
  have ha := isHistory hone hfetch hapart hids ha
  have hb := isHistory hone hfetch hapart hids hb
  obtain ⟨shown, hshown, rfl⟩ := List.mem_map.1 hid
  obtain ⟨shown', hshown', heq⟩ := List.mem_map.1 hid'
  obtain ⟨_, hshown⟩ := ha.grouped.mem_flatMap_snd.1 hshown
  obtain ⟨_, hshown'⟩ := hb.grouped.mem_flatMap_snd.1 hshown'
  exact hlt.ne (place_eq_of_id_eq hids ha hb hshown hshown' heq.symm).1

end Histories

/-! ### The response -/

/-- The response to a request without a number of instances has the history of each entity that has an
interval, in the order of their identifiers. It shows instances that are asked for, none of them twice, and
it is limited just when one that is asked for is missing. -/
theorem complete_unless_limited [PatternEngine] (log : Log) (ceiling : UInt32) (now : Instant)
    (intervals : List EntityInterval) (request : ReconstructionRequest) (hids : (log.instances.map (·.id)).Nodup)
    (hapart : Apart intervals) (hall : request.lastN = none) (hceiling : ceiling.toNat < UInt32.size - 1) :
    ∃ r, Gives (reconstruct Log.repository ceiling now intervals request) log r log ∧
      (r.entities.map (·.id)).Pairwise (· < ·) ∧
      (∀ e, e ∈ r.entities.map (·.id) ↔ e ∈ intervals.map (·.entityId)) ∧
      ((shownIn r).map (·.id)).Nodup ∧
      (∀ entity ∈ r.entities, IsHistory log request intervals entity) ∧
      (r.limited = false ↔
        ∀ i ∈ log.instances, IsAskedFor request intervals i → IsShown log r.entities i) := by
  have hone : 1 ≤ (budgetOf log ceiling intervals request).perAttribute := one_le_perAttribute
  have hfetch : (budgetOf log ceiling intervals request).perAttribute ≤
      (budgetOf log ceiling intervals request).fetchLimit := perAttribute_le_fetchLimit
  refine ⟨_, gives_reconstruct log ceiling now intervals request, ?_, fun e => ?_,
    nodup_histories hone hfetch hapart hids, fun entity hentity => isHistory hone hfetch hapart hids hentity,
    ?_⟩
  · rw [ids_histories]
    exact pairwise_nameSet _
  · rw [ids_histories]
    exact mem_nameSet
  · have hprobe : (budgetOf log ceiling intervals request).fetchLimit =
        (budgetOf log ceiling intervals request).perAttribute + 1 := by
      rw [budgetOf, hall]
      exact fetchLimit_of_none hceiling
    have hlimited : (budgetOf log ceiling intervals request).limited = false := by
      rw [budgetOf, hall]
      rfl
    rw [← forall_omittedAll_eq_nil_iff hone hfetch hapart hids, ← any_exceeds_eq_false_iff hprobe, hlimited,
      Bool.false_or]
    cases intervals with
    | nil => simp
    | cons interval rest => simp

theorem complete_unless_limited_twoWrites :
    ∃ r, Gives (reconstruct Log.repository 1 (.ofSecond 9) twoIntervals allObserved) twoWrites r twoWrites ∧
      ((shownIn r).map (·.id)).Nodup ∧
      (∀ entity ∈ r.entities, IsHistory twoWrites allObserved twoIntervals entity) ∧
      (r.limited = false ↔ ∀ i ∈ twoWrites.instances, IsAskedFor allObserved twoIntervals i →
        IsShown twoWrites r.entities i) := by
  obtain ⟨r, hr, -, -, hnodup, hhistories, hlimited⟩ := complete_unless_limited twoWrites 1 (.ofSecond 9)
    twoIntervals allObserved nodup_twoWrites apart_twoIntervals rfl (by decide)
  exact ⟨r, hr, hnodup, hhistories, hlimited⟩

end EntityHistory.Reconstruction
