/-
The budget of a reconstruction.

The budget holds for each interval on its own. An attribute of an entity therefore stays within it if there
are not too many of its instances in all, or if they all lie in one interval; otherwise several intervals
leave instances of it, and together they are more than the budget. If all attributes stay within the budget
and there may be an instance of each at all, then the whole response stays within the ceiling.

* `Reconstruction.length_takenAll_le_iff`: when what the budget leaves of an attribute is within the budget;
* `Reconstruction.length_attributes_le`: no entity has more attributes than the budget is computed with;
* `Reconstruction.within_budget_iff_fits`: when a response is within the budget.
-/
import Mathlib.Algebra.Group.Action.Defs
import Mathlib.Algebra.GroupWithZero.Nat
import Mathlib.Algebra.Order.BigOperators.Group.List
import Mathlib.Data.List.Perm.Subperm
import EntityHistory.Pattern.Reader
import EntityHistory.Proofs.Interval.Governor
import EntityHistory.Proofs.Service.Shown

namespace EntityHistory.Reconstruction

open Named TemporalEntity EntityInterval

variable {log : Log} {ceiling : UInt32} {now : Instant} {request : ReconstructionRequest}
  {budget : InstanceBudget} {interval : EntityInterval} {intervals : List EntityInterval}
  {attributeId e : String} {i : AttributeInstance} {entity : TemporalEntity} {n : Nat}

/-! ### Budgets of several intervals -/

lemma sum_min_le_sum (n : Nat) (counts : List Nat) : (counts.map (min n)).sum ≤ counts.sum := by
  induction counts with
  | nil => simp
  | cons count counts ih =>
    rw [List.map_cons, List.sum_cons, List.sum_cons]
    exact Nat.add_le_add (Nat.min_le_right n count) ih

lemma sum_min_eq_sum {counts : List Nat} (h : ∀ count ∈ counts, count ≤ n) :
    (counts.map (min n)).sum = counts.sum := by
  rw [List.map_congr_left fun count hcount => Nat.min_eq_right (h count hcount), List.map_id']

/-- If each of several counts is cut down to a number and their sum is then at most this number, it was so
before, or all but one of the counts are zero. -/
lemma sum_min_le_iff (hn : 1 ≤ n) {counts : List Nat} :
    (counts.map (min n)).sum ≤ n ↔ counts.sum ≤ n ∨ ∃ count ∈ counts, count = counts.sum := by
  have hsplit : ∀ before count after, ((before ++ count :: after).map (min n)).sum =
      (before.map (min n)).sum + (min n count + (after.map (min n)).sum) := by
    intro before count after
    rw [List.map_append, List.sum_append, List.map_cons, List.sum_cons]
  constructor
  · intro h
    by_cases hall : ∀ count ∈ counts, count ≤ n
    · rw [sum_min_eq_sum hall] at h
      exact Or.inl h
    · -- a count above the number uses all of it up
      push Not at hall
      obtain ⟨count, hcount, hlt⟩ := hall
      obtain ⟨before, after, rfl⟩ := List.append_of_mem hcount
      rw [hsplit] at h
      have hzero : ∀ other ∈ before ++ after, min n other = 0 := by
        intro other hother
        have hle : min n other ≤ ((before ++ after).map (min n)).sum :=
          List.single_le_sum (by simp) _ (List.mem_map_of_mem hother)
        rw [List.map_append, List.sum_append] at hle
        omega
      have hsum : (before ++ after).sum = 0 :=
        List.sum_eq_zero fun other hother => by
          have := hzero other hother
          omega
      refine Or.inr ⟨count, hcount, ?_⟩
      rw [List.sum_append] at hsum ⊢
      rw [List.sum_cons]
      omega
  · rintro (h | ⟨count, hcount, hsum⟩)
    · exact (sum_min_le_sum n counts).trans h
    · obtain ⟨before, after, rfl⟩ := List.append_of_mem hcount
      rw [hsplit]
      rw [List.sum_append, List.sum_cons] at hsum
      have hbefore := sum_min_le_sum n before
      have hafter := sum_min_le_sum n after
      omega

/-- The instances of an attribute that a request asks for are not more than a number, or they all lie in one
interval. -/
def Fits (log : Log) (request : ReconstructionRequest) (intervals : List EntityInterval)
    (e attributeId : String) (n : Nat) : Prop :=
  (matchingAll log request intervals e attributeId).length ≤ n ∨
    ∃ interval ∈ ownIntervals intervals e, ∀ i ∈ matchingAll log request intervals e attributeId,
      selects request interval i = true

lemma filter_matchingAll (h : interval ∈ ownIntervals intervals e) :
    (matchingAll log request intervals e attributeId).filter (selects request interval) =
      matching log request attributeId interval := by
  rw [matchingAll, List.filter_filter, matching]
  refine List.filter_congr fun i _ => ?_
  cases hselects : selects request interval i with
  | false => simp
  | true =>
    have hany : ((ownIntervals intervals e).any fun interval => selects request interval i) = true :=
      List.any_eq_true.2 ⟨interval, h, hselects⟩
    simp [hany]

lemma length_matching_eq_iff (h : interval ∈ ownIntervals intervals e) :
    (matching log request attributeId interval).length =
        (matchingAll log request intervals e attributeId).length ↔
      ∀ i ∈ matchingAll log request intervals e attributeId, selects request interval i = true := by
  rw [← filter_matchingAll h]
  exact List.length_filter_eq_length_iff

lemma length_matchingAll (h : Apart intervals) : (matchingAll log request intervals e attributeId).length =
    ((ownIntervals intervals e).map fun interval =>
      (matching log request attributeId interval).length).sum := by
  rw [← (flatMap_matching_perm h log request e attributeId).length_eq, List.length_flatMap]

lemma length_takenAll : (takenAll log request budget intervals e attributeId).length =
    (((ownIntervals intervals e).map fun interval =>
      (matching log request attributeId interval).length).map (min budget.perAttribute)).sum := by
  rw [takenAll, List.length_flatMap, List.map_map]
  simp only [length_taken]
  rfl

/-- What the budget leaves of an attribute is within the budget just when it is all that there is, or all of
it lies in one interval. -/
theorem length_takenAll_le_iff (h : Apart intervals) (hone : 1 ≤ budget.perAttribute) :
    (takenAll log request budget intervals e attributeId).length ≤ budget.perAttribute ↔
      Fits log request intervals e attributeId budget.perAttribute := by
  rw [length_takenAll, sum_min_le_iff hone, ← length_matchingAll h, Fits]
  refine or_congr_right ⟨?_, ?_⟩
  · rintro ⟨count, hcount, hsum⟩
    obtain ⟨interval, hinterval, rfl⟩ := List.mem_map.1 hcount
    exact ⟨interval, hinterval, (length_matching_eq_iff hinterval).1 hsum⟩
  · rintro ⟨interval, hinterval, hall⟩
    exact ⟨_, List.mem_map.2 ⟨interval, hinterval, rfl⟩, (length_matching_eq_iff hinterval).2 hall⟩

/-- What the budget leaves of an attribute is within the budget for each interval. -/
lemma length_takenAll_le : (takenAll log request budget intervals e attributeId).length ≤
    (ownIntervals intervals e).length * budget.perAttribute := by
  rw [length_takenAll]
  refine (List.sum_le_card_nsmul _ budget.perAttribute fun count hcount => ?_).trans ?_
  · obtain ⟨matched, -, rfl⟩ := List.mem_map.1 hcount
    exact Nat.min_le_left _ _
  · rw [List.length_map, List.length_map, smul_eq_mul]

/-! ### Responses -/

/-- An attribute of a history has an instance in the log that the request asks for. -/
lemma exists_mem_matchingAll (hone : 1 ≤ budget.perAttribute)
    (hfetch : budget.perAttribute ≤ budget.fetchLimit)
    (h : entity ∈ histories log now request budget intervals) (ha : attributeId ∈ names entity.attributes) :
    ∃ i ∈ log.instances, i.entityId = entity.id ∧ i.attributeId = attributeId ∧
      (request.attributeIds = [] ∨ attributeId ∈ request.attributeIds) := by
  obtain ⟨entry, hentry, rfl⟩ := List.mem_map.1 ha
  obtain ⟨hne, hlist⟩ := (listAt_histories hone hfetch h).1.mem_iff.1 (show (entry.1, entry.2) ∈ _ from hentry)
  have hlength := length_listAt_le hone hfetch h entry.1
  have hpos : 0 < (takenAll log request budget intervals entity.id entry.1).length := by
    rw [hlist] at hlength
    exact (List.length_pos_iff.2 hne).trans_le hlength
  obtain ⟨i, hi⟩ := List.exists_mem_of_length_pos hpos
  obtain ⟨interval, hinterval, hi⟩ := List.mem_flatMap.1 hi
  obtain ⟨hmem, hattribute, hselects⟩ := mem_matching (mem_of_mem_taken hi)
  have hentity : interval.entityId = entity.id := by simpa [ownIntervals] using (List.mem_filter.1 hinterval).2
  simp only [selects, Bool.and_eq_true, Bool.or_eq_true, decide_eq_true_eq, List.contains_iff_mem] at hselects
  rw [hattribute] at hselects
  exact ⟨i, hmem, hselects.1.1.trans hentity, hattribute, hselects.1.2⟩

/-- No entity has more attributes than the budget is computed with. -/
lemma length_attributes_le (hone : 1 ≤ budget.perAttribute) (hfetch : budget.perAttribute ≤ budget.fetchLimit)
    (h : entity ∈ histories log now request budget intervals) :
    entity.attributes.length ≤ attributeCount log request (entityIds intervals) := by
  have hnodup : (names entity.attributes).Nodup :=
    (sorted_iff_names.1 (listAt_histories hone hfetch h).1.sorted).imp fun hlt => hlt.ne
  have hlength : entity.attributes.length = (names entity.attributes).length := (List.length_map _).symm
  have he : entity.id ∈ entityIds intervals := by
    rw [← ids_histories]
    exact List.mem_map_of_mem h
  rw [hlength, attributeCount]
  split
  · refine le_trans (List.Nodup.subperm hnodup fun name hname => ?_).length_le (Log.length_le_mostAttributes he)
    obtain ⟨i, hi, hie, hia, -⟩ := exists_mem_matchingAll hone hfetch h hname
    rw [mem_nameSet]
    exact List.mem_map.2 ⟨i, by simpa [hie] using hi, hia⟩
  · rename_i hne
    refine (List.Nodup.subperm hnodup fun name hname => ?_).length_le
    obtain ⟨-, -, -, -, hnil | hmem⟩ := exists_mem_matchingAll hone hfetch h hname
    · exact absurd hnil hne
    · exact hmem

/-- If no attribute of an entity has more than so many instances, the entity has not more than this for each
of its attributes. -/
lemma instanceCount_le (hgrouped : Grouped entity.attributes)
    (h : ∀ attributeId, (listAt entity.attributes attributeId).length ≤ n) :
    entity.instanceCount ≤ entity.attributes.length * n := by
  rw [instanceCount, List.length_flatMap, ← List.length_map fun entry => entry.2.length]
  refine List.sum_le_card_nsmul _ n fun count hcount => ?_
  obtain ⟨entry, hentry, rfl⟩ := List.mem_map.1 hcount
  have hlist := (hgrouped.mem_iff.1 (show (entry.1, entry.2) ∈ _ from hentry)).2
  have hle := h entry.1
  rwa [hlist] at hle

/-- An attribute of a response is within the budget for each interval of its entity. It is within the budget
as a whole just when the instances that are asked for are not more than the budget, or they all lie in one
interval. If every attribute is, and there may be an instance for each attribute of each entity, then the
response is within the ceiling. -/
theorem within_budget_iff_fits [PatternEngine] (log : Log) (ceiling : UInt32) (now : Instant)
    (intervals : List EntityInterval) (request : ReconstructionRequest) (hapart : Apart intervals) :
    ∃ r, Gives (reconstruct Log.repository ceiling now intervals request) log r log ∧
      r.entities.map (·.id) = entityIds intervals ∧
      (∀ entity ∈ r.entities, ∀ attributeId,
        (listAt entity.attributes attributeId).length ≤
          (ownIntervals intervals entity.id).length * (budgetOf log ceiling intervals request).perAttribute ∧
        (Fits log request intervals entity.id attributeId
            (budgetOf log ceiling intervals request).perAttribute →
          (listAt entity.attributes attributeId).length ≤
            (budgetOf log ceiling intervals request).perAttribute) ∧
        (((matchingAll log request intervals entity.id attributeId).map (·.id)).Nodup →
          (listAt entity.attributes attributeId).length ≤
            (budgetOf log ceiling intervals request).perAttribute →
          Fits log request intervals entity.id attributeId
            (budgetOf log ceiling intervals request).perAttribute)) ∧
      ((∀ entity ∈ r.entities, ∀ attributeId, (listAt entity.attributes attributeId).length ≤
          (budgetOf log ceiling intervals request).perAttribute) →
        (entityIds intervals).length * attributeCount log request (entityIds intervals) ≤ ceiling.toNat →
        (r.entities.map (·.instanceCount)).sum ≤ ceiling.toNat) := by
  have hone : 1 ≤ (budgetOf log ceiling intervals request).perAttribute := one_le_perAttribute
  have hfetch : (budgetOf log ceiling intervals request).perAttribute ≤
      (budgetOf log ceiling intervals request).fetchLimit := perAttribute_le_fetchLimit
  refine ⟨_, gives_reconstruct log ceiling now intervals request, ids_histories, ?_, ?_⟩
  · intro entity hentity attributeId
    have hlength := length_listAt_le hone hfetch hentity attributeId
    refine ⟨hlength.trans length_takenAll_le, fun hfits => ?_, fun hids hle => ?_⟩
    · exact hlength.trans ((length_takenAll_le_iff hapart hone).2 hfits)
    · rw [length_listAt_eq hone hfetch hapart hentity hids] at hle
      exact (length_takenAll_le_iff hapart hone).1 hle
  · intro hwithin hcount
    have hentity : ∀ count ∈ (histories log now request (budgetOf log ceiling intervals request) intervals).map
        (·.instanceCount), count ≤ attributeCount log request (entityIds intervals) *
          (budgetOf log ceiling intervals request).perAttribute := by
      intro count hcount
      obtain ⟨entity, hentity, rfl⟩ := List.mem_map.1 hcount
      exact (instanceCount_le (listAt_histories hone hfetch hentity).1 (hwithin entity hentity)).trans
        (Nat.mul_le_mul_right _ (length_attributes_le hone hfetch hentity))
    have hlength : (histories log now request (budgetOf log ceiling intervals request) intervals).length =
        (entityIds intervals).length := by
      rw [← ids_histories, List.length_map]
    refine (List.sum_le_card_nsmul _ _ hentity).trans ?_
    rw [List.length_map, hlength, smul_eq_mul, ← Nat.mul_assoc]
    exact perAttribute_mul_le hcount

/-- A write to an attribute. -/
def write (id : String) (second : Int) : AttributeInstance where
  id := id
  entityId := "urn:a"
  attributeId := "t"
  mode := .update
  value := some (.boolean true)
  observedAt := some (.ofSecond second)
  writtenAt := .ofSecond second
  datasetId := none
  unitCode := none
  hasSubAttributes := false

/-- A log with two writes to one attribute. -/
def twoWrites : Log := { instances := [write "1" 1, write "2" 5] }

/-- An interval around each of the two writes. -/
def twoIntervals : List EntityInterval :=
  [⟨"urn:a", .ofSecond 1, .ofSecond 2⟩, ⟨"urn:a", .ofSecond 4, .ofSecond 5⟩]

/-- The request for all that is observed. -/
def allObserved : ReconstructionRequest := ⟨.unbounded .observedAt, [], none⟩

lemma apart_twoIntervals : Apart twoIntervals :=
  (show Canonical twoIntervals by decide).apart

lemma nodup_twoWrites : (twoWrites.instances.map (·.id)).Nodup := by decide

theorem within_budget_iff_fits_twoWrites :
    ∃ r, Gives (reconstruct Log.repository 1 (.ofSecond 9) twoIntervals allObserved) twoWrites r twoWrites ∧
      ∀ entity ∈ r.entities, ∀ attributeId, (listAt entity.attributes attributeId).length ≤
          (budgetOf twoWrites 1 twoIntervals allObserved).perAttribute ↔
        Fits twoWrites allObserved twoIntervals entity.id attributeId
          (budgetOf twoWrites 1 twoIntervals allObserved).perAttribute := by
  obtain ⟨r, hr, -, hlength, -⟩ := within_budget_iff_fits twoWrites 1 (.ofSecond 9) twoIntervals allObserved
    apart_twoIntervals
  refine ⟨r, hr, fun entity hentity attributeId => ?_⟩
  obtain ⟨-, hfits, hle⟩ := hlength entity hentity attributeId
  exact ⟨hle (nodup_matchingAll nodup_twoWrites), hfits⟩

/-- With a budget of one instance for an attribute, each of two intervals leaves one of it. -/
theorem exists_perAttribute_lt_length :
    ∃ r, Gives (reconstruct Log.repository 1 (.ofSecond 9) twoIntervals allObserved) twoWrites r twoWrites ∧
      ∃ entity ∈ r.entities, (budgetOf twoWrites 1 twoIntervals allObserved).perAttribute <
        (listAt entity.attributes "t").length := by
  refine ⟨_, gives_reconstruct twoWrites 1 (.ofSecond 9) twoIntervals allObserved, ?_⟩
  obtain ⟨entity, hentity, hid⟩ := exists_mem_histories (show "urn:a" ∈ entityIds twoIntervals by decide)
  refine ⟨entity, hentity, ?_⟩
  rw [length_listAt_eq one_le_perAttribute perAttribute_le_fetchLimit apart_twoIntervals hentity
    (nodup_matchingAll nodup_twoWrites), length_takenAll, hid]
  decide

end EntityHistory.Reconstruction
