/-
The last instances of each attribute.

A request for the last instances of each attribute fetches them in descending order, so what the budget
leaves of an interval are its latest ones. Put in order, they are the latest ones of all intervals just when
nothing is left out, or everything lies in one interval: otherwise each interval leaves its own latest
instances, and together they are too many.

* `Reconstruction.isLatest_takenAll`: when what the budget leaves are the latest instances;
* `Reconstruction.isLatest_iff_fits`: when a response shows the latest instances.
-/
import EntityHistory.Proofs.Service.Share

namespace EntityHistory.Reconstruction

open Named TemporalEntity EntityInterval

variable {log : Log} {request : ReconstructionRequest} {budget : InstanceBudget}
  {interval : EntityInterval} {intervals : List EntityInterval} {attributeId e : String}
  {i j : AttributeInstance} {n : UInt32}

/-- Some instances are the latest ones of a list, as many as are asked for or all, in ascending order. -/
structure IsLatest (property : TimeProperty) (n : Nat) (all kept : List AttributeInstance) : Prop where
  length_eq : kept.length = min n all.length
  ascending : kept.Pairwise fun i j => ∀ s t, i.time? property = some s → j.time? property = some t → s ≤ t
  omitted : ∃ omitted, (kept ++ omitted).Perm all ∧ ∀ i ∈ kept, ∀ j ∈ omitted, ∀ s t,
    i.time? property = some s → j.time? property = some t → t ≤ s

/-- If everything lies in one interval, then nothing lies in another. -/
lemma matching_eq_nil {other : EntityInterval} (hother : other ∈ ownIntervals intervals e)
    (h : ∀ e t, interval.Spans e t → ¬ other.Spans e t)
    (hall : ∀ i ∈ matchingAll log request intervals e attributeId, selects request interval i = true) :
    matching log request attributeId other = [] := by
  rw [← filter_matchingAll hother, List.filter_eq_nil_iff]
  intro i hi hselects
  obtain ⟨t, ht⟩ := exists_time_of_selects hselects
  exact h i.entityId t (spans_of_selects (hall i hi) ht) (spans_of_selects hselects ht)

lemma taken_eq_nil (h : matching log request attributeId interval = []) :
    taken log request budget attributeId interval = [] := by
  rw [taken, h, (Log.ordered_perm _ []).eq_nil, List.take_nil]

/-- If everything lies in one interval, then the budget leaves what it leaves of this interval. -/
lemma takenAll_eq_taken (hapart : Apart intervals) (hinterval : interval ∈ ownIntervals intervals e)
    (hall : ∀ i ∈ matchingAll log request intervals e attributeId, selects request interval i = true) :
    takenAll log request budget intervals e attributeId = taken log request budget attributeId interval := by
  obtain ⟨before, after, hown⟩ := List.append_of_mem hinterval
  have hpairs := apart_ownIntervals hapart e
  rw [hown, Apart, List.pairwise_append, List.pairwise_cons] at hpairs
  obtain ⟨-, ⟨hafter, -⟩, hbefore⟩ := hpairs
  have hnilBefore : before.flatMap (taken log request budget attributeId) = [] := by
    refine List.flatMap_eq_nil_iff.2 fun other hother => taken_eq_nil ?_
    exact matching_eq_nil (by simp [hown, hother])
      (fun e t hspans hspans' => hbefore other hother interval (by simp) e t hspans' hspans) hall
  have hnilAfter : after.flatMap (taken log request budget attributeId) = [] := by
    refine List.flatMap_eq_nil_iff.2 fun other hother => taken_eq_nil ?_
    exact matching_eq_nil (by simp [hown, hother]) (hafter other hother) hall
  rw [takenAll, hown, List.flatMap_append, List.flatMap_cons, hnilBefore, hnilAfter, List.nil_append,
    List.append_nil]

/-- If there are not more instances than the budget allows, then none is left out. -/
lemma omittedAll_eq_nil
    (hle : (matchingAll log request intervals e attributeId).length ≤ budget.perAttribute) :
    omittedAll log request budget intervals e attributeId = [] := by
  refine List.flatMap_eq_nil_iff.2 fun interval hinterval => List.drop_eq_nil_of_le ?_
  rw [(Log.ordered_perm _ _).length_eq, ← filter_matchingAll hinterval]
  exact (List.length_filter_le _ _).trans hle

/-- Fetched in descending order, what is left out of an interval is not later than what is left. -/
lemma time_le_of_mem_drop (hlast : request.lastN.isSome = true) {s t : Instant}
    (hi : i ∈ taken log request budget attributeId interval)
    (hj : j ∈ (Log.ordered (instanceQuery request budget interval)
      (matching log request attributeId interval)).drop budget.perAttribute)
    (hs : i.time? request.time.property = some s) (ht : j.time? request.time.property = some t) : t ≤ s := by
  have hpairs := Log.pairwise_ordered (instanceQuery request budget interval)
    (matching log request attributeId interval)
  rw [← List.take_append_drop budget.perAttribute (Log.ordered _ _), List.pairwise_append] at hpairs
  have hbefore := hpairs.2.2 i hi j hj
  have horder : (instanceQuery request budget interval).order = .descending := if_pos hlast
  rw [horder] at hbefore
  exact Log.time_le_of_isBefore hbefore ht hs

/-- What the budget leaves of an attribute are the latest instances of all intervals if they are all, or all
lie in one interval. -/
lemma exists_omitted (hapart : Apart intervals) (hlast : request.lastN.isSome = true)
    (hfits : Fits log request intervals e attributeId budget.perAttribute) :
    ∃ omitted, (takenAll log request budget intervals e attributeId ++ omitted).Perm
        (matchingAll log request intervals e attributeId) ∧
      (takenAll log request budget intervals e attributeId).length =
        min budget.perAttribute (matchingAll log request intervals e attributeId).length ∧
      ∀ i ∈ takenAll log request budget intervals e attributeId, ∀ j ∈ omitted, ∀ s t,
        i.time? request.time.property = some s → j.time? request.time.property = some t → t ≤ s := by
  rcases hfits with hle | ⟨interval, hinterval, hall⟩
  · have hperm := taken_append_omitted_perm hapart log request budget e attributeId
    rw [omittedAll_eq_nil hle] at hperm
    refine ⟨[], hperm, ?_, by simp⟩
    rw [Nat.min_eq_right hle, ← hperm.length_eq, List.append_nil]
  · have hmatching : matching log request attributeId interval =
        matchingAll log request intervals e attributeId := by
      rw [← filter_matchingAll hinterval]
      exact List.filter_eq_self.2 hall
    rw [takenAll_eq_taken hapart hinterval hall, ← hmatching]
    refine ⟨_, ?_, length_taken, fun i hi j hj s t => time_le_of_mem_drop hlast hi hj⟩
    rw [taken, List.take_append_drop]
    exact Log.ordered_perm _ _

/-- Put in order, what the budget leaves are then the latest instances in ascending order. -/
theorem isLatest_takenAll (hapart : Apart intervals) (hlast : request.lastN.isSome = true)
    (hfits : Fits log request intervals e attributeId budget.perAttribute) :
    IsLatest request.time.property budget.perAttribute (matchingAll log request intervals e attributeId)
      ((takenAll log request budget intervals e attributeId).mergeSort
        (Log.isBefore request.time.property)) := by
  obtain ⟨omitted, hperm, hlength, hlater⟩ := exists_omitted hapart hlast hfits
  refine ⟨by rw [List.length_mergeSort, hlength], ?_, omitted, ?_,
    fun i hi => hlater i (List.mem_mergeSort.1 hi)⟩
  · refine (pairwise_mergeSort_of_key (Log.key _) (fun _ _ => Log.isBefore_iff_key_le) _).imp ?_
    exact fun hbefore s t hs ht => Log.time_le_of_isBefore hbefore hs ht
  · exact ((List.mergeSort_perm _ _).append_right omitted).trans hperm

/-- A request for the last instances of each attribute shows just the latest ones of an attribute if and only
if they are not more than asked for, or all lie in one interval; for an attribute of which no two instances
have the same identifier. -/
theorem isLatest_iff_fits [PatternEngine] (log : Log) (ceiling : UInt32) (now : Instant)
    (intervals : List EntityInterval) (request : ReconstructionRequest) (hapart : Apart intervals)
    (hlast : request.lastN = some n) (hn : 1 ≤ n.toNat) (hshare : n.toNat ≤ share ceiling (entityIds intervals).length
      (attributeCount log request (entityIds intervals))) :
    ∃ r, Gives (reconstruct Log.repository ceiling now intervals request) log r log ∧
      r.entities.map (·.id) = entityIds intervals ∧
      ∀ entity ∈ r.entities, ∀ attributeId,
        ((matchingAll log request intervals entity.id attributeId).map (·.id)).Nodup →
        ((∃ kept, IsLatest request.time.property n.toNat
            (matchingAll log request intervals entity.id attributeId) kept ∧
          List.Forall₂ (Shows log) kept (listAt entity.attributes attributeId)) ↔
        Fits log request intervals entity.id attributeId n.toNat) := by
  have hbudget : (budgetOf log ceiling intervals request).perAttribute = n.toNat := by
    rw [budgetOf, hlast]
    exact perAttribute_of_lastN hn hshare
  have hone : 1 ≤ (budgetOf log ceiling intervals request).perAttribute := one_le_perAttribute
  refine ⟨_, gives_reconstruct log ceiling now intervals request, ids_histories, ?_⟩
  intro entity hentity attributeId hids
  have hshows := forall₂_shows hone perAttribute_le_fetchLimit hapart hentity hids
  rw [← hbudget]
  constructor
  · rintro ⟨kept, hkept, hforall⟩
    have hlength := hforall.length_eq.trans hshows.length_eq.symm
    rw [List.length_mergeSort, hkept.length_eq] at hlength
    refine (length_takenAll_le_iff hapart hone).1 ?_
    rw [← hlength]
    exact Nat.min_le_left _ _
  · intro hfits
    exact ⟨_, isLatest_takenAll hapart (by simp [hlast]) hfits, hshows⟩

/-- The request for the last that is observed. -/
def lastObserved : ReconstructionRequest := ⟨.unbounded .observedAt, [], some 1⟩

theorem isLatest_iff_fits_twoWrites :
    ∃ r, Gives (reconstruct Log.repository 1000 (.ofSecond 9) twoIntervals lastObserved) twoWrites r twoWrites ∧
      ∀ entity ∈ r.entities, ∀ attributeId,
        (∃ kept, IsLatest .observedAt 1
            (matchingAll twoWrites lastObserved twoIntervals entity.id attributeId) kept ∧
          List.Forall₂ (Shows twoWrites) kept (listAt entity.attributes attributeId)) ↔
        Fits twoWrites lastObserved twoIntervals entity.id attributeId 1 := by
  obtain ⟨r, hr, -, hiff⟩ := isLatest_iff_fits (n := 1) twoWrites 1000 (.ofSecond 9) twoIntervals lastObserved
    apart_twoIntervals rfl (by decide) (by decide)
  exact ⟨r, hr, fun entity hentity attributeId =>
    hiff entity hentity attributeId (nodup_matchingAll nodup_twoWrites)⟩

/-- When one instance is asked for, each of two intervals gives one. -/
theorem exists_one_lt_length :
    ∃ r, Gives (reconstruct Log.repository 1000 (.ofSecond 9) twoIntervals lastObserved) twoWrites r twoWrites ∧
      ∃ entity ∈ r.entities, ∀ kept, List.Forall₂ (Shows twoWrites) kept (listAt entity.attributes "t") →
        ¬ IsLatest .observedAt 1 (matchingAll twoWrites lastObserved twoIntervals entity.id "t") kept := by
  refine ⟨_, gives_reconstruct twoWrites 1000 (.ofSecond 9) twoIntervals lastObserved, ?_⟩
  obtain ⟨entity, hentity, hid⟩ := exists_mem_histories (show "urn:a" ∈ entityIds twoIntervals by decide)
  refine ⟨entity, hentity, fun kept hforall hkept => ?_⟩
  have hlength := hforall.length_eq
  rw [length_listAt_eq one_le_perAttribute perAttribute_le_fetchLimit apart_twoIntervals hentity
    (nodup_matchingAll nodup_twoWrites), length_takenAll, hid, hkept.length_eq] at hlength
  exact absurd (hlength ▸ Nat.min_le_left _ _) (by decide)

end EntityHistory.Reconstruction
