/-
Candidates and the lifecycle of entities.

Which entities a query considers is found by going through the whole log once, while the state of an entity is
read off its records in the order of their times. Both go by the same record: the latest one, and of several of
one time the one written last. So an entity is a candidate just when it exists after all of its records and the
filter admits it with the type that it has then.

* `Log.getLast?_mergeSort_eq_latest`: the record that both go by;
* `exists_stateAt_iff`: when an entity exists, and with which type;
* `Log.mem_candidates_iff_exists_stateAt`: the candidates of a query.
-/
import EntityHistory.Entity.Lifecycle
import EntityHistory.Proofs.Interval.Page
import EntityHistory.Proofs.Sorting
import EntityHistory.Proofs.Store.Retrieval

namespace EntityHistory

variable {records : List EntityRecord} {reference : Instant} {r : EntityRecord}

/-! ### The state of an entity -/

/-- An entity exists unless its last record is a deletion, and it has the type of that record. -/
lemma exists_stateAt_iff {p : String → Prop} :
    (∃ state, stateAt records reference = some state ∧ p state.entityType) ↔
      ∃ r, (recordsUntil records reference).getLast? = some r ∧ r.mode ≠ .delete ∧ p r.entityType := by
  rw [stateAt, List.head?_reverse]
  cases (recordsUntil records reference).getLast? with
  | none => simp
  | some r =>
    by_cases hmode : r.mode = .delete
    · simp [hmode]
    · simp [hmode]

/-- Sorted records are left as they are when none of them is too late. -/
lemma recordsUntil_eq_self (hsorted : records.Pairwise fun a b => a.writtenAt ≤ b.writtenAt)
    (h : ∀ r ∈ records, r.writtenAt ≤ reference) : recordsUntil records reference = records := by
  have hall : (records.filter fun r => r.writtenAt ≤ reference) = records :=
    List.filter_eq_self.2 fun r hr => decide_eq_true (h r hr)
  rw [recordsUntil, hall]
  exact List.mergeSort_of_pairwise (hsorted.imp fun hle => decide_eq_true hle)

namespace Log

variable {log : Log} {filter : EntityFilter} {candidates : List String} {e : String}

/-! ### The latest record -/

lemma latest_eq (records : List EntityRecord) :
    latest records = records.foldl (keepBetter fun a b => decide (b.writtenAt ≤ a.writtenAt)) none := by
  rw [latest]
  refine congrArg (fun step => records.foldl step none) (funext fun best => funext fun r => ?_)
  cases best with
  | none => rfl
  | some best => by_cases h : r.writtenAt < best.writtenAt <;> simp [keepBetter, h, not_le, not_lt.1]

/-- Records in the order of their times end with the latest one. -/
theorem getLast?_mergeSort_eq_latest (records : List EntityRecord) :
    (records.mergeSort fun a b => a.writtenAt ≤ b.writtenAt).getLast? = latest records := by
  cases hlatest : latest records with
  | none =>
    rw [latest_eq, foldl_keepBetter_eq_none_iff] at hlatest
    rw [hlatest, List.mergeSort_nil, List.getLast?_nil]
  | some r =>
    have htrans : ∀ a b c : EntityRecord, decide (b.writtenAt ≤ a.writtenAt) = true →
        (decide (c.writtenAt ≤ b.writtenAt) = true ∨ decide (b.writtenAt ≤ c.writtenAt) = false) →
          decide (c.writtenAt ≤ a.writtenAt) = true := by
      intro a b c hab hbc
      simp only [decide_eq_true_eq, decide_eq_false_iff_not, not_le] at *
      rcases hbc with hbc | hbc
      · exact hbc.trans hab
      · exact hbc.le.trans hab
    rw [latest_eq] at hlatest
    obtain ⟨before, after, rfl, hbefore, hafter⟩ := exists_append_of_foldl_keepBetter htrans hlatest
    refine getLast?_mergeSort_of_key EntityRecord.writtenAt (fun _ _ => decide_eq_true_iff) ?_ ?_
    · exact fun a ha => of_decide_eq_true (hbefore a ha)
    · exact fun a ha => not_le.1 (of_decide_eq_false (hafter a ha))

/-! ### Candidates -/

/-- The latest record of an entity is one of its records. -/
lemma entityId_of_latest (h : latest (log.records.filter fun r => r.entityId = e) = some r) :
    r ∈ log.records ∧ r.entityId = e := by
  rw [← getLast?_mergeSort_eq_latest] at h
  have hmem := List.mem_of_getLast? h
  rw [List.mem_mergeSort, List.mem_filter] at hmem
  exact ⟨hmem.1, of_decide_eq_true hmem.2⟩

/-- A candidate is an entity whose latest record is no deletion and has a type that is admitted. -/
lemma mem_candidates_iff [engine : PatternEngine] {pattern : Option engine.Compiled}
    (hpattern : filter.pattern = .ok pattern) (h : log.candidates filter = .ok candidates) :
    e ∈ candidates ↔ ∃ r, latest (log.records.filter fun r => r.entityId = e) = some r ∧ r.mode ≠ .delete ∧
      filter.accepts pattern e r.entityType = true := by
  rw [Log.candidates, hpattern] at h
  obtain rfl := Except.ok.inj h
  rw [List.mem_filter, mem_nameSet, Option.any_eq_true]
  constructor
  · rintro ⟨-, r, hlatest, hadmits⟩
    rw [Bool.and_eq_true, decide_eq_true_eq] at hadmits
    exact ⟨r, hlatest, hadmits.1, (entityId_of_latest hlatest).2 ▸ hadmits.2⟩
  · rintro ⟨r, hlatest, hmode, haccepts⟩
    obtain ⟨hmem, rfl⟩ := entityId_of_latest hlatest
    exact ⟨List.mem_map_of_mem hmem, r, hlatest, by simp [hmode, haccepts]⟩

/-- Without a plan the answer to an interval query has the candidates as its entities. -/
lemma entityIds_findIntervals [PatternEngine] (time : TimeQuery) (h : log.candidates filter = .ok candidates)
    (hsorted : candidates.Pairwise (· < ·)) :
    ∃ page, log.findIntervals ⟨filter, time, none, none⟩ = .ok page ∧ page.entityIds = candidates := by
  refine ⟨_, findIntervals_eq_ok h, ?_⟩
  have hordered : (log.intervals candidates time none).Pairwise fun a b => a.entityId < b.entityId :=
    List.pairwise_map.2 hsorted
  rw [IntervalPage.entityIds, normalize_eq_self hordered]
  refine entityIds_eq_of_mem_iff (hordered.imp le_of_lt) hsorted fun e => ?_
  simp [intervals]

/-- **Candidates are the entities that exist.**  With a valid pattern a query has candidates, and without a plan
they are the entities of its answer. Whatever the order in which the records were written and whatever times
they share, an entity is among them just when at an instant that none of its records is later than it has a
state, and the filter admits it with the type of that state. -/
theorem mem_candidates_iff_exists_stateAt [engine : PatternEngine] {pattern : Option engine.Compiled}
    (log : Log) (filter : EntityFilter) (hpattern : filter.pattern = .ok pattern) :
    ∃ candidates, log.candidates filter = .ok candidates ∧
      (∀ time, ∃ page, log.findIntervals ⟨filter, time, none, none⟩ = .ok page ∧ page.entityIds = candidates) ∧
      ∀ e reference, (∀ r ∈ log.records, r.entityId = e → r.writtenAt ≤ reference) →
        (e ∈ candidates ↔ ∃ state, stateAt (log.entityRecords e) reference = some state ∧
          filter.accepts pattern e state.entityType = true) := by
  obtain ⟨candidates, hcandidates, hsorted⟩ := exists_candidates log hpattern
  refine ⟨candidates, hcandidates, fun time => entityIds_findIntervals time hcandidates hsorted, ?_⟩
  intro e reference hreference
  have hrecords : (log.entityRecords e).Pairwise fun a b => a.writtenAt ≤ b.writtenAt := by
    refine (pairwise_mergeSort_of_key EntityRecord.writtenAt (fun _ _ => decide_eq_true_iff) _).imp ?_
    exact of_decide_eq_true
  have huntil : recordsUntil (log.entityRecords e) reference = log.entityRecords e := by
    refine recordsUntil_eq_self hrecords fun r hr => ?_
    rw [entityRecords, List.mem_mergeSort, List.mem_filter] at hr
    exact hreference r hr.1 (of_decide_eq_true hr.2)
  rw [exists_stateAt_iff (p := fun entityType => filter.accepts pattern e entityType = true), huntil, entityRecords,
    getLast?_mergeSort_eq_latest, mem_candidates_iff hpattern hcandidates]

/-- A log in which an entity is created, deleted and created with another type at one and the same time. -/
def recreatedAtOnce : Log where
  records := [⟨"urn:a", "A", .create, .ofSecond 1⟩, ⟨"urn:a", "A", .delete, .ofSecond 1⟩,
    ⟨"urn:a", "B", .create, .ofSecond 1⟩]

theorem mem_candidates_iff_exists_stateAt_recreatedAtOnce :
    ∃ candidates, recreatedAtOnce.candidates { types := ["B"] } = .ok candidates ∧
      (∀ r ∈ recreatedAtOnce.records, r.entityId = "urn:a" → r.writtenAt ≤ .ofSecond 1) ∧
      ("urn:a" ∈ candidates ↔ ∃ state, stateAt (recreatedAtOnce.entityRecords "urn:a") (.ofSecond 1) = some state ∧
        EntityFilter.accepts { types := ["B"] } none "urn:a" state.entityType = true) := by
  have hreference : ∀ r ∈ recreatedAtOnce.records, r.entityId = "urn:a" → r.writtenAt ≤ .ofSecond 1 := by decide
  obtain ⟨candidates, hcandidates, -, hiff⟩ := mem_candidates_iff_exists_stateAt recreatedAtOnce { types := ["B"] } rfl
  exact ⟨candidates, hcandidates, hreference, hiff "urn:a" (.ofSecond 1) hreference⟩

end Log

end EntityHistory
