/-
Canonical lists of intervals.

A list of intervals is canonical when none of them ends before it starts, the entities come in ascending
order, and of one entity each interval starts strictly after the one before it ends. Such a list is in the
order of intervals, and an interval that spans an instant is the only one of its entity that does.

* `EntityInterval.pairwise_sort`: sorting brings intervals into their order;
* `EntityInterval.Canonical.sort_eq`: a canonical list is sorted already;
* `EntityInterval.not_covers_of_precedes`: what an interval spans is covered by none of those after it;
* `EntityInterval.Canonical.apart`: its intervals have no instant in common.
-/
import Mathlib.Data.Prod.Lex
import EntityHistory.Interval.Algebra
import EntityHistory.Proofs.Sorting
import EntityHistory.Proofs.Time.Order

namespace EntityHistory

namespace EntityInterval

variable {a b c i : EntityInterval} {is : List EntityInterval} {e : String} {t : Instant}

/-! ### The order of intervals -/

/-- What intervals are ordered by. -/
def key (i : EntityInterval) : String ×ₗ Instant ×ₗ Instant := toLex (i.entityId, toLex (i.start, i.stop))

lemma isBefore_iff_key_le : a.isBefore b = true ↔ a.key ≤ b.key := by
  simp [isBefore, key, Prod.Lex.toLex_le_toLex]

lemma isBefore_iff : a.isBefore b = true ↔ a.entityId < b.entityId ∨
    a.entityId = b.entityId ∧ (a.start < b.start ∨ a.start = b.start ∧ a.stop ≤ b.stop) := by
  simp [isBefore]

lemma pairwise_sort (is : List EntityInterval) : (sort is).Pairwise fun a b => a.isBefore b = true :=
  pairwise_mergeSort_of_key key (fun _ _ => isBefore_iff_key_le) is

@[simp] lemma mem_sort : i ∈ sort is ↔ i ∈ is := List.mem_mergeSort

/-! ### Coverage -/

/-- An interval is of an entity and contains an instant. -/
def Spans (i : EntityInterval) (e : String) (t : Instant) : Prop :=
  i.entityId = e ∧ i.start ≤ t ∧ t ≤ i.stop

end EntityInterval

open EntityInterval

variable {a b c i : EntityInterval} {is js : List EntityInterval} {e : String} {t : Instant}

lemma covers_iff : covers is e t = true ↔ ∃ i ∈ is, i.Spans e t := by
  simp [covers, Spans, contains]

@[simp] lemma covers_nil : covers [] e t = false := rfl

lemma covers_cons : covers (i :: is) e t = true ↔ i.Spans e t ∨ covers is e t = true := by
  simp only [covers_iff, List.exists_mem_cons_iff]

lemma covers_append : covers (is ++ js) e t = true ↔ covers is e t = true ∨ covers js e t = true := by
  simp only [covers_iff, List.mem_append, or_and_right, exists_or]

lemma covers_sort (is : List EntityInterval) : covers (sort is) e t = true ↔ covers is e t = true := by
  simp only [covers_iff, mem_sort]

namespace EntityInterval

/-! ### Canonical lists -/

/-- One interval lies before another: it is of an earlier entity, or of the same and ends before the other
starts. -/
def Precedes (a b : EntityInterval) : Prop :=
  a.entityId < b.entityId ∨ a.entityId = b.entityId ∧ a.stop < b.start

/-- The form of a list of intervals that the algebra works with. -/
structure Canonical (is : List EntityInterval) : Prop where
  start_le_stop : ∀ i ∈ is, i.start ≤ i.stop
  pairwise : is.Pairwise Precedes

instance : DecidableRel Precedes := fun a b =>
  inferInstanceAs (Decidable (a.entityId < b.entityId ∨ a.entityId = b.entityId ∧ a.stop < b.start))

instance (is : List EntityInterval) : Decidable (Canonical is) :=
  decidable_of_iff ((∀ i ∈ is, i.start ≤ i.stop) ∧ is.Pairwise Precedes)
    ⟨fun h => ⟨h.1, h.2⟩, fun h => ⟨h.start_le_stop, h.pairwise⟩⟩

lemma canonical_nil : Canonical [] := ⟨by simp, List.Pairwise.nil⟩

lemma canonical_cons :
    Canonical (i :: is) ↔ i.start ≤ i.stop ∧ (∀ j ∈ is, i.Precedes j) ∧ Canonical is := by
  constructor
  · intro h
    have hp := List.pairwise_cons.1 h.pairwise
    exact ⟨h.start_le_stop i (by simp), hp.1,
      fun j hj => h.start_le_stop j (List.mem_cons_of_mem i hj), hp.2⟩
  · rintro ⟨hi, hp, h⟩
    refine ⟨?_, List.pairwise_cons.2 ⟨hp, h.pairwise⟩⟩
    intro j hj
    rcases List.mem_cons.1 hj with rfl | hj
    · exact hi
    · exact h.start_le_stop j hj

lemma Canonical.tail (h : Canonical (i :: is)) : Canonical is := (canonical_cons.1 h).2.2

lemma Precedes.isBefore (hi : a.start ≤ a.stop) (h : a.Precedes b) : a.isBefore b = true := by
  rw [isBefore_iff]
  rcases h with h | ⟨he, h⟩
  · exact Or.inl h
  · exact Or.inr ⟨he, Or.inl (lt_of_le_of_lt hi h)⟩

/-- Sorting leaves a canonical list as it is. -/
lemma Canonical.sort_eq (h : Canonical is) : sort is = is := by
  refine List.mergeSort_of_pairwise (h.pairwise.imp_of_mem ?_)
  intro a b ha _ hab
  exact hab.isBefore (h.start_le_stop a ha)

lemma Precedes.not_spans (h : a.Precedes b) (ha : a.Spans e t) : ¬ b.Spans e t := by
  rintro ⟨hbe, hbt, -⟩
  obtain ⟨hae, -, hat⟩ := ha
  rcases h with hlt | ⟨-, hlt⟩
  · rw [hae, hbe] at hlt
    exact lt_irrefl e hlt
  · exact absurd (hat.trans_lt (hlt.trans_le hbt)) (lt_irrefl t)

/-- What an interval spans is not covered by intervals that start later or are of later entities. -/
lemma not_covers_of_precedes (h : ∀ j ∈ is, i.Precedes j) (hi : i.Spans e t) : ¬ covers is e t = true := by
  rw [covers_iff]
  rintro ⟨j, hj, hspans⟩
  exact (h j hj).not_spans hi hspans

/-- No two intervals of an entity have an instant in common. -/
def Apart (is : List EntityInterval) : Prop :=
  is.Pairwise fun a b => ∀ e t, a.Spans e t → ¬ b.Spans e t

lemma Canonical.apart (h : Canonical is) : Apart is := h.pairwise.imp fun hab _ _ => hab.not_spans

end EntityInterval

end EntityHistory
