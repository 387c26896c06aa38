/-
Pages of intervals.

The entities of a list of intervals are its distinct entities in ascending order, and a page is determined by
the position of its first entity among them. Its neighbours begin so many positions later and earlier, but
never before the first one.

* `entityIds_sort`: the entities in their order, each once;
* `paginate_eq_pageAt`: a page is the one at the position of its anchor;
* `entityIds_pageAt`: the entities of a page stand next to each other.
-/
import Mathlib.Data.List.Nodup
import Mathlib.Data.List.Sort
import EntityHistory.Interval.Page
import EntityHistory.Proofs.Interval.Canonical
import EntityHistory.Proofs.Names

namespace EntityHistory

open EntityInterval

variable {is is' : List EntityInterval} {anchor : Option String} {size position : Nat} {e : String}
  {ids ids' names : List String}

/-! ### Lists without repetitions -/

section WithoutRepeats

variable {α : Type} [DecidableEq α] {a : α} {l : List α}

lemma mem_withoutRepeats : a ∈ withoutRepeats l ↔ a ∈ l := by
  induction l with
  | nil => rfl
  | cons b l ih =>
    cases l with
    | nil => rfl
    | cons c l =>
      rw [withoutRepeats]
      split
      · rename_i heq
        rw [ih, heq]
        simp
      · rw [List.mem_cons, ih, List.mem_cons (b := b)]

/-- Neighbours that are alike are all that an ascending list repeats. -/
lemma pairwise_withoutRepeats [LinearOrder α] (h : l.Pairwise (· ≤ ·)) :
    (withoutRepeats l).Pairwise (· < ·) := by
  induction l with
  | nil => exact List.Pairwise.nil
  | cons b l ih =>
    cases l with
    | nil => exact List.pairwise_singleton _ _
    | cons c l =>
      obtain ⟨hb, hrest⟩ := List.pairwise_cons.1 h
      rw [withoutRepeats]
      split
      · exact ih hrest
      · rename_i hne
        refine List.pairwise_cons.2 ⟨fun d hd => ?_, ih hrest⟩
        have hc : c ≤ d := by
          rcases List.mem_cons.1 (mem_withoutRepeats.1 hd) with rfl | hd
          · exact le_rfl
          · exact (List.pairwise_cons.1 hrest).1 d hd
        exact (lt_of_le_of_ne (hb c (by simp)) hne).trans_le hc

end WithoutRepeats

/-! ### The entities of intervals -/

/-- The entities of intervals in ascending order. -/
def pageIds (is : List EntityInterval) : List String := nameSet (is.map (·.entityId))

lemma mem_pageIds : e ∈ pageIds is ↔ ∃ i ∈ is, i.entityId = e := by
  rw [pageIds, mem_nameSet, List.mem_map]

lemma pairwise_pageIds (is : List EntityInterval) : (pageIds is).Pairwise (· < ·) := pairwise_nameSet _

lemma nodup_pageIds (is : List EntityInterval) : (pageIds is).Nodup := (pairwise_pageIds is).imp ne_of_lt

/-- Sorted intervals are in the order of their entities. -/
lemma pairwise_entityId_sort (is : List EntityInterval) :
    (sort is).Pairwise fun a b => a.entityId ≤ b.entityId := by
  refine (pairwise_sort is).imp fun h => ?_
  rcases isBefore_iff.1 h with hlt | ⟨heq, -⟩
  · exact hlt.le
  · exact heq.le

/-- The entities of intervals that are in the order of entities are the distinct ones in ascending order. -/
lemma entityIds_eq_of_mem_iff (h : is.Pairwise fun a b => a.entityId ≤ b.entityId)
    (hnames : names.Pairwise (· < ·)) (hmem : ∀ e, e ∈ names ↔ ∃ i ∈ is, i.entityId = e) :
    entityIds is = names := by
  refine List.Pairwise.eq_of_mem_iff (pairwise_withoutRepeats (List.pairwise_map.2 h)) hnames fun e => ?_
  rw [entityIds, mem_withoutRepeats, List.mem_map, hmem]

theorem entityIds_sort (is : List EntityInterval) : entityIds (sort is) = pageIds is :=
  entityIds_eq_of_mem_iff (pairwise_entityId_sort is) (pairwise_pageIds is) fun e => by simp [mem_pageIds]

/-! ### Pages at positions -/

/-- The position at which a page with an anchor begins: that of the anchor, or the first one. -/
def positionOf (is : List EntityInterval) (anchor : Option String) : Nat :=
  (anchor.bind fun e => (pageIds is).idxOf? e).getD 0

/-- The page of a size that begins at a position. -/
def pageAt (is : List EntityInterval) (size position : Nat) : IntervalPage where
  intervals := (sort is).filter fun i => (((pageIds is).drop position).take size).contains i.entityId
  nextAnchor := (pageIds is)[position + size]?
  prevAnchor := if 0 < position then (pageIds is)[position - size]? else none
  totalEntities := some (pageIds is).length

/-- A page is the one at the position of its anchor. -/
theorem paginate_eq_pageAt (hsize : 1 ≤ size) : paginate is anchor size = pageAt is size (positionOf is anchor) := by
  rw [paginate, entityIds_sort, Nat.max_eq_left hsize]
  rfl

/-- Each entity stands at one position. -/
lemma positionOf_eq (h : (pageIds is)[position]? = some e) : positionOf is (some e) = position := by
  obtain ⟨hlt, hget⟩ := List.getElem?_eq_some_iff.1 h
  have hidx : (pageIds is).idxOf? e = some position := by
    refine List.idxOf?_eq_some_iff.2 ⟨hlt, hget, fun j hj heq => ?_⟩
    exact absurd ((List.Nodup.getElem_inj_iff (nodup_pageIds is)).1 (heq.trans hget.symm)) hj.ne
  rw [positionOf, Option.bind_some, hidx]
  rfl

/-- A page whose anchor is not there begins at the first entity. -/
lemma positionOf_of_not_mem (h : ∀ e, anchor = some e → e ∉ pageIds is) : positionOf is anchor = 0 := by
  cases anchor with
  | none => rfl
  | some e =>
    rw [positionOf, Option.bind_some, List.idxOf?_eq_none_iff.2 (h e rfl)]
    rfl

/-- The intervals of a page are those of its entities. -/
lemma mem_intervals_pageAt {i : EntityInterval} : i ∈ (pageAt is size position).intervals ↔
    i ∈ is ∧ i.entityId ∈ ((pageIds is).drop position).take size := by
  simp [pageAt]

/-- The entities that stand next to each other from a position on. -/
lemma mem_take_drop_pageIds {k : Nat} (hk : (pageIds is)[k]? = some e) :
    e ∈ ((pageIds is).drop position).take size ↔ position ≤ k ∧ k < position + size := by
  obtain ⟨hlt, hget⟩ := List.getElem?_eq_some_iff.1 hk
  rw [List.mem_take_iff_getElem]
  constructor
  · rintro ⟨j, hj, heq⟩
    rw [List.getElem_drop] at heq
    obtain rfl := (List.Nodup.getElem_inj_iff (nodup_pageIds is)).1 (heq.trans hget.symm)
    rw [List.length_drop] at hj
    omega
  · rintro ⟨hle, hlt'⟩
    refine ⟨k - position, by rw [List.length_drop]; omega, ?_⟩
    simp only [List.getElem_drop, Nat.add_sub_cancel' hle, hget]

/-- Intervals that are those of a page, in the order of entities, have its entities. -/
lemma entityIds_eq_take_drop (h : is'.Pairwise fun a b => a.entityId ≤ b.entityId)
    (hmem : ∀ i, i ∈ is' ↔ i ∈ (pageAt is size position).intervals) :
    entityIds is' = ((pageIds is).drop position).take size := by
  have hsub : (((pageIds is).drop position).take size).Sublist (pageIds is) :=
    (List.take_sublist _ _).trans (List.drop_sublist _ _)
  refine entityIds_eq_of_mem_iff h ((pairwise_pageIds is).sublist hsub) fun e => ?_
  constructor
  · intro he
    obtain ⟨i, hi, rfl⟩ := mem_pageIds.1 (hsub.subset he)
    exact ⟨i, (hmem i).2 (mem_intervals_pageAt.2 ⟨hi, he⟩), rfl⟩
  · rintro ⟨i, hi, rfl⟩
    exact (mem_intervals_pageAt.1 ((hmem i).1 hi)).2

/-- The entities of a page stand next to each other. -/
theorem entityIds_pageAt (is : List EntityInterval) (size position : Nat) :
    (pageAt is size position).entityIds = ((pageIds is).drop position).take size :=
  entityIds_eq_take_drop ((pairwise_entityId_sort is).filter _) fun _ => Iff.rfl

end EntityHistory
