/-
Walks over the pages of intervals.

Whoever starts without an anchor and follows the anchors of the next pages comes through all intervals in
their order. The invariant of such a walk is that the pages from a position on show what the entities from
that position on have; each page but the last is full.

* `Walk`: the pages from an anchor on, as they follow each other;
* `Walk.coversFrom`: what they show;
* `paginate_walk`: a walk from the beginning, and the steps back to where one came from.
-/
import Mathlib.Data.Finset.Card
import Mathlib.Data.Finset.Dedup
import EntityHistory.Proofs.Interval.Page

namespace EntityHistory

open EntityInterval

variable {is : List EntityInterval} {anchor : Option String} {size position : Nat} {e : String}
  {pages : List IntervalPage}

/-- The entities of intervals as a set. -/
def entitySet (is : List EntityInterval) : Finset String := (is.map (·.entityId)).toFinset

/-- The pages from an anchor on, as they follow each other. -/
inductive Walk (is : List EntityInterval) (size : Nat) : Option String → List IntervalPage → Prop
  | last {anchor : Option String} (hnext : (paginate is anchor size).nextAnchor = none) :
      Walk is size anchor [paginate is anchor size]
  | step {anchor : Option String} {e : String} {pages : List IntervalPage}
      (hnext : (paginate is anchor size).nextAnchor = some e) (rest : Walk is size (some e) pages) :
      Walk is size anchor (paginate is anchor size :: pages)

/-- Pages show the intervals of all entities from a position on, so many entities on each page but the
last. -/
structure CoversFrom (is : List EntityInterval) (size position : Nat) (pages : List IntervalPage) : Prop where
  intervals : pages.flatMap (·.intervals) =
    (sort is).filter fun i => ((pageIds is).drop position).contains i.entityId
  entityIds : pages.flatMap (·.entityIds) = (pageIds is).drop position
  length : pages.length = max 1 (((pageIds is).length - position + size - 1) / size)
  full : ∀ p ∈ pages.dropLast, p.entityIds.length = size
  total : ∀ p ∈ pages, p.totalEntities = some (pageIds is).length

/-! ### Entities of intervals -/

lemma mem_entitySet : e ∈ entitySet is ↔ ∃ i ∈ is, i.entityId = e := by
  rw [entitySet, List.mem_toFinset, List.mem_map]

lemma card_of_nodup {ids : List String} (h : ids.Nodup) (hmem : ∀ e, e ∈ ids ↔ e ∈ entitySet is) :
    (entitySet is).card = ids.length := by
  rw [← List.toFinset_card_of_nodup h]
  congr 1
  ext e
  rw [List.mem_toFinset, hmem]

lemma card_entitySet (is : List EntityInterval) : (entitySet is).card = (pageIds is).length :=
  card_of_nodup (nodup_pageIds is) fun e => by rw [mem_pageIds, mem_entitySet]

/-! ### Parts of an ordered list -/

/-- If what satisfies one condition comes before what satisfies another, both parts make up the part that
satisfies either. -/
lemma filter_append_filter {α : Type} {p q : α → Bool} {l : List α} (hne : ∀ a ∈ l, p a → ¬ q a)
    (h : l.Pairwise fun a b => q a → ¬ p b) : l.filter p ++ l.filter q = l.filter fun a => p a || q a := by
  induction l with
  | nil => rfl
  | cons a l ih =>
    obtain ⟨ha, hrest⟩ := List.pairwise_cons.1 h
    have ih := ih (fun b hb => hne b (List.mem_cons_of_mem _ hb)) hrest
    cases hp : p a with
    | true =>
      have hq : q a = false := by simpa using hne a (by simp) hp
      simp [hp, hq, ih]
    | false =>
      cases hq : q a with
      | false => simp [hp, hq, ih]
      | true =>
        have hnil : l.filter p = [] := List.filter_eq_nil_iff.2 fun b hb => ha b hb hq
        rw [hnil, List.nil_append] at ih
        simp [hp, hq, hnil, ih]

/-- The intervals of a page and of the entities after it are those of the entities from its first one on. -/
lemma intervals_pageAt_append (is : List EntityInterval) (size position : Nat) :
    (pageAt is size position).intervals ++
        (sort is).filter (fun i => ((pageIds is).drop (position + size)).contains i.entityId) =
      (sort is).filter fun i => ((pageIds is).drop position).contains i.entityId := by
  have hsplit : ((pageIds is).drop position).take size ++ (pageIds is).drop (position + size) =
      (pageIds is).drop position := by
    rw [← List.drop_drop, List.take_append_drop]
  have hlt : ∀ a ∈ ((pageIds is).drop position).take size, ∀ b ∈ (pageIds is).drop (position + size), a < b := by
    have hpw : ((pageIds is).drop position).Pairwise (· < ·) :=
      (pairwise_pageIds is).sublist (List.drop_sublist _ _)
    rw [← hsplit] at hpw
    exact (List.pairwise_append.1 hpw).2.2
  rw [pageAt, filter_append_filter]
  · congr 1
    funext i
    rw [← List.contains_append, hsplit]
  · intro i _ hp hq
    exact lt_irrefl _ (hlt _ (by simpa using hp) _ (by simpa using hq))
  · refine (pairwise_entityId_sort is).imp fun {i j} hij hq hp => ?_
    exact absurd hij (hlt _ (by simpa using hp) _ (by simpa using hq)).not_ge

/-! ### Runs of pages -/

lemma nextAnchor_pageAt_eq_none_iff :
    (pageAt is size position).nextAnchor = none ↔ (pageIds is).length ≤ position + size :=
  List.getElem?_eq_none_iff

/-- The last page shows the rest. -/
lemma coversFrom_last (hsize : 1 ≤ size) (hlast : (pageIds is).length ≤ position + size) :
    CoversFrom is size position [pageAt is size position] where
  intervals := by
    have hnil : (pageIds is).drop (position + size) = [] := List.drop_eq_nil_iff.2 hlast
    have happend := intervals_pageAt_append is size position
    rw [hnil] at happend
    simpa using happend
  entityIds := by
    rw [List.flatMap_singleton, entityIds_pageAt]
    exact List.take_of_length_le (by rw [List.length_drop]; omega)
  length := by
    have hle : ((pageIds is).length - position + size - 1) / size ≤ 1 := by
      rw [Nat.div_le_iff_le_mul_add_pred (by omega)]
      omega
    simp only [List.length_singleton]
    omega
  full := by simp
  total := by simp [pageAt]

/-- A page shows so many entities more than the pages after it. -/
lemma CoversFrom.cons (hsize : 1 ≤ size) (hnext : position + size < (pageIds is).length)
    (h : CoversFrom is size (position + size) pages) :
    CoversFrom is size position (pageAt is size position :: pages) where
  intervals := by
    rw [List.flatMap_cons, h.intervals, intervals_pageAt_append]
  entityIds := by
    rw [List.flatMap_cons, h.entityIds, entityIds_pageAt, ← List.drop_drop, List.take_append_drop]
  length := by
    have hone : 1 ≤ ((pageIds is).length - (position + size) + size - 1) / size :=
      (Nat.one_le_div_iff (by omega)).2 (by omega)
    have hmore : (pageIds is).length - position + size - 1 =
        (pageIds is).length - (position + size) + size - 1 + size := by omega
    rw [List.length_cons, h.length, hmore, Nat.add_div_right _ (by omega)]
    omega
  full := by
    intro p hp
    have hne : pages ≠ [] := fun hnil => by
      have hlength := h.length
      rw [hnil, List.length_nil] at hlength
      omega
    rw [List.dropLast_cons_of_ne_nil hne] at hp
    rcases List.mem_cons.1 hp with rfl | hp
    · rw [entityIds_pageAt, List.length_take, List.length_drop]
      omega
    · exact h.full p hp
  total := by
    intro p hp
    rcases List.mem_cons.1 hp with rfl | hp
    · rfl
    · exact h.total p hp

/-- What the pages of a walk show. -/
theorem Walk.coversFrom (hsize : 1 ≤ size) (h : Walk is size anchor pages) :
    CoversFrom is size (positionOf is anchor) pages := by
  induction h with
  | last hnext =>
    rw [paginate_eq_pageAt hsize] at hnext ⊢
    exact coversFrom_last hsize (nextAnchor_pageAt_eq_none_iff.1 hnext)
  | step hnext _ ih =>
    rw [paginate_eq_pageAt hsize] at hnext ⊢
    rw [positionOf_eq hnext] at ih
    exact ih.cons hsize (List.getElem?_eq_some_iff.1 hnext).1

/-- A walk comes to an end, because each step leaves fewer entities. -/
theorem exists_walk (hsize : 1 ≤ size) (is : List EntityInterval) (anchor : Option String) :
    ∃ pages, Walk is size anchor pages := by
  induction hn : (pageIds is).length - positionOf is anchor using Nat.strong_induction_on generalizing anchor with
  | _ n ih =>
    cases hnext : (paginate is anchor size).nextAnchor with
    | none => exact ⟨_, .last hnext⟩
    | some e =>
      have hget := hnext
      rw [paginate_eq_pageAt hsize] at hget
      have hlt := (List.getElem?_eq_some_iff.1 hget).1
      have hposition := positionOf_eq hget
      obtain ⟨pages, hpages⟩ := ih _ (by omega) (some e) rfl
      exact ⟨_, .step hnext hpages⟩

/-! ### Back to where one came from -/

/-- The page before the next one is the one with the anchor itself. -/
lemma prevAnchor_of_nextAnchor {next : String} (hsize : 1 ≤ size) (he : e ∈ pageIds is)
    (hnext : (paginate is (some e) size).nextAnchor = some next) :
    (paginate is (some next) size).prevAnchor = some e := by
  obtain ⟨position, hlt, hget⟩ := List.getElem_of_mem he
  have hget : (pageIds is)[position]? = some e := List.getElem?_eq_some_iff.2 ⟨hlt, hget⟩
  rw [paginate_eq_pageAt hsize, positionOf_eq hget] at hnext
  rw [paginate_eq_pageAt hsize, positionOf_eq hnext]
  show (if 0 < position + size then (pageIds is)[position + size - size]? else none) = some e
  rw [if_pos (by omega), Nat.add_sub_cancel, hget]

/-- So many entities come before the one at a position. -/
lemma card_filter_lt (hget : (pageIds is)[position]? = some e) :
    ((entitySet is).filter (· < e)).card = position := by
  obtain ⟨hlt, rfl⟩ := List.getElem?_eq_some_iff.1 hget
  have hnodup : ((pageIds is).take position).Nodup := (nodup_pageIds is).sublist (List.take_sublist _ _)
  have hset : (entitySet is).filter (· < (pageIds is)[position]) = ((pageIds is).take position).toFinset := by
    ext d
    rw [Finset.mem_filter, mem_entitySet, ← mem_pageIds, List.mem_toFinset, List.mem_take_iff_getElem]
    have hiff {k : Nat} (hk : k < (pageIds is).length) : (pageIds is)[k] < (pageIds is)[position] ↔ k < position :=
      (pairwise_pageIds is).sortedLT.getElem_lt_getElem_iff
    constructor
    · rintro ⟨hd, hde⟩
      obtain ⟨k, hk, rfl⟩ := List.getElem_of_mem hd
      exact ⟨k, lt_min ((hiff hk).1 hde) hk, rfl⟩
    · rintro ⟨k, hk, rfl⟩
      exact ⟨List.getElem_mem _, (hiff _).2 (lt_min_iff.1 hk).1⟩
  rw [hset, List.toFinset_card_of_nodup hnodup, List.length_take, Nat.min_eq_left hlt.le]

/-- The page after the one before is the one with the anchor itself, if there are enough entities before. -/
lemma nextAnchor_of_prevAnchor (hsize : 1 ≤ size) (he : e ∈ pageIds is)
    (hbefore : size ≤ ((entitySet is).filter (· < e)).card) :
    ∃ prev, (paginate is (some e) size).prevAnchor = some prev ∧
      (paginate is (some prev) size).nextAnchor = some e := by
  obtain ⟨position, hlt, hget⟩ := List.getElem_of_mem he
  have hget : (pageIds is)[position]? = some e := List.getElem?_eq_some_iff.2 ⟨hlt, hget⟩
  rw [card_filter_lt hget] at hbefore
  obtain ⟨prev, hprev⟩ : ∃ prev, (pageIds is)[position - size]? = some prev :=
    ⟨_, List.getElem?_eq_getElem (by omega)⟩
  refine ⟨prev, ?_, ?_⟩
  · rw [paginate_eq_pageAt hsize, positionOf_eq hget]
    show (if 0 < position then (pageIds is)[position - size]? else none) = some prev
    rw [if_pos (by omega), hprev]
  · rw [paginate_eq_pageAt hsize, positionOf_eq hprev]
    show (pageIds is)[position - size + size]? = some e
    rw [Nat.sub_add_cancel hbefore, hget]

/-! ### Walks from the beginning -/

lemma mem_entityIds {p : IntervalPage} : e ∈ p.entityIds ↔ e ∈ entitySet p.intervals := by
  rw [IntervalPage.entityIds, entityIds, mem_withoutRepeats, entitySet, List.mem_toFinset]

/-- No entity is listed twice, be it on one page or on two. -/
lemma CoversFrom.nodup_entityIds (h : CoversFrom is size position pages) :
    (pages.flatMap (·.entityIds)).Nodup := by
  rw [h.entityIds]
  exact (nodup_pageIds is).sublist (List.drop_sublist _ _)

/-- Each page but the last has the intervals of so many entities. -/
lemma CoversFrom.card_of_mem_dropLast {p : IntervalPage} (h : CoversFrom is size position pages)
    (hp : p ∈ pages.dropLast) : (entitySet p.intervals).card = size := by
  have hnodup : p.entityIds.Nodup := (List.nodup_flatMap.1 h.nodup_entityIds).1 p (List.mem_of_mem_dropLast hp)
  rw [card_of_nodup hnodup fun e => mem_entityIds, h.full p hp]

/-- No two pages have intervals of one entity. -/
lemma CoversFrom.pairwise_disjoint (h : CoversFrom is size position pages) :
    pages.Pairwise fun p q => Disjoint (entitySet p.intervals) (entitySet q.intervals) := by
  refine (List.nodup_flatMap.1 h.nodup_entityIds).2.imp fun {p q} hpq => ?_
  exact Finset.disjoint_left.2 fun e hp hq => hpq (mem_entityIds.2 hp) (mem_entityIds.2 hq)

/-- The pages from the first position on show all intervals in their order. -/
lemma CoversFrom.intervals_zero (h : CoversFrom is size 0 pages) : pages.flatMap (·.intervals) = sort is := by
  rw [h.intervals, List.drop_zero]
  refine List.filter_eq_self.2 fun i hi => ?_
  exact List.contains_iff_mem.2 (mem_pageIds.2 ⟨i, mem_sort.1 hi, rfl⟩)

/-- A walk from the beginning comes through all intervals in their order, without loss or repetition. No
entity is on two pages, each page but the last is full, and all of them know the number of entities. From an
anchor that is there, the next page leads back to it, and so does the one before if it is a full page off. -/
theorem paginate_walk (intervals : List EntityInterval) (size : Nat) (hsize : 1 ≤ size) :
    (∃ pages, Walk intervals size none pages) ∧
    (∀ pages, Walk intervals size none pages →
      pages.length = max 1 (((entitySet intervals).card + size - 1) / size) ∧
      (pages.flatMap (·.intervals)).Perm intervals ∧
      (pages.flatMap (·.intervals)).Pairwise (fun i j => i.isBefore j = true) ∧
      pages.Pairwise (fun p q => Disjoint (entitySet p.intervals) (entitySet q.intervals)) ∧
      (∀ p ∈ pages.dropLast, (entitySet p.intervals).card = size) ∧
      ∀ p ∈ pages, p.totalEntities = some (entitySet intervals).card) ∧
    ∀ anchor ∈ entitySet intervals,
      (∀ next, (paginate intervals (some anchor) size).nextAnchor = some next →
        (paginate intervals (some next) size).prevAnchor = some anchor) ∧
      (size ≤ ((entitySet intervals).filter (· < anchor)).card →
        ∃ prev, (paginate intervals (some anchor) size).prevAnchor = some prev ∧
          (paginate intervals (some prev) size).nextAnchor = some anchor) := by
  refine ⟨exists_walk hsize intervals none, fun pages hwalk => ?_, fun anchor hanchor => ?_⟩
  · have hcovers : CoversFrom intervals size 0 pages := hwalk.coversFrom hsize
    rw [hcovers.intervals_zero, card_entitySet]
    refine ⟨?_, List.mergeSort_perm _ _, pairwise_sort intervals, hcovers.pairwise_disjoint, ?_, hcovers.total⟩
    · rw [hcovers.length, Nat.sub_zero]
    · exact fun p hp => hcovers.card_of_mem_dropLast hp
  · have hmem : anchor ∈ pageIds intervals := mem_pageIds.2 (mem_entitySet.1 hanchor)
    exact ⟨fun next hnext => prevAnchor_of_nextAnchor hsize hmem hnext,
      fun hbefore => nextAnchor_of_prevAnchor hsize hmem hbefore⟩

/-- Intervals of three entities, two of them of one. -/
def threeEntities : List EntityInterval :=
  [⟨"urn:c", ⟨0⟩, ⟨1⟩⟩, ⟨"urn:a", ⟨4⟩, ⟨5⟩⟩, ⟨"urn:b", ⟨0⟩, ⟨9⟩⟩, ⟨"urn:a", ⟨0⟩, ⟨3⟩⟩]

/-- Two by two, three entities make two pages, and from the third one the page before leads back to it. -/
theorem paginate_walk_threeEntities :
    (∃ pages, Walk threeEntities 2 none pages ∧ pages.length = 2 ∧
      (pages.flatMap (·.intervals)).Perm threeEntities) ∧
    ∃ prev, (paginate threeEntities (some "urn:c") 2).prevAnchor = some prev ∧
      (paginate threeEntities (some prev) 2).nextAnchor = some "urn:c" := by
  obtain ⟨⟨pages, hwalk⟩, hwalks, hanchors⟩ := paginate_walk threeEntities 2 (by decide)
  obtain ⟨hlength, hperm, -⟩ := hwalks pages hwalk
  refine ⟨⟨pages, hwalk, ?_, hperm⟩, (hanchors "urn:c" (by decide)).2 (by decide)⟩
  rw [hlength]
  decide

end EntityHistory
