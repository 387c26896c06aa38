/-
Merging in any order.

The histories of an entity over several spans are merged one after the other, and then the instances are put in
order. Only the neighbours in this order are compared when repeats are dropped. If an identifier stands for one
instance, equal instances are level with each other and come side by side, so that each is left once. The merge
then has the attributes of the parts, under each attribute the instances of the parts, the first of their creation
times and the last of their changes. Nothing of this depends on the order of the parts; only the type does, which
is that of the first part.

* `Choice.foldl_merge`: the earliest and the latest of the times that the parts have;
* `TemporalEntity.pairwise_inOrder`, `TemporalEntity.mem_inOrder`: instances in order, each of them once;
* `TemporalEntity.IsMergeOf.unique`: what a merge is made of determines it;
* `TemporalEntity.merge_of_perm`: merging in any order.
-/
import Mathlib.Data.Prod.Lex
import Mathlib.Order.Bounds.Basic
import Mathlib.Order.WithBot
import EntityHistory.Proofs.Entity.Temporal
import EntityHistory.Proofs.Sorting
import EntityHistory.Proofs.Time.Order

namespace EntityHistory

/-! ### Choosing among optional values -/

section Choice

variable {α : Type} {best : Set α → α → Prop} {f : α → α → α} {s s' : Set α} {a b : Option α}

/-- The best element of a set, where the best of two sets together is found from the best ones of each. -/
structure Choice (best : Set α → α → Prop) (f : α → α → α) : Prop where
  singleton : ∀ t, best {t} t
  union : ∀ {s s' t t'}, best s t → best s' t' → best (s ∪ s') (f t t')
  nonempty : ∀ {s t}, best s t → s.Nonempty
  unique : ∀ {s t t'}, best s t → best s t' → t = t'

lemma choice_min [LinearOrder α] : Choice (IsLeast : Set α → α → Prop) min where
  singleton _ := isLeast_singleton
  union := IsLeast.union
  nonempty := IsLeast.nonempty
  unique := IsLeast.unique

lemma choice_max [LinearOrder α] : Choice (IsGreatest : Set α → α → Prop) max where
  singleton _ := isGreatest_singleton
  union := IsGreatest.union
  nonempty := IsGreatest.nonempty
  unique := IsGreatest.unique

/-- An optional value is the best element of a set, and it is missing just when the set is empty. -/
def Chosen (best : Set α → α → Prop) (s : Set α) : Option α → Prop
  | some t => best s t
  | none => s = ∅

namespace Choice

/-- An optional value is chosen from what it holds. -/
lemma chosen_self (h : Choice best f) (a : Option α) : Chosen best {t | a = some t} a := by
  cases a with
  | none => exact Set.eq_empty_iff_forall_notMem.2 fun t ht => by cases ht
  | some t =>
    have hset : {t' | some t = some t'} = {t} := Set.ext fun t' => by simp [eq_comm]
    rw [hset]
    exact h.singleton t

/-- What is made of two chosen values is chosen from both sets. -/
lemma chosen_combine (h : Choice best f) (ha : Chosen best s a) (hb : Chosen best s' b) :
    Chosen best (s ∪ s') (combine f a b) := by
  cases a with
  | none =>
    obtain rfl : s = ∅ := ha
    rw [Set.empty_union]
    exact hb
  | some t =>
    cases b with
    | none =>
      obtain rfl : s' = ∅ := hb
      rw [Set.union_empty]
      exact ha
    | some t' => exact h.union ha hb

lemma chosen_unique (h : Choice best f) (ha : Chosen best s a) (hb : Chosen best s b) : a = b := by
  cases a with
  | none =>
    obtain rfl : s = ∅ := ha
    cases b with
    | none => rfl
    | some t' => exact absurd (h.nonempty hb) Set.not_nonempty_empty
  | some t =>
    cases b with
    | none =>
      obtain rfl : s = ∅ := hb
      exact absurd (h.nonempty ha) Set.not_nonempty_empty
    | some t' => exact congrArg some (h.unique ha hb)

/-- A time that merging makes of the two times is chosen from the times of all parts. -/
theorem foldl_merge (h : Choice best f) {time : TemporalEntity → Option α}
    (hmerge : ∀ a b, time (a.merge b) = combine f (time a) (time b)) (p : TemporalEntity)
    (parts : List TemporalEntity) :
    Chosen best {t | ∃ part ∈ p :: parts, time part = some t} (time (parts.foldl .merge p)) := by
  induction parts using List.reverseRecOn with
  | nil => simpa using h.chosen_self (time p)
  | append_singleton parts part ih =>
    have hset : {t | ∃ other ∈ p :: (parts ++ [part]), time other = some t} =
        {t | ∃ other ∈ p :: parts, time other = some t} ∪ {t | time part = some t} :=
      Set.ext fun t => by simp [or_and_right, exists_or, or_assoc]
    rw [hset, List.foldl_append, List.foldl_cons, List.foldl_nil, hmerge]
    exact h.chosen_combine ih (h.chosen_self (time part))

end Choice

end Choice

/-! ### Instances in order -/

/-- Where the order of elements tells their keys apart, no two of those that are left are level with each other. -/
lemma pairwise_dropRepeats {α β κ : Type} [DecidableEq β] [LinearOrder κ] {key : α → β} (rank : α → κ)
    (hkey : ∀ a b, rank a = rank b → key a = key b) {l : List α} (h : l.Pairwise fun a b => rank a ≤ rank b) :
    (dropRepeats key l).Pairwise fun a b => rank a < rank b := by
  have hle := List.pairwise_iff_getElem.1 (h.sublist (dropRepeats_sublist key l))
  have hne := List.isChain_iff_getElem.1 (isChain_dropRepeats key l)
  have hchain : (dropRepeats key l).IsChain fun a b => rank a < rank b :=
    List.isChain_iff_getElem.2 fun n hn =>
      lt_of_le_of_ne (hle n (n + 1) (by omega) hn (by omega)) fun heq => hne n hn (hkey _ _ heq)
  have : Trans (fun a b => rank a < rank b) (fun a b => rank a < rank b) fun a b => rank a < rank b :=
    ⟨fun hab hbc => lt_trans hab hbc⟩
  exact hchain.pairwise

namespace TemporalInstance

variable {property : TimeProperty} {a b : TemporalInstance}

/-- What instances are ordered by: a time, of which a missing one comes first, and then the identifier. -/
def key (property : TimeProperty) (i : TemporalInstance) : WithBot Instant ×ₗ String :=
  toLex ((i.time? property).elim ⊥ fun t => (t : WithBot Instant), i.id)

lemma isBefore_iff_key_le (a b : TemporalInstance) :
    isBefore property a b = true ↔ a.key property ≤ b.key property := by
  rw [isBefore, key, key, Prod.Lex.toLex_le_toLex]
  cases a.time? property with
  | none => cases b.time? property <;> simp
  | some s => cases b.time? property <;> simp

lemma id_eq_of_key_eq (h : a.key property = b.key property) : a.id = b.id :=
  congrArg (fun k => (ofLex k).2) h

end TemporalInstance

namespace TemporalEntity

open Named

variable {property : TimeProperty} {instances : List TemporalInstance} {i : TemporalInstance}
  {p q e e' : TemporalEntity} {parts others : List TemporalEntity}

/-- Instances in order ascend strictly by their time and identifier. -/
lemma pairwise_inOrder (property : TimeProperty) (instances : List TemporalInstance) :
    (inOrder property instances).Pairwise fun a b => a.key property < b.key property :=
  pairwise_dropRepeats (TemporalInstance.key property) (fun _ _ => TemporalInstance.id_eq_of_key_eq)
    ((pairwise_mergeSort_of_key (TemporalInstance.key property) TemporalInstance.isBefore_iff_key_le instances).imp
      (TemporalInstance.isBefore_iff_key_le _ _).1)

/-- Where an identifier stands for one instance, no instance is missing from them in order. -/
lemma mem_inOrder (hids : ∀ a ∈ instances, ∀ b ∈ instances, a.id = b.id → a = b) :
    i ∈ inOrder property instances ↔ i ∈ instances := by
  have hmem (j : TemporalInstance) (hj : j ∈ inOrder property instances) : j ∈ instances :=
    List.mem_mergeSort.1 ((dropRepeats_sublist _ _).subset hj)
  refine ⟨hmem i, fun hi => ?_⟩
  have hsorted : i ∈ instances.mergeSort (TemporalInstance.isBefore property) := List.mem_mergeSort.2 hi
  obtain ⟨j, hj, hid⟩ := exists_mem_dropRepeats TemporalInstance.id hsorted
  rwa [hids i hi j (hmem j hj) hid.symm]

/-- Instances that are in order stay as they are. -/
lemma inOrder_inOrder (property : TimeProperty) (instances : List TemporalInstance) :
    inOrder property (inOrder property instances) = inOrder property instances := by
  have hsorted : (inOrder property instances).Pairwise fun a b => a.isBefore property b = true :=
    (pairwise_inOrder property instances).imp fun h => (TemporalInstance.isBefore_iff_key_le _ _).2 h.le
  rw [inOrder, List.mergeSort_of_pairwise hsorted]
  exact dropRepeats_of_isChain _ (isChain_dropRepeats _ _)

/-- So does a history. -/
lemma sortInstances_sortInstances (property : TimeProperty) (e : TemporalEntity) :
    (e.sortInstances property).sortInstances property = e.sortInstances property := by
  have hattributes : mapValues (inOrder property) (mapValues (inOrder property) e.attributes) =
      mapValues (inOrder property) e.attributes := by
    rw [mapValues, mapValues, List.map_map]
    exact List.map_congr_left fun entry _ => by simp [inOrder_inOrder]
  exact congrArg (fun attributes => { e with attributes }) hattributes

/-! ### What a merge is made of -/

/-- An identifier stands for one instance of an attribute, whatever part it is in. -/
def IdsAgree (parts : List TemporalEntity) : Prop :=
  ∀ part ∈ parts, ∀ part' ∈ parts, ∀ name, ∀ a ∈ listAt part.attributes name,
    ∀ b ∈ listAt part'.attributes name, a.id = b.id → a = b

/-- A history that is made of some parts, with its instances in the order of a time. -/
structure IsMergeOf (property : TimeProperty) (parts : List TemporalEntity) (e : TemporalEntity) : Prop where
  createdAt : Chosen IsLeast {t | ∃ part ∈ parts, part.createdAt = some t} e.createdAt
  modifiedAt : Chosen IsGreatest {t | ∃ part ∈ parts, part.modifiedAt = some t} e.modifiedAt
  sorted : Sorted e.attributes
  mem_names : ∀ name, name ∈ names e.attributes ↔ ∃ part ∈ parts, name ∈ names part.attributes
  ascending : ∀ name, (listAt e.attributes name).Pairwise fun a b => a.key property < b.key property
  mem_listAt : ∀ name i, i ∈ listAt e.attributes name ↔ ∃ part ∈ parts, i ∈ listAt part.attributes name

/-- Merging some parts and putting the instances in order gives a history that is made of them. -/
theorem isMergeOf_foldl (hsorted : ∀ part ∈ p :: parts, Sorted part.attributes) (hids : IdsAgree (p :: parts))
    (property : TimeProperty) : IsMergeOf property (p :: parts) ((parts.foldl merge p).sortInstances property) := by
  have hlist := listAt_foldl_merge (hsorted p (by simp)) fun part hpart =>
    hsorted part (List.mem_cons_of_mem p hpart)
  refine ⟨choice_min.foldl_merge (fun _ _ => rfl) p parts, choice_max.foldl_merge (fun _ _ => rfl) p parts,
    (sorted_foldl_merge (hsorted p (by simp))).map fun _ => inOrder property, fun name => ?_, fun name => ?_, fun name i => ?_⟩
  · rw [attributes_sortInstances, mapValues, names_map fun _ => inOrder property]
    exact mem_names_foldl_merge
  · rw [listAt_sortInstances]
    exact pairwise_inOrder property _
  · rw [listAt_sortInstances, hlist, mem_inOrder, List.mem_flatMap]
    intro a ha b hb
    obtain ⟨part, hpart, ha⟩ := List.mem_flatMap.1 ha
    obtain ⟨part', hpart', hb⟩ := List.mem_flatMap.1 hb
    exact hids part hpart part' hpart' name a ha b hb

namespace IsMergeOf

/-- The order of the parts does not matter. -/
lemma of_perm (h : IsMergeOf property parts e) (hperm : parts.Perm others) : IsMergeOf property others e where
  createdAt := by simpa only [hperm.mem_iff] using h.createdAt
  modifiedAt := by simpa only [hperm.mem_iff] using h.modifiedAt
  sorted := h.sorted
  mem_names := by simpa only [hperm.mem_iff] using h.mem_names
  ascending := h.ascending
  mem_listAt := by simpa only [hperm.mem_iff] using h.mem_listAt

/-- The parts determine the attributes and the times. -/
theorem unique (h : IsMergeOf property parts e) (h' : IsMergeOf property parts e') :
    e.attributes = e'.attributes ∧ e.createdAt = e'.createdAt ∧ e.modifiedAt = e'.modifiedAt := by
  have : Std.Irrefl fun a b : TemporalInstance => a.key property < b.key property := ⟨fun _ => lt_irrefl _⟩
  have : Std.Antisymm fun a b : TemporalInstance => a.key property < b.key property :=
    ⟨fun _ _ hab hba => absurd (hab.trans hba) (lt_irrefl _)⟩
  refine ⟨h.sorted.ext_listAt h'.sorted (fun name => ?_) fun name => ?_,
    choice_min.chosen_unique h.createdAt h'.createdAt, choice_max.chosen_unique h.modifiedAt h'.modifiedAt⟩
  · rw [h.mem_names, h'.mem_names]
  · refine (h.ascending name).eq_of_mem_iff (h'.ascending name) fun i => ?_
    rw [h.mem_listAt, h'.mem_listAt]

end IsMergeOf

/-! ### Any order -/

lemma entityType_foldl_merge : (parts.foldl merge p).entityType = p.entityType := by
  induction parts generalizing p with
  | nil => rfl
  | cons part parts ih => exact ih

/-- **Merging some parts and putting the instances in order gives the same attributes and times in whatever order the
parts are.**  The attributes of a part stand in the order of their names, and an identifier stands for one instance of
an attribute. Then the merge has what the parts have, each instance once and in order, and the first and last of their
times. The type is that of the first part, and what is in order stays as it is. -/
theorem merge_of_perm (hsorted : ∀ part ∈ p :: parts, Sorted part.attributes) (hids : IdsAgree (p :: parts))
    (hperm : (p :: parts).Perm (q :: others)) (property : TimeProperty) :
    let merged := (parts.foldl merge p).sortInstances property
    let merged' := (others.foldl merge q).sortInstances property
    (merged.attributes = merged'.attributes ∧ merged.createdAt = merged'.createdAt ∧
        merged.modifiedAt = merged'.modifiedAt) ∧
      IsMergeOf property (p :: parts) merged ∧ merged.entityType = p.entityType ∧
        merged.sortInstances property = merged := by
  intro merged merged'
  have hmerged : IsMergeOf property (p :: parts) merged := isMergeOf_foldl hsorted hids property
  have hmerged' : IsMergeOf property (q :: others) merged' := by
    refine isMergeOf_foldl (fun part hpart => hsorted part (hperm.mem_iff.2 hpart)) ?_ property
    intro part hpart part' hpart'
    exact hids part (hperm.mem_iff.2 hpart) part' (hperm.mem_iff.2 hpart')
  exact ⟨hmerged.unique (hmerged'.of_perm hperm.symm), hmerged, entityType_foldl_merge,
    sortInstances_sortInstances property _⟩

/-- An instance of which only the identifier and a time are known. -/
def observed (id : String) (t : Option Instant) : TemporalInstance := ⟨id, none, t, none, none, none, none, []⟩

/-- The history over a span, and below that over another one with an instance in common and one without a time. -/
def firstSpan : TemporalEntity where
  id := "urn:a"
  entityType := "T"
  createdAt := some (.ofSecond 3)
  attributes := [("urn:p", [observed "1" (some (.ofSecond 1)), observed "2" (some (.ofSecond 2))])]

def secondSpan : TemporalEntity where
  id := "urn:a"
  entityType := "U"
  createdAt := some (.ofSecond 2)
  attributes := [("urn:p", [observed "2" (some (.ofSecond 2)), observed "3" none]), ("urn:q", [])]

lemma idsAgree_spans : IdsAgree [firstSpan, secondSpan] := by
  have hmem : ∀ part ∈ [firstSpan, secondSpan], ∀ name, ∀ i ∈ listAt part.attributes name,
      i = observed "1" (some (.ofSecond 1)) ∨ i = observed "2" (some (.ofSecond 2)) ∨ i = observed "3" none := by
    intro part hpart name i hi
    simp only [List.mem_cons, List.not_mem_nil, or_false] at hpart
    rcases hpart with rfl | rfl <;> simp only [firstSpan, secondSpan, listAt, get?] at hi <;>
      repeat' split at hi
    all_goals simp at hi
    all_goals tauto
  intro part hpart part' hpart' name a ha b hb hid
  rcases hmem part hpart name a ha with rfl | rfl | rfl <;>
    rcases hmem part' hpart' name b hb with rfl | rfl | rfl <;> first | rfl | exact absurd hid (by decide)

theorem merge_of_perm_spans :
    let merged := ([secondSpan].foldl merge firstSpan).sortInstances .observedAt
    let merged' := ([firstSpan].foldl merge secondSpan).sortInstances .observedAt
    merged.attributes = merged'.attributes ∧ merged.createdAt = some (.ofSecond 2) ∧
      merged.entityType = "T" ∧ merged'.entityType = "U" ∧ "urn:q" ∈ names merged.attributes ∧
      (listAt merged.attributes "urn:p").Pairwise (fun a b => a.key .observedAt < b.key .observedAt) ∧
      ∀ i, i ∈ listAt merged.attributes "urn:p" ↔
        i ∈ [observed "3" none, observed "1" (some (.ofSecond 1)), observed "2" (some (.ofSecond 2))] := by
  intro merged merged'
  have hsorted : ∀ part ∈ [firstSpan, secondSpan], Sorted part.attributes := by
    unfold Sorted
    decide
  obtain ⟨⟨hattributes, -, -⟩, hmade, htype, -⟩ :=
    merge_of_perm hsorted idsAgree_spans (List.Perm.swap secondSpan firstSpan []) .observedAt
  have hname : "urn:q" ∈ names merged.attributes := (hmade.mem_names _).2 ⟨secondSpan, by simp, by decide⟩
  refine ⟨hattributes, rfl, htype, rfl, hname, hmade.ascending _, fun i => (hmade.mem_listAt _ i).trans ?_⟩
  have hfirst : listAt firstSpan.attributes "urn:p" =
      [observed "1" (some (.ofSecond 1)), observed "2" (some (.ofSecond 2))] := rfl
  have hsecond : listAt secondSpan.attributes "urn:p" =
      [observed "2" (some (.ofSecond 2)), observed "3" none] := rfl
  simp only [List.mem_cons, List.not_mem_nil, or_false, exists_eq_or_imp, exists_eq_left, hfirst, hsecond]
  tauto

end TemporalEntity

end EntityHistory
