/-
Sorting by keys.

Instants, intervals, points and instances are each put in order by comparing keys, of one linear order or
another. Sorting by a comparison of keys brings a list into the order of the keys, and elements of one key keep
their order. What comes last then is the greatest element, and of several greatest ones the last of the list. The
greatest or least element is also found by going through the list once and keeping the better one of two each time.

* `pairwise_mergeSort_of_key`: a list sorted by keys is in their order;
* `getLast?_mergeSort_of_key`: what comes last in it;
* `filter_mergeSort_of_key`, `eq_of_filter_eq`: sorting keeps the order of elements of one key, and a list in the
  order of keys is determined by them;
* `exists_append_of_foldl_keepBetter`: where the element stands that is kept;
* `foldl_keepBetter_eq_some_iff`: the element that is kept when no two have the same key.
-/
import Mathlib.Data.List.Induction
import Mathlib.Order.Lattice
import Mathlib.Tactic.Lemma

namespace EntityHistory

variable {α κ : Type} [LinearOrder κ] {isBefore : α → α → Bool}

lemma isBefore_trans (key : α → κ) (h : ∀ a b, isBefore a b = true ↔ key a ≤ key b) (a b c : α)
    (hab : isBefore a b = true) (hbc : isBefore b c = true) : isBefore a c = true := by
  rw [h] at *
  exact le_trans hab hbc

lemma isBefore_total (key : α → κ) (h : ∀ a b, isBefore a b = true ↔ key a ≤ key b) (a b : α) :
    (isBefore a b || isBefore b a) = true := by
  rw [Bool.or_eq_true, h, h]
  exact le_total (key a) (key b)

/-- A list that is sorted by keys is in their order. -/
lemma pairwise_mergeSort_of_key (key : α → κ) (h : ∀ a b, isBefore a b = true ↔ key a ≤ key b) (l : List α) :
    (l.mergeSort isBefore).Pairwise fun a b => isBefore a b = true :=
  List.pairwise_mergeSort (isBefore_trans key h) (isBefore_total key h) l

/-- An element that no other exceeds, and none of those behind it reaches, comes last when a list is sorted. -/
lemma getLast?_mergeSort_of_key (key : α → κ) (h : ∀ a b, isBefore a b = true ↔ key a ≤ key b) {b : α}
    {before after : List α} (hbefore : ∀ a ∈ before, key a ≤ key b) (hafter : ∀ a ∈ after, key a < key b) :
    ((before ++ b :: after).mergeSort isBefore).getLast? = some b := by
  have htrans := isBefore_trans key h
  have htotal := isBefore_total key h
  induction before with
  | nil =>
    obtain ⟨l₁, l₂, hsort, hrest, -⟩ := List.mergeSort_cons htrans htotal b after
    have hsorted := List.pairwise_mergeSort htrans htotal (b :: after)
    rw [hsort] at hsorted
    -- nothing of what follows belongs behind the element
    have hnil : l₂ = [] := by
      refine List.eq_nil_iff_forall_not_mem.2 fun a ha => ?_
      have hmem : a ∈ after := by
        rw [← (List.mergeSort_perm after isBefore).mem_iff, hrest]
        exact List.mem_append_right l₁ ha
      have hle := (List.pairwise_cons.1 (List.pairwise_append.1 hsorted).2.1).1 a ha
      exact absurd ((h b a).1 hle) (not_le_of_gt (hafter a hmem))
    rw [List.nil_append, hsort, hnil, List.getLast?_concat]
  | cons a before ih =>
    obtain ⟨ha, hbefore⟩ := List.forall_mem_cons.1 hbefore
    obtain ⟨l₁, l₂, hsort, hrest, hl₁⟩ := List.mergeSort_cons htrans htotal a (before ++ b :: after)
    have hlast := ih hbefore
    rw [hrest] at hlast
    rw [List.cons_append, hsort]
    cases l₂ with
    | nil =>
      rw [List.append_nil] at hlast
      have hnot := hl₁ b (List.mem_of_getLast? hlast)
      rw [(h a b).2 ha] at hnot
      cases hnot
    | cons c l₂ =>
      rw [List.getLast?_append, List.getLast?_cons, Option.some_or] at hlast
      rw [List.getLast?_append, List.getLast?_cons_cons, List.getLast?_cons, Option.some_or]
      exact hlast

/-! ### Elements of one key -/

section

variable {key : α → κ} {l l' : List α} {a b : α} {k : κ}

lemma key_head_le (h : (a :: l).Pairwise fun a b => key a ≤ key b) (hb : b ∈ a :: l) : key a ≤ key b := by
  rcases List.mem_cons.1 hb with rfl | hb
  · exact le_rfl
  · exact (List.pairwise_cons.1 h).1 b hb

/-- Behind an element come those of a greater key. -/
lemma mem_of_key_lt (h : (l ++ a :: l').Pairwise fun a b => key a ≤ key b) (hb : b ∈ l ++ a :: l')
    (hlt : key a < key b) : b ∈ l' := by
  rcases List.mem_append.1 hb with hb | hb
  · exact absurd hlt (not_lt_of_ge ((List.pairwise_append.1 h).2.2 b hb a List.mem_cons_self))
  · rcases List.mem_cons.1 hb with rfl | hb
    · exact absurd hlt (lt_irrefl _)
    · exact hb

lemma filter_append_cons_of_key_ne (hne : key a ≠ k) (l l' : List α) :
    ((l ++ a :: l').filter fun b => key b = k) = (l ++ l').filter fun b => key b = k := by
  rw [List.filter_append, List.filter_cons_of_neg (by simpa using hne), ← List.filter_append]

lemma mem_of_filter_eq (h : ∀ k, (l.filter fun a => key a = k) = l'.filter fun a => key a = k) (ha : a ∈ l) :
    a ∈ l' := by
  have hmem : a ∈ l.filter fun b => key b = key a := List.mem_filter.2 ⟨ha, by simp⟩
  rw [h] at hmem
  exact (List.mem_filter.1 hmem).1

/-- Lists with the same elements of each key have the same ones behind a common head. -/
lemma filter_eq_of_cons (h : ∀ k, ((a :: l).filter fun a => key a = k) = (a :: l').filter fun a => key a = k) (k : κ) :
    (l.filter fun a => key a = k) = l'.filter fun a => key a = k := by
  have hk := h k
  by_cases heq : key a = k
  · rw [List.filter_cons_of_pos (by simpa using heq), List.filter_cons_of_pos (by simpa using heq)] at hk
    exact (List.cons.inj hk).2
  · rwa [List.filter_cons_of_neg (by simpa using heq), List.filter_cons_of_neg (by simpa using heq)] at hk

/-- A list in the order of keys is determined by its elements of each key. -/
lemma eq_of_filter_eq (hl : l.Pairwise fun a b => key a ≤ key b) (hl' : l'.Pairwise fun a b => key a ≤ key b)
    (h : ∀ k, (l.filter fun a => key a = k) = l'.filter fun a => key a = k) : l = l' := by
  have h' := fun k => (h k).symm
  induction l generalizing l' with
  | nil => exact (List.eq_nil_iff_forall_not_mem.2 fun a ha => List.not_mem_nil (mem_of_filter_eq h' ha)).symm
  | cons a l ih =>
    cases l' with
    | nil => exact absurd (mem_of_filter_eq h List.mem_cons_self) List.not_mem_nil
    | cons b l' =>
      -- the heads have the least key, and they are the first elements of it
      have hge : key a ≤ key b := key_head_le hl (mem_of_filter_eq h' List.mem_cons_self)
      have hle : key b ≤ key a := key_head_le hl' (mem_of_filter_eq h List.mem_cons_self)
      have hsame : key a = key b := le_antisymm hge hle
      have hheads := h (key b)
      rw [List.filter_cons_of_pos (by simpa using hsame), List.filter_cons_of_pos (by simp)] at hheads
      obtain ⟨rfl, -⟩ := List.cons.inj hheads
      have hrest := filter_eq_of_cons h
      exact congrArg (a :: ·) (ih hl.of_cons hl'.of_cons hrest fun k => (hrest k).symm)

end

/-- Sorting leaves the elements of one key in their order. -/
lemma filter_mergeSort_of_key (key : α → κ) (h : ∀ a b, isBefore a b = true ↔ key a ≤ key b) (l : List α) (k : κ) :
    ((l.mergeSort isBefore).filter fun a => key a = k) = l.filter fun a => key a = k := by
  have hlevel : (l.filter fun a => key a = k).Pairwise fun a b => isBefore a b = true := by
    refine List.pairwise_of_forall_mem_list fun a ha b hb => (h a b).2 ?_
    rw [List.mem_filter, decide_eq_true_eq] at ha hb
    rw [ha.2, hb.2]
  have hsub : (l.filter fun a => key a = k).Sublist (l.mergeSort isBefore) :=
    List.sublist_mergeSort (isBefore_trans key h) (isBefore_total key h) hlevel List.filter_sublist
  have hfiltered := hsub.filter fun a => decide (key a = k)
  rw [List.filter_filter] at hfiltered
  simp only [Bool.and_self] at hfiltered
  exact (hfiltered.eq_of_length ((List.mergeSort_perm l isBefore).filter _).length_eq.symm).symm

/-- A list in the order of keys is what comes from sorting the same elements of each key. -/
lemma mergeSort_eq_of_filter_eq (key : α → κ) (h : ∀ a b, isBefore a b = true ↔ key a ≤ key b) {l l' : List α}
    (hl' : l'.Pairwise fun a b => key a ≤ key b)
    (heq : ∀ k, (l.filter fun a => key a = k) = l'.filter fun a => key a = k) : l.mergeSort isBefore = l' :=
  eq_of_filter_eq ((pairwise_mergeSort_of_key key h l).imp (h _ _).1) hl' fun k =>
    (filter_mergeSort_of_key key h l k).trans (heq k)

/-- With one element less, a list is sorted in the same way. What stands behind the element with no lesser key, or
before it with a greater one, follows it when the list is sorted. -/
lemma exists_mergeSort_append_cons (key : α → κ) (h : ∀ a b, isBefore a b = true ↔ key a ≤ key b)
    (l₁ l₂ : List α) (a : α) :
    ∃ before after, (l₁ ++ a :: l₂).mergeSort isBefore = before ++ a :: after ∧
      (l₁ ++ l₂).mergeSort isBefore = before ++ after ∧ (∀ b ∈ l₁, key a < key b → b ∈ after) ∧
      ∀ b ∈ l₂, key a ≤ key b → b ∈ after := by
  have hsort := filter_mergeSort_of_key key h (l₁ ++ a :: l₂)
  -- the element divides those of its key, and so all
  have hlevel := hsort (key a)
  rw [List.filter_append, List.filter_cons_of_pos (by simp)] at hlevel
  obtain ⟨before, rest, heq, hbefore, hrest⟩ := List.filter_eq_append_iff.1 hlevel
  obtain ⟨between, after, rfl, hbetween, -, hafter⟩ := List.filter_eq_cons_iff.1 hrest
  rw [← List.append_assoc] at heq
  have hsorted : (before ++ between ++ a :: after).Pairwise fun a b => key a ≤ key b :=
    heq ▸ (pairwise_mergeSort_of_key key h (l₁ ++ a :: l₂)).imp (h _ _).1
  have hgreater : ∀ b ∈ l₁ ++ a :: l₂, key a < key b → b ∈ after := by
    intro b hb hlt
    rw [← (List.mergeSort_perm _ isBefore).mem_iff, heq] at hb
    exact mem_of_key_lt hsorted hb hlt
  refine ⟨before ++ between, after, heq, mergeSort_eq_of_filter_eq key h ?_ fun k => ?_,
    fun b hb => hgreater b (List.mem_append_left _ hb), fun b hb hle => ?_⟩
  · exact hsorted.sublist ((List.sublist_cons_self a after).append_left _)
  · by_cases heqk : key a = k
    · subst heqk
      rw [List.filter_append, List.filter_append, List.filter_append, hbefore, hafter,
        List.filter_eq_nil_iff.2 hbetween, List.append_nil]
    · have hk := hsort k
      rw [heq, filter_append_cons_of_key_ne heqk, filter_append_cons_of_key_ne heqk] at hk
      exact hk.symm
  · rcases hle.lt_or_eq with hlt | heqb
    · exact hgreater b (List.mem_append_right _ (List.mem_cons_of_mem a hb)) hlt
    · have hb' : b ∈ l₂.filter fun b => key b = key a := List.mem_filter.2 ⟨hb, by simp [heqb]⟩
      rw [← hafter] at hb'
      exact (List.mem_filter.1 hb').1

/-! ### Keeping the better one -/

/-- The better one of the best element so far and another. -/
def keepBetter (isBetter : α → α → Bool) (best : Option α) (a : α) : Option α :=
  match best with
  | none => some a
  | some b => if isBetter a b then some a else some b

/-- Only of an empty list nothing is kept. -/
lemma foldl_keepBetter_eq_none_iff {isBetter : α → α → Bool} {l : List α} :
    l.foldl (keepBetter isBetter) none = none ↔ l = [] := by
  constructor
  · intro h
    cases l using List.reverseRecOn with
    | nil => rfl
    | append_singleton l a =>
      rw [List.foldl_append, List.foldl_cons, List.foldl_nil] at h
      cases hbest : l.foldl (keepBetter isBetter) none with
      | none =>
        rw [hbest] at h
        cases h
      | some b =>
        rw [hbest, keepBetter] at h
        split at h <;> cases h
  · rintro rfl
    rfl

/-- The element that is kept in the end is better than all those before it, and none of those behind it is
better. -/
lemma exists_append_of_foldl_keepBetter {isBetter : α → α → Bool}
    (htrans : ∀ a b c, isBetter a b = true → (isBetter b c = true ∨ isBetter c b = false) → isBetter a c = true)
    {l : List α} {b : α} (h : l.foldl (keepBetter isBetter) none = some b) :
    ∃ before after, l = before ++ b :: after ∧ (∀ a ∈ before, isBetter b a = true) ∧
      ∀ a ∈ after, isBetter a b = false := by
  induction l using List.reverseRecOn generalizing b with
  | nil => cases h
  | append_singleton l a ih =>
    rw [List.foldl_append, List.foldl_cons, List.foldl_nil] at h
    cases hbest : l.foldl (keepBetter isBetter) none with
    | none =>
      rw [hbest] at h
      obtain rfl := foldl_keepBetter_eq_none_iff.1 hbest
      obtain rfl := Option.some.inj h
      exact ⟨[], [], rfl, List.forall_mem_nil _, List.forall_mem_nil _⟩
    | some best =>
      obtain ⟨before, after, hl, hbefore, hafter⟩ := ih hbest
      rw [hbest, keepBetter] at h
      split at h
      case isTrue hbetter =>
        obtain rfl := Option.some.inj h
        refine ⟨l, [], rfl, fun c hc => ?_, List.forall_mem_nil _⟩
        rw [hl, List.mem_append, List.mem_cons] at hc
        rcases hc with hc | rfl | hc
        · exact htrans a best c hbetter (Or.inl (hbefore c hc))
        · exact hbetter
        · exact htrans a best c hbetter (Or.inr (hafter c hc))
      case isFalse hnot =>
        obtain rfl := Option.some.inj h
        refine ⟨before, after ++ [a], by rw [hl, List.append_assoc, List.cons_append], hbefore, ?_⟩
        intro c hc
        rcases List.mem_append.1 hc with hc | hc
        · exact hafter c hc
        · rw [List.mem_singleton.1 hc]
          exact Bool.eq_false_of_not_eq_true hnot

/-- By a key that no two elements share, the least element is kept, whatever the order of the list. -/
lemma foldl_keepBetter_eq_some_iff {isBetter : α → α → Bool} (key : α → κ) (hkey : Function.Injective key)
    (h : ∀ a b, isBetter a b = true ↔ key a < key b) {l : List α} {b : α} :
    l.foldl (keepBetter isBetter) none = some b ↔ b ∈ l ∧ ∀ a ∈ l, key b ≤ key a := by
  have hnot (a b : α) : isBetter a b = false ↔ key b ≤ key a := by
    rw [← Bool.not_eq_true, h, not_lt]
  have hleast (b : α) (hb : l.foldl (keepBetter isBetter) none = some b) : b ∈ l ∧ ∀ a ∈ l, key b ≤ key a := by
    have htrans (a b c : α) (hab : isBetter a b = true) (hbc : isBetter b c = true ∨ isBetter c b = false) :
        isBetter a c = true := by
      rw [h] at *
      rw [hnot] at hbc
      exact hbc.elim hab.trans hab.trans_le
    obtain ⟨before, after, rfl, hbefore, hafter⟩ := exists_append_of_foldl_keepBetter htrans hb
    refine ⟨by simp, fun a ha => ?_⟩
    rcases List.mem_append.1 ha with ha | ha
    · exact ((h b a).1 (hbefore a ha)).le
    · rcases List.mem_cons.1 ha with rfl | ha
      · exact le_rfl
      · exact (hnot a b).1 (hafter a ha)
  refine ⟨hleast b, fun ⟨hb, hle⟩ => ?_⟩
  cases hkept : l.foldl (keepBetter isBetter) none with
  | none =>
    rw [foldl_keepBetter_eq_none_iff.1 hkept] at hb
    cases hb
  | some c =>
    obtain ⟨hc, hcle⟩ := hleast c hkept
    rw [hkey (le_antisymm (hcle b hb) (hle c hc))]

end EntityHistory
