/-
The first rows of each partition.

A statement may number the rows of each partition in an order, keep those with a number up to a limit, and put
what is left in the order of the partitions and the numbers. The order leaves level rows any numbers among
them, so there may be several answers. Each is a list in the order of the partitions that has, of each
partition, the first rows of some way to sort it.

* `Sql.filter_le_eq_take`: rows up to a number are the first ones;
* `Sql.isFirstRows_iff`: what may be answered, without numbers;
* `Sql.IsFirstRows.unique`: the answer where no two rows of a partition are level.
-/
import Mathlib.Data.Fintype.Fin
import Mathlib.Data.List.FinRange
import EntityHistory.Proofs.Names
import EntityHistory.Proofs.Sorting
import EntityHistory.Proofs.Sql.Windows
import EntityHistory.Proofs.Store.Memory

namespace EntityHistory.Sql

variable {α ω : Type} {partition : α → String} {place : α → ω} {limit : Nat}
  {rows table answer answer' : List α} {name : String}

/-- Rows with their numbers. -/
def numbered (rows : List α) (number : Fin rows.length → Nat) : List (α × Nat) :=
  (List.finRange rows.length).map fun k => (rows[k], number k)

/-- What may be answered with the rows of a table that are first in their partitions: they are numbered in any
arrangement, and those up to a limit stand in the order of partitions and numbers. -/
def IsFirstRows [LT ω] (partition : α → String) (place : α → ω) (limit : Nat) (table answer : List α) :
    Prop :=
  ∃ (rows : List α) (number : Fin rows.length → Nat) (out : List (α × Nat)), rows.Perm table ∧
    IsRowNumber (fun k => partition rows[k]) (fun k => place rows[k]) number ∧
    out.Perm ((numbered rows number).filter fun r => r.2 ≤ limit) ∧
    (out.Pairwise fun r r' => toLex (partition r.1, r.2) ≤ toLex (partition r'.1, r'.2)) ∧
    answer = out.map (·.1)

/-! ### Numbered rows -/

section Numbers

variable {number : Fin rows.length → Nat} {r r' : α × Nat} {l : List (α × Nat)}

lemma mem_numbered : r ∈ numbered rows number ↔ ∃ k, (rows[k], number k) = r := by
  simp [numbered]

lemma map_fst_numbered : (numbered rows number).map (·.1) = rows := by
  rw [numbered, List.map_map]
  exact List.map_getElem_finRange rows

lemma map_filter_numbered (number : Fin rows.length → Nat) (name : String) :
    ((numbered rows number).filter fun r => partition r.1 = name).map (·.1) =
      rows.filter fun a => partition a = name := by
  have hrows : (numbered rows number).map (·.1) = rows := map_fst_numbered
  conv_rhs => rw [← hrows, List.filter_map]
  rfl

/-- The number of a row counts the rows of its partition with numbers up to it. -/
lemma eq_countP_numbered [LT ω] (h : IsRowNumber (fun k => partition rows[k]) (fun k => place rows[k]) number)
    (hr : r ∈ numbered rows number) :
    r.2 = (numbered rows number).countP fun r' => partition r'.1 = partition r.1 && r'.2 ≤ r.2 := by
  obtain ⟨k, rfl⟩ := mem_numbered.1 hr
  have hcard : ∀ P : Fin rows.length → Bool,
      Finset.card {j : Fin rows.length | P j = true} = (List.finRange rows.length).countP P := by
    intro P
    rw [List.countP_eq_length_filter]
    exact congrArg List.length (List.filter_congr fun j _ => by simp)
  rw [numbered, List.countP_map, ← hcard]
  refine (h.eq_card k).trans (congrArg Finset.card (Finset.filter_congr fun j _ => ?_))
  simp

/-- A partition has one row with a number. -/
lemma eq_of_number_eq [LT ω] (h : IsRowNumber (fun k => partition rows[k]) (fun k => place rows[k]) number)
    (hr : r ∈ numbered rows number) (hr' : r' ∈ numbered rows number)
    (hpartition : partition r.1 = partition r'.1) (hnumber : r.2 = r'.2) : r = r' := by
  obtain ⟨k, rfl⟩ := mem_numbered.1 hr
  obtain ⟨k', rfl⟩ := mem_numbered.1 hr'
  rw [h.injective k k' hpartition hnumber]

/-- Rows of one partition have different numbers. -/
lemma pairwise_numbered [LT ω] (h : IsRowNumber (fun k => partition rows[k]) (fun k => place rows[k]) number) :
    (numbered rows number).Pairwise fun r r' => partition r.1 = partition r'.1 → r.2 ≠ r'.2 := by
  refine List.pairwise_map.2 ((List.nodup_finRange rows.length).imp fun hne hpartition hnumber => hne ?_)
  exact h.injective _ _ hpartition hnumber

/-- A row with a lesser number does not come later. -/
lemma place_le_of_lt [LinearOrder ω]
    (h : IsRowNumber (fun k => partition rows[k]) (fun k => place rows[k]) number)
    (hr : r ∈ numbered rows number) (hr' : r' ∈ numbered rows number)
    (hpartition : partition r.1 = partition r'.1) (hlt : r.2 < r'.2) : place r.1 ≤ place r'.1 := by
  obtain ⟨k, rfl⟩ := mem_numbered.1 hr
  obtain ⟨k', rfl⟩ := mem_numbered.1 hr'
  by_contra hplace
  exact hlt.asymm (h.lt_of_lt k' k hpartition.symm (lt_of_not_ge hplace))

/-- A condition that holds of the first elements of a list and of no others picks these. -/
lemma filter_eq_take_of_getElem {p : α × Nat → Bool} {n : Nat}
    (h : ∀ (k : Nat) (hk : k < l.length), p l[k] = true ↔ k < n) : l.filter p = l.take n := by
  have htake : ∀ r ∈ l.take n, p r = true := by
    intro r hr
    obtain ⟨k, hk, rfl⟩ := List.getElem_of_mem hr
    rw [List.length_take] at hk
    rw [List.getElem_take, h k (by omega)]
    omega
  have hdrop : ∀ r ∈ l.drop n, ¬ p r = true := by
    intro r hr
    obtain ⟨k, hk, rfl⟩ := List.getElem_of_mem hr
    rw [List.length_drop] at hk
    rw [List.getElem_drop, h (n + k) (by omega)]
    omega
  calc l.filter p = (l.take n ++ l.drop n).filter p := by rw [List.take_append_drop]
    _ = l.take n := by
      rw [List.filter_append, List.filter_eq_self.2 htake, List.filter_eq_nil_iff.2 hdrop, List.append_nil]

/-- Where each row of a sorted list has the number of rows until it, the numbers are those of the positions. -/
lemma number_getElem (hsorted : l.Pairwise fun r r' => r.2 < r'.2)
    (hcount : ∀ r ∈ l, r.2 = l.countP fun r' => r'.2 ≤ r.2) (k : Nat) (hk : k < l.length) :
    l[k].2 = k + 1 := by
  rw [List.pairwise_iff_getElem] at hsorted
  have huntil : (l.filter fun r => r.2 ≤ l[k].2) = l.take (k + 1) := by
    refine filter_eq_take_of_getElem fun j hj => ?_
    rw [decide_eq_true_eq, Nat.lt_succ_iff]
    rcases lt_trichotomy j k with hjk | rfl | hkj
    · exact iff_of_true (hsorted j k hj hk hjk).le hjk.le
    · exact iff_of_true le_rfl le_rfl
    · exact iff_of_false (hsorted k j hk hj hkj).not_ge hkj.not_ge
  rw [hcount l[k] (List.getElem_mem hk), List.countP_eq_length_filter, huntil, List.length_take]
  omega

/-- Rows of a sorted list up to a number are the first ones. -/
theorem filter_le_eq_take (hsorted : l.Pairwise fun r r' => r.2 < r'.2)
    (hcount : ∀ r ∈ l, r.2 = l.countP fun r' => r'.2 ≤ r.2) (limit : Nat) :
    (l.filter fun r => r.2 ≤ limit) = l.take limit := by
  refine filter_eq_take_of_getElem fun k hk => ?_
  rw [number_getElem hsorted hcount k hk, decide_eq_true_eq, Nat.succ_le_iff]

/-- The numbered rows of a partition in the order of their numbers. -/
structure IsSortedPart (number : Fin rows.length → Nat) (partition : α → String) (name : String)
    (l : List (α × Nat)) : Prop where
  perm : l.Perm ((numbered rows number).filter fun r => partition r.1 = name)
  sorted : l.Pairwise fun r r' => r.2 < r'.2

lemma IsSortedPart.mem_iff (hl : IsSortedPart number partition name l) :
    r ∈ l ↔ r ∈ numbered rows number ∧ partition r.1 = name := by
  rw [hl.perm.mem_iff, List.mem_filter, decide_eq_true_eq]

/-- Each of them has the number of those until it. -/
lemma IsSortedPart.eq_countP [LT ω] (hl : IsSortedPart number partition name l)
    (h : IsRowNumber (fun k => partition rows[k]) (fun k => place rows[k]) number) (hr : r ∈ l) :
    r.2 = l.countP fun r' => r'.2 ≤ r.2 := by
  obtain ⟨hmem, hname⟩ := hl.mem_iff.1 hr
  rw [hl.perm.countP_eq, List.countP_filter]
  refine (eq_countP_numbered h hmem).trans (List.countP_congr fun r' _ => ?_)
  rw [hname, Bool.and_comm]

/-- Of them those up to a number are the first ones. -/
lemma IsSortedPart.filter_eq_take [LT ω] (hl : IsSortedPart number partition name l)
    (h : IsRowNumber (fun k => partition rows[k]) (fun k => place rows[k]) number) (limit : Nat) :
    (l.filter fun r => r.2 ≤ limit) = l.take limit :=
  filter_le_eq_take hl.sorted (fun _ hr => hl.eq_countP h hr) limit

/-- The rows of a partition can be put in the order of their numbers. -/
lemma exists_isSortedPart [LT ω] (h : IsRowNumber (fun k => partition rows[k]) (fun k => place rows[k]) number)
    (name : String) : ∃ l, IsSortedPart number partition name l := by
  have hne : ((numbered rows number).filter fun r => partition r.1 = name).Pairwise fun r r' => r.2 ≠ r'.2 := by
    refine ((pairwise_numbered h).filter _).imp_of_mem fun hr hr' hne => hne ?_
    simp only [List.mem_filter, decide_eq_true_eq] at hr hr'
    exact hr.2.trans hr'.2.symm
  have hperm := List.mergeSort_perm ((numbered rows number).filter fun r => partition r.1 = name)
    fun r r' => decide (r.2 ≤ r'.2)
  have hle : (((numbered rows number).filter fun r => partition r.1 = name).mergeSort
      fun r r' => decide (r.2 ≤ r'.2)).Pairwise fun r r' => decide (r.2 ≤ r'.2) = true :=
    pairwise_mergeSort_of_key (fun r : α × Nat => r.2) (fun _ _ => decide_eq_true_iff) _
  have hdifferent := (hperm.pairwise_iff fun hne => hne.symm).2 hne
  refine ⟨_, hperm, (hle.and hdifferent).imp fun hboth => ?_⟩
  exact lt_of_le_of_ne (of_decide_eq_true hboth.1) hboth.2

/-- Rows of a partition in the order of their numbers are in their order. -/
lemma IsSortedPart.pairwise_place [LinearOrder ω] (hl : IsSortedPart number partition name l)
    (h : IsRowNumber (fun k => partition rows[k]) (fun k => place rows[k]) number) :
    (l.map (·.1)).Pairwise fun a b => place a ≤ place b := by
  refine List.pairwise_map.2 (hl.sorted.imp_of_mem fun hr hr' hlt => ?_)
  obtain ⟨hmem, hname⟩ := hl.mem_iff.1 hr
  obtain ⟨hmem', hname'⟩ := hl.mem_iff.1 hr'
  exact place_le_of_lt h hmem hmem' (hname.trans hname'.symm) hlt

/-- They are the rows of the partition. -/
lemma IsSortedPart.map_fst_perm (hl : IsSortedPart number partition name l) :
    (l.map (·.1)).Perm (rows.filter fun a => partition a = name) := by
  rw [← map_filter_numbered]
  exact hl.perm.map _

/-- What is answered of a partition are its first rows in the order of their numbers. -/
lemma IsSortedPart.filter_out_eq_take [LT ω] {out : List (α × Nat)}
    (hl : IsSortedPart number partition name l)
    (h : IsRowNumber (fun k => partition rows[k]) (fun k => place rows[k]) number)
    (hout : out.Perm ((numbered rows number).filter fun r => r.2 ≤ limit))
    (hlex : out.Pairwise fun r r' => toLex (partition r.1, r.2) ≤ toLex (partition r'.1, r'.2)) :
    (out.filter fun r => partition r.1 = name) = l.take limit := by
  rw [← hl.filter_eq_take h limit]
  have hperm : (out.filter fun r => partition r.1 = name).Perm (l.filter fun r => r.2 ≤ limit) := by
    refine (hout.filter _).trans (List.Perm.trans (List.Perm.of_eq ?_) (hl.perm.symm.filter _))
    rw [List.filter_filter, List.filter_filter]
    exact List.filter_congr fun r _ => Bool.and_comm _ _
  have hsorted : (out.filter fun r => partition r.1 = name).Pairwise fun r r' => r.2 ≤ r'.2 := by
    refine (hlex.filter _).imp_of_mem fun hr hr' hle => ?_
    simp only [List.mem_filter, decide_eq_true_eq] at hr hr'
    rcases Prod.Lex.toLex_le_toLex.1 hle with hlt | ⟨-, hnumbers⟩
    · exact absurd (hr.2.trans hr'.2.symm) hlt.ne
    · exact hnumbers
  -- within the partition a number determines its row, so the order of the numbers leaves no choice
  refine hperm.eq_of_pairwise (fun r r' hr hr' hle hge => ?_) hsorted ((hl.sorted.filter _).imp le_of_lt)
  obtain ⟨hmem, hname⟩ := hl.mem_iff.1 (List.mem_of_mem_filter (hperm.mem_iff.1 hr))
  obtain ⟨hmem', hname'⟩ := hl.mem_iff.1 (List.mem_of_mem_filter hr')
  exact eq_of_number_eq h hmem hmem' (hname.trans hname'.symm) (le_antisymm hle hge)

end Numbers

/-! ### Answers without numbers -/

/-- The rows of a name among lists of several names are the list of this name. -/
lemma filter_flatMap_of_nodup {names : List String} {listOf : String → List α} (hnodup : names.Nodup)
    (hlistOf : ∀ n, ∀ a ∈ listOf n, partition a = n) (name : String) :
    ((names.flatMap listOf).filter fun a => partition a = name) = if name ∈ names then listOf name else [] := by
  induction names with
  | nil => rfl
  | cons n names ih =>
    obtain ⟨hn, hnames⟩ := List.nodup_cons.1 hnodup
    rw [List.flatMap_cons, List.filter_append, ih hnames]
    by_cases heq : n = name
    · have hall : ∀ a ∈ listOf n, decide (partition a = name) = true := by
        intro a ha
        rw [hlistOf n a ha, heq, decide_eq_true rfl]
      rw [List.filter_eq_self.2 hall, ← heq, if_neg hn, if_pos List.mem_cons_self, List.append_nil]
    · have hnone : ∀ a ∈ listOf n, ¬ decide (partition a = name) = true := by
        intro a ha
        rw [hlistOf n a ha, decide_eq_true_eq]
        exact heq
      simp only [List.filter_eq_nil_iff.2 hnone, List.nil_append, List.mem_cons, Ne.symm heq, false_or]

/-- Lists of the rows of each partition can be put one after the other in the order of the partitions. -/
lemma exists_arrangement [LinearOrder ω] {listOf : String → List α}
    (hperm : ∀ name, (listOf name).Perm (table.filter fun a => partition a = name))
    (hsorted : ∀ name, (listOf name).Pairwise fun a b => place a ≤ place b) :
    ∃ rows : List α, (∀ name, (rows.filter fun a => partition a = name) = listOf name) ∧
      rows.Pairwise fun a b => partition a ≤ partition b ∧ (partition a = partition b → place a ≤ place b) := by
  have hlistOf : ∀ n, ∀ a ∈ listOf n, partition a = n := by
    intro n a ha
    simpa using (List.mem_filter.1 ((hperm n).mem_iff.1 ha)).2
  refine ⟨(nameSet (table.map partition)).flatMap listOf, fun name => ?_, List.pairwise_flatMap.2 ⟨?_, ?_⟩⟩
  · rw [filter_flatMap_of_nodup ((pairwise_nameSet _).imp ne_of_lt) hlistOf]
    by_cases hname : name ∈ nameSet (table.map partition)
    · rw [if_pos hname]
    · -- a name that no row has has no list
      have hempty : (table.filter fun a => partition a = name) = [] := by
        refine List.filter_eq_nil_iff.2 fun a ha heq => hname ?_
        exact mem_nameSet.2 (List.mem_map.2 ⟨a, ha, of_decide_eq_true heq⟩)
      rw [if_neg hname, ((hempty ▸ hperm name) : (listOf name).Perm []).eq_nil]
  · intro n _
    refine (hsorted n).imp_of_mem fun ha hb hplace => ⟨?_, fun _ => hplace⟩
    rw [hlistOf n _ ha, hlistOf n _ hb]
  · refine (pairwise_nameSet _).imp fun hlt a ha b hb => ?_
    rw [hlistOf _ a ha, hlistOf _ b hb]
    exact ⟨hlt.le, fun heq => absurd heq hlt.ne⟩

/-- Rows that stand in their order can be numbered as they stand. -/
lemma exists_number [LinearOrder ω]
    (h : rows.Pairwise fun a b => partition a ≤ partition b ∧ (partition a = partition b → place a ≤ place b)) :
    ∃ number : Fin rows.length → Nat,
      IsRowNumber (fun k => partition rows[k]) (fun k => place rows[k]) number ∧
      (numbered rows number).Pairwise fun r r' =>
        partition r.1 ≤ partition r'.1 ∧ (partition r.1 = partition r'.1 → r.2 < r'.2) := by
  obtain ⟨number, hnumber, hkeeps⟩ := exists_isRowNumber (fun k : Fin rows.length => partition rows[k])
    fun k => place rows[k]
  refine ⟨number, hnumber, List.pairwise_map.2 ?_⟩
  refine (List.pairwise_lt_finRange rows.length).imp fun {k k'} hlt => ?_
  obtain ⟨hpartition, hplace⟩ := List.pairwise_iff_getElem.1 h k k' k.isLt k'.isLt hlt
  refine ⟨hpartition, fun heq => ?_⟩
  rcases (hplace heq).lt_or_eq with hbefore | hlevel
  · exact hnumber.lt_of_lt k k' heq hbefore
  · exact (hkeeps k k' heq hlevel).2 hlt

/-- Something is answered with every table. -/
lemma exists_isFirstRows [LinearOrder ω] (partition : α → String) (place : α → ω) (limit : Nat)
    (table : List α) : ∃ answer, IsFirstRows partition place limit table answer := by
  obtain ⟨number, hnumber, -⟩ := exists_isRowNumber (fun k : Fin table.length => partition table[k])
    fun k => place table[k]
  let key : α × Nat → String ×ₗ Nat := fun r => toLex (partition r.1, r.2)
  let kept := (numbered table number).filter fun r => r.2 ≤ limit
  have hsorted : (kept.mergeSort fun r r' => decide (key r ≤ key r')).Pairwise fun r r' =>
      decide (key r ≤ key r') = true := pairwise_mergeSort_of_key key (fun _ _ => decide_eq_true_iff) kept
  exact ⟨_, table, number, kept.mergeSort fun r r' => decide (key r ≤ key r'), List.Perm.refl _, hnumber,
    List.mergeSort_perm _ _, hsorted.imp of_decide_eq_true, rfl⟩

/-- A list may be answered when it is in the order of the partitions and has, of each of them, the first rows of
some way to sort it. -/
theorem isFirstRows_iff [LinearOrder ω] :
    IsFirstRows partition place limit table answer ↔
      (answer.Pairwise fun a b => partition a ≤ partition b) ∧
      ∀ name, ∃ l : List α, l.Perm (table.filter fun a => partition a = name) ∧
        (l.Pairwise fun a b => place a ≤ place b) ∧
        (answer.filter fun a => partition a = name) = l.take limit := by
  constructor
  · rintro ⟨rows, number, out, hrows, hnumber, hout, hlex, rfl⟩
    refine ⟨List.pairwise_map.2 (hlex.imp fun hle => ?_), fun name => ?_⟩
    · rcases Prod.Lex.toLex_le_toLex.1 hle with hlt | ⟨heq, -⟩
      · exact hlt.le
      · exact heq.le
    obtain ⟨part, hpart⟩ := exists_isSortedPart hnumber name
    refine ⟨part.map (·.1), hpart.map_fst_perm.trans (hrows.filter _), hpart.pairwise_place hnumber, ?_⟩
    rw [← List.map_take, ← hpart.filter_out_eq_take hnumber hout hlex, List.filter_map]
    rfl
  · rintro ⟨hanswer, hparts⟩
    choose listOf hperm hsorted htake using hparts
    obtain ⟨rows, hfilter, hrows⟩ := exists_arrangement hperm hsorted
    obtain ⟨number, hnumber, hstands⟩ := exists_number hrows
    have htable : rows.Perm table := Log.perm_of_filter_perm partition fun name => hfilter name ▸ hperm name
    refine ⟨rows, number, (numbered rows number).filter fun r => r.2 ≤ limit, htable, hnumber, List.Perm.refl _,
      (hstands.filter _).imp fun {r r'} h => ?_, ?_⟩
    · rcases h.1.lt_or_eq with hlt | heq
      · exact Prod.Lex.toLex_le_toLex.2 (Or.inl hlt)
      · exact Prod.Lex.toLex_le_toLex.2 (Or.inr ⟨heq, (h.2 heq).le⟩)
    refine eq_of_filter_eq hanswer (List.pairwise_map.2 ((hstands.filter _).imp And.left)) fun name => ?_
    -- the rows of a partition stand in the order of their numbers
    have hpart : IsSortedPart number partition name
        ((numbered rows number).filter fun r => partition r.1 = name) := by
      refine ⟨List.Perm.refl _, (hstands.filter _).imp_of_mem fun hr hr' h => h.2 ?_⟩
      simp only [List.mem_filter, decide_eq_true_eq] at hr hr'
      exact hr.2.trans hr'.2.symm
    calc (answer.filter fun a => partition a = name)
        = (rows.filter fun a => partition a = name).take limit := by rw [htake, hfilter]
      _ = (((numbered rows number).filter fun r => partition r.1 = name).filter fun r =>
            r.2 ≤ limit).map (·.1) := by
        rw [hpart.filter_eq_take hnumber, List.map_take, map_filter_numbered]
      _ = (((numbered rows number).filter fun r => r.2 ≤ limit).map (·.1)).filter fun a =>
            partition a = name := by
        rw [List.filter_filter, List.filter_map, List.filter_filter]
        exact congrArg (List.map _) (List.filter_congr fun r _ => Bool.and_comm _ _)

/-- Where no two rows of a partition are level, there is one answer. -/
theorem IsFirstRows.unique [LinearOrder ω] (h : IsFirstRows partition place limit table answer)
    (h' : IsFirstRows partition place limit table answer')
    (hlevel : ∀ a ∈ table, ∀ b ∈ table, partition a = partition b → place a = place b → a = b) :
    answer = answer' := by
  obtain ⟨hanswer, hparts⟩ := isFirstRows_iff.1 h
  obtain ⟨hanswer', hparts'⟩ := isFirstRows_iff.1 h'
  refine eq_of_filter_eq hanswer hanswer' fun name => ?_
  obtain ⟨l, hperm, hsorted, htake⟩ := hparts name
  obtain ⟨l', hperm', hsorted', htake'⟩ := hparts' name
  have hl : l = l' := by
    refine (hperm.trans hperm'.symm).eq_of_pairwise (fun a b ha hb hle hge => ?_) hsorted hsorted'
    obtain ⟨hmem, hname⟩ := List.mem_filter.1 (hperm.mem_iff.1 ha)
    obtain ⟨hmem', hname'⟩ := List.mem_filter.1 (hperm'.mem_iff.1 hb)
    rw [decide_eq_true_eq] at hname hname'
    exact hlevel a hmem b hmem' (hname.trans hname'.symm) (le_antisymm hle hge)
  rw [htake, htake', hl]

end EntityHistory.Sql
