/-
Row numbers, first rows and groups.

What becomes of a row can depend on the other rows of its table. `row_number()` numbers the rows of each
partition in an order, `DISTINCT ON` keeps the first row of each key in an order, and `GROUP BY` makes one row
of all the rows with one key. The order may leave rows level, and tables have no order of their own, so these
are relations between a table and what may come of it.

* `Sql.exists_isRowNumber`, `Sql.exists_isDistinctOn`: something comes of every table;
* `Sql.IsDistinctOn.mem_iff`: where no two rows of a key are level, `DISTINCT ON` leaves no choice;
* `Sql.perm_of_isGroupBy`: rows that are determined by their keys make the same groups in another order;
* `Sql.IsRowNumber.eq_add_card`: the gap between the number of a true row among all and among the true ones.
-/
import Mathlib.Data.Finset.Max
import Mathlib.Data.Fintype.Card
import Mathlib.Data.List.Dedup
import Mathlib.Data.List.Perm.Basic
import Mathlib.Data.Prod.Lex
import Mathlib.Order.Bounds.Defs

namespace EntityHistory.Sql

open Finset

/-! ### Row numbers -/

section RowNumbers

variable {ι κ ω : Type} [Fintype ι] [DecidableEq κ]

/-- The numbers that `row_number()` gives rows: in each partition from one on without gaps, no number twice,
and ascending with the order. Rows that are level are numbered in any order. -/
structure IsRowNumber [LT ω] (partition : ι → κ) (order : ι → ω) (number : ι → Nat) : Prop where
  eq_card : ∀ i, number i = #{j | partition j = partition i ∧ number j ≤ number i}
  injective : ∀ i j, partition i = partition j → number i = number j → i = j
  lt_of_lt : ∀ i j, partition i = partition j → order i < order j → number i < number j

/-- Rows can be numbered so that level rows keep the order in which they stand. -/
theorem exists_isRowNumber [LinearOrder ι] [LinearOrder ω] (partition : ι → κ) (order : ι → ω) :
    ∃ number, IsRowNumber partition order number ∧
      ∀ i j, partition i = partition j → order i = order j → (number i < number j ↔ i < j) := by
  let place : ι → ω ×ₗ ι := fun i => toLex (order i, i)
  let number : ι → Nat := fun i => #{j | partition j = partition i ∧ place j ≤ place i}
  have hlt : ∀ i j, partition i = partition j → place i < place j → number i < number j := by
    intro i j hpartition hplace
    refine card_lt_card ((ssubset_iff_of_subset fun k hk => ?_).2 ⟨j, ?_, ?_⟩)
    · obtain ⟨hki, hle⟩ : partition k = partition i ∧ place k ≤ place i := by simpa using hk
      simpa using ⟨hki.trans hpartition, hle.trans hplace.le⟩
    · simp
    · simpa using fun _ => hplace
  have hlt_iff : ∀ i j, partition i = partition j → (number i < number j ↔ place i < place j) := by
    intro i j hpartition
    refine ⟨fun hnumber => lt_of_not_ge fun hplace => ?_, hlt i j hpartition⟩
    rcases hplace.lt_or_eq with hplace | hplace
    · exact hnumber.asymm (hlt j i hpartition.symm hplace)
    · have hij : j = i := congrArg Prod.snd (toLex.injective hplace)
      exact hnumber.ne (by rw [hij])
  refine ⟨number, ⟨fun i => congrArg card (filter_congr fun j _ => ?_), fun i j hpartition hnumber => ?_,
    fun i j hpartition horder => hlt i j hpartition (Prod.Lex.toLex_lt_toLex.2 (Or.inl horder))⟩,
    fun i j hpartition horder => ?_⟩
  · refine and_congr_right fun hpartition => ?_
    rw [← not_lt, ← not_lt, hlt_iff i j hpartition.symm]
  · have hplace : place i = place j := by
      rcases lt_trichotomy (place i) (place j) with h | h | h
      · exact absurd hnumber (hlt i j hpartition h).ne
      · exact h
      · exact absurd hnumber (hlt j i hpartition.symm h).ne'
    exact congrArg Prod.snd (toLex.injective hplace)
  · simp [hlt_iff i j hpartition, place, Prod.Lex.toLex_lt_toLex, horder]

/-- Numbering rows by time and result, false before true, and numbering by time the rows of each result by
themselves: the number of a true row is greater among all rows, by the number of the false ones until its
time. Of rows that are level in both orders, both numberings have to take the same one first. -/
theorem IsRowNumber.eq_add_card [LinearOrder ω] {entity : ι → κ} {result : ι → Bool} {time : ι → ω}
    {number numberWithin : ι → Nat}
    (h : IsRowNumber entity (fun i => toLex (time i, result i)) number)
    (hwithin : IsRowNumber (fun i => (entity i, result i)) time numberWithin)
    (hsame : ∀ i j, entity i = entity j → time i = time j → result i = result j →
      (number i < number j ↔ numberWithin i < numberWithin j)) {i : ι} (hi : result i = true) :
    number i = numberWithin i + #{j | entity j = entity i ∧ result j = false ∧ time j ≤ time i} := by
  have htrue : ∀ j, entity j = entity i → result j = true →
      (number j ≤ number i ↔ numberWithin j ≤ numberWithin i) := by
    intro j he hj
    have hr : result j = result i := hj.trans hi.symm
    rcases lt_trichotomy (time j) (time i) with ht | ht | ht
    · have hnumber := h.lt_of_lt j i he (Prod.Lex.toLex_lt_toLex.2 (Or.inl ht))
      have hnumberWithin := hwithin.lt_of_lt j i (Prod.ext he hr) ht
      exact iff_of_true hnumber.le hnumberWithin.le
    · rw [← not_lt, ← not_lt, hsame i j he.symm ht.symm hr.symm]
    · have hnumber := h.lt_of_lt i j he.symm (Prod.Lex.toLex_lt_toLex.2 (Or.inl ht))
      have hnumberWithin := hwithin.lt_of_lt i j (Prod.ext he.symm hr.symm) ht
      exact iff_of_false hnumber.not_ge hnumberWithin.not_ge
  have hfalse : ∀ j, entity j = entity i → result j = false →
      (number j ≤ number i ↔ time j ≤ time i) := by
    intro j he hj
    rcases le_or_gt (time j) (time i) with ht | ht
    · refine iff_of_true (h.lt_of_lt j i he ?_).le ht
      rcases ht.lt_or_eq with ht | ht
      · exact Prod.Lex.toLex_lt_toLex.2 (Or.inl ht)
      · exact Prod.Lex.toLex_lt_toLex.2 (Or.inr ⟨ht, by simp [hi, hj]⟩)
    · exact iff_of_false (h.lt_of_lt i j he.symm (Prod.Lex.toLex_lt_toLex.2 (Or.inl ht))).not_ge ht.not_ge
  rw [h.eq_card i, hwithin.eq_card i,
    ← card_filter_add_card_filter_not (s := {j | entity j = entity i ∧ number j ≤ number i})
      (fun j => result j = true), filter_filter, filter_filter]
  congr 2
  · refine filter_congr fun j _ => ?_
    constructor
    · rintro ⟨⟨he, hn⟩, hj⟩
      exact ⟨Prod.ext he (hj.trans hi.symm), (htrue j he hj).1 hn⟩
    · rintro ⟨hkey, hn⟩
      obtain ⟨he, hj⟩ : entity j = entity i ∧ result j = result i := by simpa using hkey
      rw [hi] at hj
      exact ⟨⟨he, (htrue j he hj).2 hn⟩, hj⟩
  · refine filter_congr fun j _ => ?_
    rw [Bool.not_eq_true]
    constructor
    · rintro ⟨⟨he, hn⟩, hj⟩
      exact ⟨he, hj, (hfalse j he hj).1 hn⟩
    · rintro ⟨he, hj, ht⟩
      exact ⟨⟨he, (hfalse j he hj).2 ht⟩, hj⟩

/-- Numbers depend on partitions and orders only by which rows are of one partition and which of them come before
which. -/
theorem IsRowNumber.congr {κ' ω' : Type} [DecidableEq κ'] [LT ω] [LT ω'] {partition : ι → κ}
    {partition' : ι → κ'} {order : ι → ω} {order' : ι → ω'} {number : ι → Nat}
    (h : IsRowNumber partition order number)
    (hpartition : ∀ i j, partition i = partition j ↔ partition' i = partition' j)
    (horder : ∀ i j, order i < order j ↔ order' i < order' j) : IsRowNumber partition' order' number where
  eq_card i := (h.eq_card i).trans (congrArg card (filter_congr fun j _ => and_congr_left' (hpartition j i)))
  injective i j hij := h.injective i j ((hpartition i j).2 hij)
  lt_of_lt i j hij hlt := h.lt_of_lt i j ((hpartition i j).2 hij) ((horder i j).2 hlt)

end RowNumbers

/-! ### First rows -/

section FirstRows

variable {α κ ω : Type} {key : α → κ} {order : α → ω} {rows chosen : List α} {c : α}

/-- What `DISTINCT ON` keeps of rows: of each key one, which comes first in the order. -/
structure IsDistinctOn [LE ω] (key : α → κ) (order : α → ω) (rows chosen : List α) : Prop where
  nodup : (chosen.map key).Nodup
  mem : ∀ c ∈ chosen, c ∈ rows
  least : ∀ c ∈ chosen, ∀ r ∈ rows, key r = key c → order c ≤ order r
  complete : ∀ r ∈ rows, ∃ c ∈ chosen, key c = key r

theorem exists_isDistinctOn [LinearOrder ω] (key : α → κ) (order : α → ω) (rows : List α) :
    ∃ chosen, IsDistinctOn key order rows chosen := by
  classical
  have hfirst : ∀ k ∈ (rows.map key).dedup,
      ∃ c ∈ rows, key c = k ∧ ∀ r ∈ rows, key r = k → order c ≤ order r := by
    intro k hk
    obtain ⟨r, hr, rfl⟩ : ∃ r ∈ rows, key r = k := by simpa using hk
    obtain ⟨c, hc, hleast⟩ :=
      exists_min_image (rows.filter fun r' => key r' = key r).toFinset order ⟨r, by simp [hr]⟩
    obtain ⟨hc, hkey⟩ : c ∈ rows ∧ key c = key r := by simpa using hc
    exact ⟨c, hc, hkey, fun r' hr' hk' => hleast r' (by simp [hr', hk'])⟩
  choose first hmem hkey hleast using hfirst
  have hmap : ((rows.map key).dedup.pmap first fun _ hk => hk).map key = (rows.map key).dedup := by
    rw [List.map_pmap]
    simp only [hkey, List.pmap_eq_map, List.map_id_fun', id]
  refine ⟨(rows.map key).dedup.pmap first fun _ hk => hk, ⟨?_, fun c hc => ?_, fun c hc r hr hrc => ?_,
    fun r hr => ?_⟩⟩
  · rw [hmap]
    exact List.nodup_dedup _
  · obtain ⟨k, hk, rfl⟩ := List.mem_pmap.1 hc
    exact hmem k hk
  · obtain ⟨k, hk, rfl⟩ := List.mem_pmap.1 hc
    exact hleast k hk r hr (hrc.trans (hkey k hk))
  · have hk : key r ∈ (rows.map key).dedup := by simpa using ⟨r, hr, rfl⟩
    exact ⟨first _ hk, List.mem_pmap.2 ⟨_, hk, rfl⟩, hkey _ hk⟩

/-- Where no two rows of a key are level, the rows that come first are determined. -/
theorem IsDistinctOn.mem_iff [PartialOrder ω] (h : IsDistinctOn key order rows chosen)
    (heq : ∀ r ∈ rows, ∀ r' ∈ rows, key r = key r' → order r = order r' → r = r') :
    c ∈ chosen ↔ c ∈ rows ∧ ∀ r ∈ rows, key r = key c → order c ≤ order r := by
  refine ⟨fun hc => ⟨h.mem c hc, h.least c hc⟩, fun ⟨hc, hleast⟩ => ?_⟩
  obtain ⟨c', hc', hkey⟩ := h.complete c hc
  have horder : order c' = order c :=
    le_antisymm (h.least c' hc' c hc hkey.symm) (hleast c' (h.mem c' hc') hkey)
  rwa [heq c hc c' (h.mem c' hc') hkey.symm horder.symm]

/-- Of the rows with the key of a row that comes first, this row is kept and no other. -/
theorem IsDistinctOn.exists_iff [PartialOrder ω] (h : IsDistinctOn key order rows chosen)
    (heq : ∀ r ∈ rows, ∀ r' ∈ rows, key r = key r' → order r = order r' → r = r') (hc : c ∈ rows)
    (hleast : ∀ r ∈ rows, key r = key c → order c ≤ order r) {P : α → Prop} :
    (∃ c' ∈ chosen, key c' = key c ∧ P c') ↔ P c := by
  have hchosen : c ∈ chosen := (h.mem_iff heq).2 ⟨hc, hleast⟩
  constructor
  · rintro ⟨c', hc', hkey, hP⟩
    rwa [← List.inj_on_of_nodup_map h.nodup hc' hchosen hkey]
  · exact fun hP => ⟨c, hchosen, rfl, hP⟩

/-- The rows that come first depend on keys and orders only by which keys are equal and which rows come before
which. -/
theorem IsDistinctOn.congr {κ' ω' : Type} [LE ω] [LE ω'] {key' : α → κ'} {order' : α → ω'}
    (h : IsDistinctOn key order rows chosen) (hkey : ∀ a b, key a = key b ↔ key' a = key' b)
    (horder : ∀ a b, order a ≤ order b ↔ order' a ≤ order' b) : IsDistinctOn key' order' rows chosen where
  nodup := List.pairwise_map.2 ((List.pairwise_map.1 h.nodup).imp fun hne heq => hne ((hkey _ _).2 heq))
  mem := h.mem
  least c hc r hr hrc := (horder c r).1 (h.least c hc r hr ((hkey r c).2 hrc))
  complete r hr := (h.complete r hr).imp fun c ⟨hc, heq⟩ => ⟨hc, (hkey c r).1 heq⟩

end FirstRows

/-! ### Groups -/

section Groups

variable {α β κ : Type} {key : α → κ} {row : κ → β → Prop} {rows rows' : List α} {out out' : List β}

/-- What `GROUP BY` makes of rows: one row for each key, which `row` describes. -/
def IsGroupBy (key : α → κ) (row : κ → β → Prop) (rows : List α) (out : List β) : Prop :=
  ∃ keys : List κ, keys.Nodup ∧ (∀ k, k ∈ keys ↔ ∃ r ∈ rows, key r = k) ∧ List.Forall₂ row keys out

/-- If each key determines its row, then the same keys make the same rows, in some order. -/
theorem perm_of_isGroupBy (hrow : Relator.RightUnique row) (h : IsGroupBy key row rows out)
    (h' : IsGroupBy key row rows' out') (hrows : ∀ r, r ∈ rows ↔ r ∈ rows') : out.Perm out' := by
  obtain ⟨keys, hnodup, hkeys, hout⟩ := h
  obtain ⟨keys', hnodup', hkeys', hout'⟩ := h'
  have hperm : keys.Perm keys' :=
    (List.perm_ext_iff_of_nodup hnodup hnodup').2 fun k => by simp only [hkeys, hkeys', hrows]
  exact List.rel_perm_imp hrow hout hout' hperm

/-- Rows of different keys make groups of their own. -/
theorem IsGroupBy.append (h : IsGroupBy key row rows out) (h' : IsGroupBy key row rows' out')
    (hne : ∀ r ∈ rows, ∀ r' ∈ rows', key r ≠ key r') :
    IsGroupBy key row (rows ++ rows') (out ++ out') := by
  obtain ⟨keys, hnodup, hkeys, hout⟩ := h
  obtain ⟨keys', hnodup', hkeys', hout'⟩ := h'
  refine ⟨keys ++ keys', hnodup.append hnodup' fun k hk hk' => ?_, fun k => ?_,
    List.rel_append hout hout'⟩
  · obtain ⟨r, hr, hrk⟩ := (hkeys k).1 hk
    obtain ⟨r', hr', hrk'⟩ := (hkeys' k).1 hk'
    exact hne r hr r' hr' (hrk.trans hrk'.symm)
  · simp only [List.mem_append, hkeys, hkeys', or_and_right, exists_or]

/-- Groups are the same by keys that are written in another way. -/
theorem isGroupBy_comp_iff {κ' : Type} {f : κ → κ'} (hf : Function.Injective f) {row' : κ' → β → Prop}
    (hrow : ∀ k b, row' (f k) b ↔ row k b) :
    IsGroupBy (f ∘ key) row' rows out ↔ IsGroupBy key row rows out := by
  constructor
  · rintro ⟨keys', hnodup, hkeys, hout⟩
    have hrange : ∀ k' ∈ keys', ∃ k, f k = k' := fun k' hk' => by
      obtain ⟨r, -, hr⟩ := (hkeys k').1 hk'
      exact ⟨key r, hr⟩
    obtain ⟨keys, rfl⟩ : keys' ∈ Set.range (List.map f) := by rwa [Set.range_list_map]
    refine ⟨keys, hnodup.of_map f, fun k => ?_, ?_⟩
    · rw [← List.mem_map_of_injective hf, hkeys]
      simp only [Function.comp_apply, hf.eq_iff]
    · rw [List.forall₂_map_left_iff] at hout
      exact hout.imp fun k b => (hrow k b).1
  · rintro ⟨keys, hnodup, hkeys, hout⟩
    refine ⟨keys.map f, hnodup.map hf, fun k' => ?_, ?_⟩
    · simp only [List.mem_map, hkeys, Function.comp_apply]
      constructor
      · rintro ⟨k, ⟨r, hr, rfl⟩, rfl⟩
        exact ⟨r, hr, rfl⟩
      · rintro ⟨r, hr, rfl⟩
        exact ⟨key r, ⟨r, hr, rfl⟩, rfl⟩
    · rw [List.forall₂_map_left_iff]
      exact hout.imp fun k b => (hrow k b).2

end Groups

end EntityHistory.Sql
