/-
The algebra of canonical lists of intervals.

Intersection and union are found by quite different means: one walk through both lists, which is only right
when neither list covers an instant of an entity twice, and a sort with a merge, which is right for any
intervals. What they have in common is stated here: both give canonical lists, and what these cover is what
both of the lists, or either of them, cover.

* `EntityInterval.canonical_intersect`, `EntityInterval.covers_intersect`;
* `EntityInterval.canonical_normalize`, `EntityInterval.covers_normalize`;
* `EntityInterval.canonical_union`, `EntityInterval.covers_union`.
-/
import EntityHistory.Proofs.Interval.Canonical

namespace EntityHistory.EntityInterval

variable {a b a' b' i : EntityInterval} {as bs is : List EntityInterval} {e : String} {t : Instant}

/-! ### The common part of two intervals -/

lemma overlaps_iff :
    a.overlaps b = true ↔ a.entityId = b.entityId ∧ a.start ≤ b.stop ∧ b.start ≤ a.stop := by
  simp [overlaps]

lemma spans_inter (h : a.entityId = b.entityId) :
    (a.inter b).Spans e t ↔ a.Spans e t ∧ b.Spans e t := by
  simp only [Spans, inter, max_le_iff, le_min_iff, ← h]
  tauto

lemma start_le_stop_inter (ha : a.start ≤ a.stop) (hb : b.start ≤ b.stop) (h : a.overlaps b = true) :
    (a.inter b).start ≤ (a.inter b).stop := by
  obtain ⟨-, hab, hba⟩ := overlaps_iff.1 h
  exact max_le (le_min ha hab) (le_min hba hb)

lemma inter_precedes_of_left (h : a.Precedes a') : (a.inter b).Precedes (a'.inter b') := by
  rcases h with h | ⟨he, h⟩
  · exact Or.inl h
  · exact Or.inr ⟨he, (min_le_left _ _).trans_lt (h.trans_le (le_max_left _ _))⟩

lemma inter_precedes_of_right (ha : a.entityId = b.entityId) (ha' : a'.entityId = b'.entityId)
    (h : b.Precedes b') : (a.inter b).Precedes (a'.inter b') := by
  rcases h with h | ⟨he, h⟩
  · exact Or.inl (by simpa [inter, ha, ha'] using h)
  · refine Or.inr ⟨ha.trans (he.trans ha'.symm), ?_⟩
    exact (min_le_right _ _).trans_lt (h.trans_le (le_max_right _ _))

/-- What two intervals contribute to the intersection of the lists that they are in. -/
def common (a b : EntityInterval) : List EntityInterval := if a.overlaps b then [a.inter b] else []

lemma mem_common : i ∈ common a b ↔ a.overlaps b = true ∧ i = a.inter b := by
  unfold common
  split <;> simp_all

lemma covers_common : covers (common a b) e t = true ↔ a.Spans e t ∧ b.Spans e t := by
  rw [covers_iff]
  constructor
  · rintro ⟨i, hi, his⟩
    obtain ⟨h, rfl⟩ := mem_common.1 hi
    exact (spans_inter (overlaps_iff.1 h).1).1 his
  · rintro ⟨ha, hb⟩
    have he : a.entityId = b.entityId := ha.1.trans hb.1.symm
    have h : a.overlaps b = true :=
      overlaps_iff.2 ⟨he, ha.2.1.trans hb.2.2, hb.2.1.trans ha.2.2⟩
    exact ⟨a.inter b, mem_common.2 ⟨h, rfl⟩, (spans_inter he).2 ⟨ha, hb⟩⟩

/-! ### The walk through two lists -/

/-- Of two intervals the first is the one that the walk leaves behind. -/
def EndsFirst (a b : EntityInterval) : Prop :=
  a.entityId < b.entityId ∨ a.entityId = b.entityId ∧ a.stop ≤ b.stop

lemma EndsFirst.precedes (h : a.EndsFirst b) (hi : b.Precedes i) : a.Precedes i := by
  rcases h with h | ⟨he, h⟩
  · rcases hi with hi | ⟨hie, -⟩
    · exact Or.inl (h.trans hi)
    · exact Or.inl (hie ▸ h)
  · rcases hi with hi | ⟨hie, hi⟩
    · exact Or.inl (he ▸ hi)
    · exact Or.inr ⟨he.trans hie, h.trans_lt hi⟩

/-- The walk as an induction: at each step the heads contribute their common part, and the one that ends
first is left behind. -/
theorem sweep_induction {motive : List EntityInterval → List EntityInterval → List EntityInterval → Prop}
    (nil_left : ∀ bs, motive [] bs []) (nil_right : ∀ as, motive as [] [])
    (left : ∀ a as b bs, a.EndsFirst b → motive as (b :: bs) (sweep as (b :: bs)) →
      motive (a :: as) (b :: bs) (common a b ++ sweep as (b :: bs)))
    (right : ∀ a as b bs, b.EndsFirst a → motive (a :: as) bs (sweep (a :: as) bs) →
      motive (a :: as) (b :: bs) (common a b ++ sweep (a :: as) bs))
    (as bs : List EntityInterval) : motive as bs (sweep as bs) := by
  fun_induction sweep as bs with
  | case1 bs => exact nil_left bs
  | case2 as => exact nil_right as
  | case3 a as b bs hlt ih =>
    have hne : common a b = [] := by simp [common, overlaps, hlt.ne]
    simpa [hne] using left a as b bs (Or.inl hlt) ih
  | case4 a as b bs _ heq rest h ih₂ ih₁ =>
    have hc : common a b = [a.inter b] := by simp [common, h]
    by_cases hle : a.stop ≤ b.stop
    · simpa [hc, rest, hle] using left a as b bs (Or.inr ⟨heq, hle⟩) ih₂
    · simpa [hc, rest, hle] using right a as b bs (Or.inr ⟨heq.symm, le_of_not_ge hle⟩) ih₁
  | case5 a as b bs _ heq rest h ih₂ ih₁ =>
    have hc : common a b = [] := by simp [common, h]
    by_cases hle : a.stop ≤ b.stop
    · simpa [hc, rest, hle] using left a as b bs (Or.inr ⟨heq, hle⟩) ih₂
    · simpa [hc, rest, hle] using right a as b bs (Or.inr ⟨heq.symm, le_of_not_ge hle⟩) ih₁
  | case6 a as b bs hlt hne ih =>
    have hc : common a b = [] := by simp [common, overlaps, hne]
    have hgt : b.entityId < a.entityId := lt_of_le_of_ne (le_of_not_gt hlt) (Ne.symm hne)
    simpa [hc] using right a as b bs (Or.inl hgt) ih

/-- Each interval of the walk is the common part of one interval of either list. -/
lemma exists_of_mem_sweep (h : i ∈ sweep as bs) :
    ∃ a ∈ as, ∃ b ∈ bs, a.overlaps b = true ∧ i = a.inter b := by
  induction as, bs using sweep_induction with
  | nil_left | nil_right => simp at h
  | left a as b bs _ ih =>
    rcases List.mem_append.1 h with h | h
    · exact ⟨a, by simp, b, by simp, mem_common.1 h⟩
    · obtain ⟨a', ha', hb'⟩ := ih h
      exact ⟨a', List.mem_cons_of_mem a ha', hb'⟩
  | right a as b bs _ ih =>
    rcases List.mem_append.1 h with h | h
    · exact ⟨a, by simp, b, by simp, mem_common.1 h⟩
    · obtain ⟨a', ha', b', hb', hi⟩ := ih h
      exact ⟨a', ha', b', List.mem_cons_of_mem b hb', hi⟩

lemma covers_sweep (ha : Canonical as) (hb : Canonical bs) :
    covers (sweep as bs) e t = true ↔ covers as e t = true ∧ covers bs e t = true := by
  induction as, bs using sweep_induction with
  | nil_left bs => simp
  | nil_right as => simp
  | left a as b bs hab ih =>
    -- `a` ends before all of `bs` start, so leaving it behind loses nothing
    have hna : a.Spans e t → ¬ covers bs e t = true :=
      not_covers_of_precedes fun j hj => hab.precedes ((canonical_cons.1 hb).2.1 j hj)
    rw [covers_append, covers_common, ih ha.tail hb, covers_cons, covers_cons]
    tauto
  | right a as b bs hba ih =>
    have hnb : b.Spans e t → ¬ covers as e t = true :=
      not_covers_of_precedes fun j hj => hba.precedes ((canonical_cons.1 ha).2.1 j hj)
    rw [covers_append, covers_common, ih ha hb.tail, covers_cons, covers_cons]
    tauto

lemma canonical_common_append (ha : a.start ≤ a.stop) (hb : b.start ≤ b.stop) (his : Canonical is)
    (h : a.overlaps b = true → ∀ i ∈ is, (a.inter b).Precedes i) : Canonical (common a b ++ is) := by
  by_cases hab : a.overlaps b = true
  · have hc : common a b ++ is = a.inter b :: is := by simp [common, hab]
    rw [hc, canonical_cons]
    exact ⟨start_le_stop_inter ha hb hab, h hab, his⟩
  · simpa [common, hab] using his

lemma canonical_sweep (ha : Canonical as) (hb : Canonical bs) : Canonical (sweep as bs) := by
  induction as, bs using sweep_induction with
  | nil_left | nil_right => exact canonical_nil
  | left a as b bs hab ih =>
    obtain ⟨hale, hap, has⟩ := canonical_cons.1 ha
    refine canonical_common_append hale (canonical_cons.1 hb).1 (ih has hb) fun _ i hi => ?_
    obtain ⟨a', ha', b', -, -, rfl⟩ := exists_of_mem_sweep hi
    exact inter_precedes_of_left (hap a' ha')
  | right a as b bs hba ih =>
    obtain ⟨hble, hbp, hbs⟩ := canonical_cons.1 hb
    refine canonical_common_append (canonical_cons.1 ha).1 hble (ih ha hbs) fun h i hi => ?_
    obtain ⟨a', -, b', hb', h', rfl⟩ := exists_of_mem_sweep hi
    exact inter_precedes_of_right (overlaps_iff.1 h).1 (overlaps_iff.1 h').1 (hbp b' hb')

/-- The intersection of canonical lists is canonical. -/
lemma canonical_intersect (ha : Canonical as) (hb : Canonical bs) : Canonical (intersect as bs) := by
  rw [intersect, ha.sort_eq, hb.sort_eq]
  exact canonical_sweep ha hb

/-- The intersection of canonical lists covers what both of them cover. -/
lemma covers_intersect (ha : Canonical as) (hb : Canonical bs) :
    covers (intersect as bs) e t = true ↔ covers as e t = true ∧ covers bs e t = true := by
  rw [intersect, ha.sort_eq, hb.sort_eq]
  exact covers_sweep ha hb

/-! ### Merging -/

/-- One interval is of an earlier entity than another, or of the same and starts no later. -/
def StartsFirst (a b : EntityInterval) : Prop :=
  a.entityId < b.entityId ∨ a.entityId = b.entityId ∧ a.start ≤ b.start

lemma startsFirst_of_isBefore (h : a.isBefore b = true) : a.StartsFirst b := by
  rcases isBefore_iff.1 h with h | ⟨he, h | ⟨h, -⟩⟩
  · exact Or.inl h
  · exact Or.inr ⟨he, h.le⟩
  · exact Or.inr ⟨he, h.le⟩

/-- An interval that does not overlap one that starts first comes wholly after it, and so does all that
starts after the interval. -/
lemma precedes_of_not_overlaps (hab : a.StartsFirst b) (hb : b.start ≤ b.stop)
    (h : ¬ a.overlaps b = true) (hbi : b.StartsFirst i) : a.Precedes i := by
  rcases hab with hlt | ⟨he, hs⟩
  · rcases hbi with hbi | ⟨hbe, -⟩
    · exact Or.inl (hlt.trans hbi)
    · exact Or.inl (hbe ▸ hlt)
  · have hend : a.stop < b.start :=
      lt_of_not_ge fun hle => h (overlaps_iff.2 ⟨he, hs.trans hb, hle⟩)
    rcases hbi with hbi | ⟨hbe, hbi⟩
    · exact Or.inl (he ▸ hbi)
    · exact Or.inr ⟨he.trans hbe, hend.trans_le hbi⟩

/-- Merging gives intervals that start where some of the given ones do. -/
lemma startsFirst_of_mem_mergeFrom {current : EntityInterval} (h : ∀ j ∈ current :: is, a.StartsFirst j)
    (hi : i ∈ mergeFrom current is) : a.StartsFirst i := by
  induction is generalizing current with
  | nil =>
    obtain rfl : i = current := by simpa [mergeFrom] using hi
    exact h i (by simp)
  | cons j is ih =>
    rw [mergeFrom] at hi
    split at hi
    · refine ih ?_ hi
      rw [List.forall_mem_cons] at h ⊢
      exact ⟨h.1, fun k hk => h.2 k (List.mem_cons_of_mem j hk)⟩
    · rcases List.mem_cons.1 hi with rfl | hi
      · exact h i (by simp)
      · exact ih (fun k hk => h k (List.mem_cons_of_mem current hk)) hi

lemma startsFirst_refl (a : EntityInterval) : a.StartsFirst a := Or.inr ⟨rfl, le_rfl⟩

lemma canonical_mergeFrom {current : EntityInterval} (hs : (current :: is).Pairwise StartsFirst)
    (hle : ∀ j ∈ current :: is, j.start ≤ j.stop) : Canonical (mergeFrom current is) := by
  induction is generalizing current with
  | nil => exact canonical_cons.2 ⟨hle current (by simp), by simp, canonical_nil⟩
  | cons j is ih =>
    obtain ⟨hc, hjs⟩ := List.pairwise_cons.1 hs
    rw [List.forall_mem_cons] at hle
    rw [mergeFrom]
    split
    case isTrue h =>
      refine ih ?_ ?_
      · exact List.pairwise_cons.2 ⟨fun k hk => hc k (List.mem_cons_of_mem j hk), hjs.of_cons⟩
      · rw [List.forall_mem_cons]
        exact ⟨hle.1.trans (le_max_left _ _), fun k hk => hle.2 k (List.mem_cons_of_mem j hk)⟩
    case isFalse h =>
      refine canonical_cons.2 ⟨hle.1, fun i hi => ?_, ih hjs hle.2⟩
      have hj : ∀ k ∈ j :: is, j.StartsFirst k :=
        List.forall_mem_cons.2 ⟨startsFirst_refl j, (List.pairwise_cons.1 hjs).1⟩
      exact precedes_of_not_overlaps (hc j (by simp)) (hle.2 j (by simp)) h
        (startsFirst_of_mem_mergeFrom hj hi)

/-- Merging an interval into one that starts first and overlaps it loses no instant and adds none. -/
lemma spans_merged (hab : a.StartsFirst b) (h : a.overlaps b = true) :
    ({ a with stop := max a.stop b.stop } : EntityInterval).Spans e t ↔ a.Spans e t ∨ b.Spans e t := by
  obtain ⟨he, -, hba⟩ := overlaps_iff.1 h
  have hs : a.start ≤ b.start := by
    rcases hab with hlt | ⟨-, hs⟩
    · exact absurd he hlt.ne
    · exact hs
  simp only [Spans, le_max_iff, ← he]
  constructor
  · rintro ⟨hae, hat, hta | htb⟩
    · exact Or.inl ⟨hae, hat, hta⟩
    · rcases le_total t a.stop with hta | hta
      · exact Or.inl ⟨hae, hat, hta⟩
      · exact Or.inr ⟨hae, hba.trans hta, htb⟩
  · rintro (⟨hae, hat, hta⟩ | ⟨hae, hbt, htb⟩)
    · exact ⟨hae, hat, Or.inl hta⟩
    · exact ⟨hae, hs.trans hbt, Or.inr htb⟩

lemma covers_mergeFrom {current : EntityInterval} (hs : (current :: is).Pairwise StartsFirst) :
    covers (mergeFrom current is) e t = true ↔ covers (current :: is) e t = true := by
  induction is generalizing current with
  | nil => rw [mergeFrom]
  | cons j is ih =>
    obtain ⟨hc, hjs⟩ := List.pairwise_cons.1 hs
    rw [mergeFrom]
    split
    case isTrue h =>
      have hm : ({ current with stop := max current.stop j.stop } :: is).Pairwise StartsFirst :=
        List.pairwise_cons.2 ⟨fun k hk => hc k (List.mem_cons_of_mem j hk), hjs.of_cons⟩
      rw [ih hm, covers_cons, spans_merged (hc j (by simp)) h, covers_cons, covers_cons, or_assoc]
    case isFalse h => rw [covers_cons, ih hjs, covers_cons (i := current)]

lemma pairwise_startsFirst_sort (is : List EntityInterval) : (sort is).Pairwise StartsFirst :=
  (pairwise_sort is).imp startsFirst_of_isBefore

/-- The normal form of intervals none of which ends before it starts is canonical. -/
lemma canonical_normalize (h : ∀ i ∈ is, i.start ≤ i.stop) : Canonical (normalize is) := by
  have hs := pairwise_startsFirst_sort is
  have hle : ∀ i ∈ sort is, i.start ≤ i.stop := fun i hi => h i (mem_sort.1 hi)
  rw [normalize]
  split
  · exact canonical_nil
  case h_2 i rest hsort =>
    rw [hsort] at hs hle
    exact canonical_mergeFrom hs hle

/-- The normal form of a list of intervals covers what the list covers. -/
lemma covers_normalize : covers (normalize is) e t = true ↔ covers is e t = true := by
  have hs := pairwise_startsFirst_sort is
  rw [← covers_sort is, normalize]
  split
  case h_1 hsort => rw [hsort]
  case h_2 i rest hsort =>
    rw [hsort] at hs ⊢
    exact covers_mergeFrom hs

/-- The union of canonical lists is canonical. -/
lemma canonical_union (ha : Canonical as) (hb : Canonical bs) : Canonical (union as bs) := by
  refine canonical_normalize fun i hi => ?_
  rcases List.mem_append.1 hi with hi | hi
  · exact ha.start_le_stop i hi
  · exact hb.start_le_stop i hi

/-- The union of two lists covers what either of them covers. -/
lemma covers_union :
    covers (union as bs) e t = true ↔ covers as e t = true ∨ covers bs e t = true := by
  rw [union, covers_normalize, covers_append]

end EntityHistory.EntityInterval
