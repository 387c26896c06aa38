/-
Changes of time.

The algebra of intervals compares instants and does nothing else with them, so it goes along with every change
of time that keeps their order. One such change doubles all instants. After it there is an instant strictly
between any two, and what a canonical list covers then tells it apart from all others: before, `[1, 2], [3, 4]`
and `[1, 4]` cover the same instants.

* `EntityInterval.normalize_rescale`, `Plan.intervals_rescale`: normal forms and plans go along;
* `EntityInterval.Canonical.eq_of_covers_doubled`: doubled, canonical lists are told apart by what they cover;
* `EntityInterval.normalize_eq_of_covers_doubled`: so the normal form of a list is the canonical list that
  covers the same.
-/
import Mathlib.Data.List.Pairwise
import Mathlib.Order.Monotone.Basic
import EntityHistory.Proofs.Interval.Plan

namespace EntityHistory

namespace EntityInterval

variable {f : Instant → Instant} {a b : EntityInterval} {as bs is : List EntityInterval}

/-! ### The algebra after a change of time -/

/-- An interval after a change of time. -/
def rescale (f : Instant → Instant) (i : EntityInterval) : EntityInterval :=
  ⟨i.entityId, f i.start, f i.stop⟩

lemma overlaps_rescale (hf : StrictMono f) :
    (a.rescale f).overlaps (b.rescale f) = a.overlaps b := by
  simp only [overlaps, rescale, hf.le_iff_le]

lemma isBefore_rescale (hf : StrictMono f) :
    (a.rescale f).isBefore (b.rescale f) = a.isBefore b := by
  rw [Bool.eq_iff_iff, isBefore_iff, isBefore_iff]
  simp only [rescale, hf.le_iff_le, hf.lt_iff_lt, hf.injective.eq_iff]

lemma precedes_rescale_iff (hf : StrictMono f) : (a.rescale f).Precedes (b.rescale f) ↔ a.Precedes b := by
  simp only [Precedes, rescale, hf.lt_iff_lt]

lemma inter_rescale (hf : StrictMono f) : (a.rescale f).inter (b.rescale f) = (a.inter b).rescale f := by
  simp only [inter, rescale, hf.monotone.map_max, hf.monotone.map_min]

lemma sort_rescale (hf : StrictMono f) : sort (is.map (rescale f)) = (sort is).map (rescale f) :=
  (List.map_mergeSort fun a _ b _ => (isBefore_rescale hf (a := a) (b := b)).symm).symm

lemma common_rescale (hf : StrictMono f) :
    common (a.rescale f) (b.rescale f) = (common a b).map (rescale f) := by
  rw [common, common, overlaps_rescale hf, inter_rescale hf]
  split <;> rfl

lemma endsFirst_rescale_iff (hf : StrictMono f) :
    (a.rescale f).EndsFirst (b.rescale f) ↔ a.EndsFirst b := by
  simp only [EndsFirst, rescale, hf.le_iff_le]

lemma sweep_of_endsFirst (h : a.EndsFirst b) :
    sweep (a :: as) (b :: bs) = common a b ++ sweep as (b :: bs) := by
  rw [sweep, common]
  rcases h with hlt | ⟨heq, hle⟩
  · simp [hlt, hlt.ne, overlaps]
  · simp only [heq, lt_irrefl, if_false, if_true, hle]
    split <;> rfl

lemma sweep_of_not_endsFirst (h : ¬ a.EndsFirst b) :
    sweep (a :: as) (b :: bs) = common a b ++ sweep (a :: as) bs := by
  rw [EndsFirst, not_or, not_and] at h
  rw [sweep, common, if_neg h.1]
  by_cases heq : a.entityId = b.entityId
  · simp only [heq, if_true, h.2 heq, if_false]
    split <;> rfl
  · simp [heq, overlaps]

lemma sweep_rescale (hf : StrictMono f) :
    sweep (as.map (rescale f)) (bs.map (rescale f)) = (sweep as bs).map (rescale f) := by
  induction as generalizing bs with
  | nil => simp [sweep]
  | cons a as ihas =>
    induction bs with
    | nil => simp [sweep]
    | cons b bs ihbs =>
      rw [List.map_cons, List.map_cons] at *
      by_cases h : a.EndsFirst b
      · rw [sweep_of_endsFirst h, sweep_of_endsFirst ((endsFirst_rescale_iff hf).2 h), common_rescale hf,
          List.map_append, ← ihas, List.map_cons]
      · rw [sweep_of_not_endsFirst h, sweep_of_not_endsFirst (h ∘ (endsFirst_rescale_iff hf).1),
          common_rescale hf, List.map_append, ← ihbs]

lemma mergeFrom_rescale (hf : StrictMono f) (current : EntityInterval) :
    mergeFrom (current.rescale f) (is.map (rescale f)) = (mergeFrom current is).map (rescale f) := by
  induction is generalizing current with
  | nil => rfl
  | cons i is ih =>
    have hmerged : ({ current.rescale f with stop := max (current.rescale f).stop (i.rescale f).stop } :
        EntityInterval) = ({ current with stop := max current.stop i.stop } : EntityInterval).rescale f := by
      simp only [rescale, hf.monotone.map_max]
    rw [List.map_cons, mergeFrom, mergeFrom, overlaps_rescale hf, hmerged, ih, ih]
    split <;> rfl

/-- Intersecting goes along with a change of time. -/
lemma intersect_rescale (hf : StrictMono f) :
    intersect (as.map (rescale f)) (bs.map (rescale f)) = (intersect as bs).map (rescale f) := by
  rw [intersect, sort_rescale hf, sort_rescale hf, sweep_rescale hf, intersect]

/-- The normal form goes along with a change of time. -/
lemma normalize_rescale (hf : StrictMono f) :
    normalize (is.map (rescale f)) = (normalize is).map (rescale f) := by
  rw [normalize, sort_rescale hf, normalize]
  cases sort is with
  | nil => rfl
  | cons i rest => exact mergeFrom_rescale hf i

/-- Uniting goes along with a change of time. -/
lemma union_rescale (hf : StrictMono f) :
    union (as.map (rescale f)) (bs.map (rescale f)) = (union as bs).map (rescale f) := by
  rw [union, ← List.map_append, normalize_rescale hf, union]

lemma canonical_rescale (h : Canonical is) (hf : StrictMono f) : Canonical (is.map (rescale f)) where
  start_le_stop := by
    rw [List.forall_mem_map]
    exact fun i hi => hf.monotone (h.start_le_stop i hi)
  pairwise := by
    rw [List.pairwise_map]
    exact h.pairwise.imp (precedes_rescale_iff hf).2

end EntityInterval

namespace Plan

open EntityInterval

variable {f : Instant → Instant} {g : PlanLeaf → List EntityInterval}

lemma intersectIntervals_rescale (hf : StrictMono f) {children : List Plan}
    (h : ∀ c ∈ children, c.intervals (fun l => (g l).map (rescale f)) = (c.intervals g).map (rescale f))
    (is : List EntityInterval) :
    intersectIntervals (fun l => (g l).map (rescale f)) (is.map (rescale f)) children =
      (intersectIntervals g is children).map (rescale f) := by
  induction children generalizing is with
  | nil => rfl
  | cons child children ih =>
    rw [List.forall_mem_cons] at h
    have hstep := ih h.2 (intersect is (child.intervals g))
    by_cases he : is = []
    · simp [intersectIntervals, intersectWith, he]
    · have he' : is.map (EntityInterval.rescale f) ≠ [] := by simpa using he
      simp only [intersectIntervals, intersectWith, he, he', if_false]
      rw [← intersect_rescale hf, ← h.1] at hstep
      exact hstep

lemma uniteIntervals_rescale (hf : StrictMono f) {children : List Plan}
    (h : ∀ c ∈ children, c.intervals (fun l => (g l).map (rescale f)) = (c.intervals g).map (rescale f))
    (is : List EntityInterval) :
    uniteIntervals (fun l => (g l).map (rescale f)) (is.map (rescale f)) children =
      (uniteIntervals g is children).map (rescale f) := by
  induction children generalizing is with
  | nil => rfl
  | cons child children ih =>
    rw [List.forall_mem_cons] at h
    have hstep := ih h.2 (union is (child.intervals g))
    rw [← union_rescale hf, ← h.1] at hstep
    exact hstep

/-- The value of a plan goes along with a change of time. -/
lemma intervals_rescale (hf : StrictMono f) (p : Plan) :
    p.intervals (fun l => (g l).map (rescale f)) = (p.intervals g).map (rescale f) := by
  induction p using Plan.induction with
  | leaf l => rfl
  | all children ih =>
    cases children with
    | nil => rfl
    | cons child children =>
      rw [List.forall_mem_cons] at ih
      have hstep := intersectIntervals_rescale hf ih.2 (child.intervals g)
      rw [← ih.1] at hstep
      exact hstep
  | any children ih => exact uniteIntervals_rescale hf ih []

end Plan

namespace EntityInterval

/-! ### Doubling -/

/-- The change of time that doubles all instants. -/
def double (t : Instant) : Instant := ⟨2 * t.ticks⟩

lemma strictMono_double : StrictMono double := by
  intro s t hst
  rw [Instant.lt_def] at hst ⊢
  simp only [double]
  omega

/-- Intervals after all instants are doubled. -/
def doubled (is : List EntityInterval) : List EntityInterval := is.map (rescale double)

variable {a b : EntityInterval} {as bs is : List EntityInterval} {e : String} {t : Instant}

lemma covers_doubled_iff :
    covers (doubled is) e t = true ↔ ∃ i ∈ is, (i.rescale double).Spans e t := by
  simp only [covers_iff, doubled, List.mem_map, exists_exists_and_eq_and]

lemma spans_double_iff : (a.rescale double).Spans e (double t) ↔ a.Spans e t := by
  simp only [Spans, rescale, strictMono_double.le_iff_le]

/-- The instant that lies between an instant and the next one when both are doubled. -/
def justAfter (t : Instant) : Instant := ⟨2 * t.ticks + 1⟩

lemma spans_justAfter_iff :
    (a.rescale double).Spans e (justAfter t) ↔ a.entityId = e ∧ a.start ≤ t ∧ t < a.stop := by
  simp only [Spans, rescale, double, justAfter, Instant.le_def, Instant.lt_def]
  refine and_congr_right fun _ => and_congr ?_ ?_
  · omega
  · omega

/-- An instant of an entity lies in one interval of a canonical list only. -/
lemma Canonical.eq_of_spans (h : Canonical is) (ha : a ∈ is) (hb : b ∈ is) (hat : a.Spans e t)
    (hbt : b.Spans e t) : a = b := by
  by_contra hne
  have : Std.Symm fun a b : EntityInterval => ∀ e t, a.Spans e t → ¬ b.Spans e t :=
    ⟨fun a b hab e t hb ha => hab e t ha hb⟩
  exact h.apart.forall ha hb hne e t hat hbt

lemma Canonical.spans_start (h : Canonical is) (ha : a ∈ is) : a.Spans a.entityId a.start :=
  ⟨rfl, le_rfl, h.start_le_stop a ha⟩

/-- If canonical intervals cover no more than others do after doubling, each lies in one of the others. -/
lemma Canonical.exists_mem_around (has : Canonical as) (hbs : Canonical bs)
    (h : ∀ e t, covers (doubled as) e t = true → covers (doubled bs) e t = true) (ha : a ∈ as) :
    ∃ b ∈ bs, b.entityId = a.entityId ∧ b.start ≤ a.start ∧ a.stop ≤ b.stop := by
  have hstart : covers (doubled as) a.entityId (double a.start) = true :=
    covers_doubled_iff.2 ⟨a, ha, spans_double_iff.2 (has.spans_start ha)⟩
  obtain ⟨b, hb, hspans⟩ := covers_doubled_iff.1 (h a.entityId (double a.start) hstart)
  obtain ⟨he, hba, hab⟩ := spans_double_iff.1 hspans
  refine ⟨b, hb, he, hba, ?_⟩
  by_contra hstop
  -- just after the end of `b` there is an instant of `a`, which another of `bs` covers from before
  have hgap : covers (doubled as) a.entityId (justAfter b.stop) = true :=
    covers_doubled_iff.2 ⟨a, ha, spans_justAfter_iff.2 ⟨rfl, hab, lt_of_not_ge hstop⟩⟩
  obtain ⟨c, hc, hspans⟩ := covers_doubled_iff.1 (h a.entityId (justAfter b.stop) hgap)
  obtain ⟨hce, hcb, hbc⟩ := spans_justAfter_iff.1 hspans
  have hbstop : b.Spans a.entityId b.stop := ⟨he, hbs.start_le_stop b hb, le_rfl⟩
  obtain rfl : b = c := hbs.eq_of_spans hb hc hbstop ⟨hce, hcb, hbc.le⟩
  exact lt_irrefl b.stop hbc

lemma Canonical.subset_of_covers_doubled (has : Canonical as) (hbs : Canonical bs)
    (h : ∀ e t, covers (doubled as) e t = covers (doubled bs) e t) : as ⊆ bs := by
  intro a ha
  obtain ⟨b, hb, hbe, hba, hab⟩ := has.exists_mem_around hbs (fun e t => by rw [h]; exact id) ha
  obtain ⟨c, hc, hce, hcb, hbc⟩ := hbs.exists_mem_around has (fun e t => by rw [h]; exact id) hb
  have hspans : c.Spans a.entityId a.start :=
    ⟨hce.trans hbe, hcb.trans hba, (has.start_le_stop a ha).trans (hab.trans hbc)⟩
  obtain rfl : a = c := has.eq_of_spans ha hc (has.spans_start ha) hspans
  have hab' : a = b := by
    rcases a with ⟨ae, as, at'⟩
    rcases b with ⟨be, bs, bt⟩
    simp only [EntityInterval.mk.injEq]
    exact ⟨hce, le_antisymm hcb hba, le_antisymm hab hbc⟩
  exact hab' ▸ hb

lemma Precedes.asymm (h : a.Precedes b) (ha : a.start ≤ a.stop) (hb : b.start ≤ b.stop) :
    ¬ b.Precedes a := by
  rcases h with h | ⟨he, h⟩ <;> rintro (h' | ⟨he', h'⟩)
  · exact lt_asymm h h'
  · exact h.ne he'.symm
  · exact h'.ne he.symm
  · exact lt_irrefl a.start (((ha.trans_lt h).trans_le hb).trans h')

lemma Canonical.nodup (h : Canonical is) : is.Nodup := by
  refine h.pairwise.imp_of_mem fun {a b} ha _ hab heq => ?_
  subst heq
  exact hab.not_spans (h.spans_start ha) (h.spans_start ha)

/-- Canonical lists that cover the same after doubling are equal. -/
lemma Canonical.eq_of_covers_doubled (has : Canonical as) (hbs : Canonical bs)
    (h : ∀ e t, covers (doubled as) e t = covers (doubled bs) e t) : as = bs := by
  have hperm : as.Perm bs := (List.perm_ext_iff_of_nodup has.nodup hbs.nodup).2 fun i =>
    ⟨fun hi => has.subset_of_covers_doubled hbs h hi,
      fun hi => hbs.subset_of_covers_doubled has (fun e t => (h e t).symm) hi⟩
  refine hperm.eq_of_pairwise (fun a b ha hb hab hba => ?_) has.pairwise hbs.pairwise
  exact absurd hba (hab.asymm (has.start_le_stop a ha) (hbs.start_le_stop b hb))

/-- A canonical list is the normal form of whatever covers the same after doubling. -/
lemma normalize_eq_of_covers_doubled (hle : ∀ i ∈ is, i.start ≤ i.stop) (has : Canonical as)
    (h : ∀ e t, covers (doubled is) e t = covers (doubled as) e t) : normalize is = as := by
  refine (canonical_normalize hle).eq_of_covers_doubled has fun e t => ?_
  rw [doubled, ← normalize_rescale strictMono_double, Bool.eq_iff_iff, covers_normalize, ← h]
  rfl

end EntityInterval

end EntityHistory
