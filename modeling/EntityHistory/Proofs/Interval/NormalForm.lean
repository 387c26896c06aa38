/-
The normal form of intervals.

Sorting and merging keeps nothing of a list of intervals but what it says: the canonical intervals that cover
the same instants, between endpoints that the list has itself. It forgets how the list is ordered, and how
what the list covers is cut into intervals that overlap. Two intervals that do not overlap stay apart even if
there is no instant between them; so what a list covers does not determine its normal form, but what it covers
by intervals that are connected by overlapping does.

* `EntityInterval.hasEndpointsIn_of_mem_normalize`: where the intervals of a normal form start and stop;
* `EntityInterval.covers_doubled_of_isBridgedBy`: intervals that are connected leave no gap, also between instants;
* `EntityInterval.normalize_isNormalForm`: normal forms are canonical, and what they depend on.
-/
import Mathlib.Logic.Relation
import EntityHistory.Proofs.Interval.Rescale

namespace EntityHistory.EntityInterval

variable {a b i j current : EntityInterval} {as bs is js cover rest : List EntityInterval} {e : String}
  {t u : Instant}

/-! ### Endpoints -/

/-- An interval starts where one of its entity in a list starts, and stops where one stops. -/
structure HasEndpointsIn (is : List EntityInterval) (i : EntityInterval) : Prop where
  start : ∃ a ∈ is, a.entityId = i.entityId ∧ a.start = i.start
  stop : ∃ b ∈ is, b.entityId = i.entityId ∧ b.stop = i.stop

lemma hasEndpointsIn_of_mem (h : i ∈ is) : HasEndpointsIn is i := ⟨⟨i, h, rfl, rfl⟩, ⟨i, h, rfl, rfl⟩⟩

/-- Two intervals that overlap merge into one that stops where one of them does. -/
lemma HasEndpointsIn.merged (ha : HasEndpointsIn is a) (hb : HasEndpointsIn is b)
    (h : a.overlaps b = true) : HasEndpointsIn is { a with stop := max a.stop b.stop } := by
  refine ⟨ha.start, ?_⟩
  rcases max_choice a.stop b.stop with hmax | hmax
  · simpa only [hmax] using ha.stop
  · obtain ⟨c, hc, hce, hstop⟩ := hb.stop
    exact ⟨c, hc, hce.trans (overlaps_iff.1 h).1.symm, hstop.trans hmax.symm⟩

lemma hasEndpointsIn_of_mem_mergeFrom (hcurrent : HasEndpointsIn is current)
    (hrest : ∀ j ∈ rest, HasEndpointsIn is j) (hi : i ∈ mergeFrom current rest) : HasEndpointsIn is i := by
  induction rest generalizing current with
  | nil =>
    obtain rfl : i = current := by simpa [mergeFrom] using hi
    exact hcurrent
  | cons j rest ih =>
    obtain ⟨hj, hrest⟩ := List.forall_mem_cons.1 hrest
    rw [mergeFrom] at hi
    split at hi
    case isTrue hoverlaps => exact ih (hcurrent.merged hj hoverlaps) hrest hi
    case isFalse =>
      rcases List.mem_cons.1 hi with rfl | hi
      · exact hcurrent
      · exact ih hj hrest hi

/-- The intervals of a normal form have their endpoints from the list. -/
lemma hasEndpointsIn_of_mem_normalize (hi : i ∈ normalize is) : HasEndpointsIn is i := by
  rw [normalize] at hi
  split at hi
  case h_1 => simp at hi
  case h_2 current rest hsort =>
    have hmem : ∀ j ∈ current :: rest, HasEndpointsIn is j := fun j hj =>
      hasEndpointsIn_of_mem (mem_sort.1 (hsort ▸ hj))
    rw [List.forall_mem_cons] at hmem
    exact hasEndpointsIn_of_mem_mergeFrom hmem.1 hmem.2 hi

/-! ### The order of a list -/

/-- Two intervals each of which comes before the other or is level with it are the same. -/
lemma isBefore_antisymm (h : a.isBefore b = true) (h' : b.isBefore a = true) : a = b := by
  have hkey : a.key = b.key := le_antisymm (isBefore_iff_key_le.1 h) (isBefore_iff_key_le.1 h')
  cases a
  cases b
  simpa [key] using hkey

/-- Sorting forgets the order of a list. -/
lemma sort_eq_of_perm (h : is.Perm js) : sort is = sort js :=
  (((List.mergeSort_perm is isBefore).trans h).trans (List.mergeSort_perm js isBefore).symm).eq_of_pairwise
    (fun _ _ _ _ => isBefore_antisymm) (pairwise_sort is) (pairwise_sort js)

lemma normalize_eq_of_perm (h : is.Perm js) : normalize is = normalize js := by
  rw [normalize, normalize, sort_eq_of_perm h]

/-- A canonical list is its own normal form. -/
lemma Canonical.normalize_eq (h : Canonical is) : normalize is = is :=
  normalize_eq_of_covers_doubled h.start_le_stop h fun _ _ => rfl

/-! ### Connected intervals -/

/-- One of some intervals is reached from an interval by steps each of which goes on to one that overlaps. -/
def Reaches (cover : List EntityInterval) : EntityInterval → EntityInterval → Prop :=
  Relation.ReflTransGen fun a b => b ∈ cover ∧ a.overlaps b = true

/-- Intervals bridge an interval: each of them is reached from each other, and together they cover all of it. -/
structure Bridges (cover : List EntityInterval) (i : EntityInterval) : Prop where
  connected : ∀ a ∈ cover, ∀ b ∈ cover, Reaches cover a b
  covers : ∀ t, i.contains t = true → EntityHistory.covers cover i.entityId t = true

/-- An interval is covered by intervals of a list that are connected by overlapping. -/
def IsBridgedBy (is : List EntityInterval) (i : EntityInterval) : Prop := ∃ cover ⊆ is, Bridges cover i

lemma entityId_eq_of_reaches (h : Reaches cover a b) : a.entityId = b.entityId := by
  induction h with
  | refl => rfl
  | tail _ hstep ih => exact ih.trans (overlaps_iff.1 hstep.2).1

/-- Where no interval goes on over an instant, none that is reached from before it stops behind it. -/
lemma stop_le_of_reaches (hgap : ∀ j ∈ cover, j.start ≤ t → j.stop ≤ t) (ha : a.stop ≤ t)
    (h : Reaches cover a b) : b.stop ≤ t := by
  induction h with
  | refl => exact ha
  | tail _ hstep ih =>
    obtain ⟨hmem, hoverlaps⟩ := hstep
    exact hgap _ hmem ((overlaps_iff.1 hoverlaps).2.2.trans ih)

/-- Every instant is a doubled one or lies just after one. -/
lemma exists_eq_double_or_justAfter (u : Instant) : ∃ t, u = double t ∨ u = justAfter t := by
  have hparity : u.ticks = 2 * (u.ticks / 2) ∨ u.ticks = 2 * (u.ticks / 2) + 1 := by omega
  exact ⟨⟨u.ticks / 2⟩, hparity.imp Instant.ext_ticks Instant.ext_ticks⟩

/-- Connected intervals that cover an interval cover it between instants as well. -/
lemma covers_doubled_of_isBridgedBy (h : IsBridgedBy is i) (hi : (i.rescale double).Spans e u) :
    covers (doubled is) e u = true := by
  obtain ⟨cover, hsubset, hbridges⟩ := h
  have hcovered : ∀ t, i.start ≤ t → t ≤ i.stop → ∃ j ∈ cover, j.Spans i.entityId t := fun t hst hts =>
    covers_iff.1 (hbridges.covers t (by simp [contains, hst, hts]))
  rw [covers_doubled_iff]
  obtain ⟨t, rfl | rfl⟩ := exists_eq_double_or_justAfter u
  · obtain ⟨rfl, hst, hts⟩ := spans_double_iff.1 hi
    obtain ⟨j, hj, hspans⟩ := hcovered t hst hts
    exact ⟨j, hsubset hj, spans_double_iff.2 hspans⟩
  · obtain ⟨rfl, hst, hts⟩ := spans_justAfter_iff.1 hi
    obtain ⟨a, ha, hae, hat, -⟩ := hcovered t hst hts.le
    -- the next instant
    have hnext : (⟨t.ticks + 1⟩ : Instant) ≤ i.stop := by
      rw [Instant.lt_def] at hts
      rw [Instant.le_def]
      exact hts
    have hlt : t < (⟨t.ticks + 1⟩ : Instant) := Instant.lt_def.2 (Int.lt_succ t.ticks)
    obtain ⟨b, hb, -, -, hbt⟩ := hcovered ⟨t.ticks + 1⟩ (hst.trans hlt.le) hnext
    -- on the way from the one to the other some interval goes on over the instant
    by_contra hnone
    have hgap : ∀ j ∈ cover, j.start ≤ t → j.stop ≤ t := by
      intro j hj hjt
      have hje : j.entityId = i.entityId :=
        (entityId_eq_of_reaches (hbridges.connected a ha j hj)).symm.trans hae
      by_contra hjs
      exact hnone ⟨j, hsubset hj, spans_justAfter_iff.2 ⟨hje, hjt, lt_of_not_ge hjs⟩⟩
    have hbs := stop_le_of_reaches hgap (hgap a ha hat) (hbridges.connected a ha b hb)
    exact absurd (hlt.trans_le (hbt.trans hbs)) (lt_irrefl t)

/-- If each interval of two lists is bridged by intervals of the other, then both have one normal form. -/
lemma normalize_eq_of_isBridgedBy (his : ∀ i ∈ is, i.start ≤ i.stop) (hjs : ∀ j ∈ js, j.start ≤ j.stop)
    (h : ∀ i ∈ is, IsBridgedBy js i) (h' : ∀ j ∈ js, IsBridgedBy is j) : normalize is = normalize js := by
  refine normalize_eq_of_covers_doubled his (canonical_normalize hjs) fun e u => ?_
  rw [doubled, doubled, ← normalize_rescale strictMono_double, Bool.eq_iff_iff, covers_normalize]
  constructor
  · intro hcovers
    obtain ⟨i, hi, hspans⟩ := covers_doubled_iff.1 hcovers
    exact covers_doubled_of_isBridgedBy (h i hi) hspans
  · intro hcovers
    obtain ⟨j, hj, hspans⟩ := covers_doubled_iff.1 hcovers
    exact covers_doubled_of_isBridgedBy (h' j hj) hspans

/-! ### What is merged is connected -/

lemma Reaches.mono (h : as ⊆ bs) (hreaches : Reaches as a b) : Reaches bs a b :=
  Relation.ReflTransGen.mono (fun _ _ hstep => ⟨h hstep.1, hstep.2⟩) _ _ hreaches

/-- Two bridges with intervals that overlap are connected to each other. -/
lemma connected_append (ha : Bridges as i) (hb : Bridges bs j) {x y : EntityInterval} (hx : x ∈ as) (hy : y ∈ bs)
    (h : x.overlaps y = true) : ∀ a ∈ as ++ bs, ∀ b ∈ as ++ bs, Reaches (as ++ bs) a b := by
  have hleft : as ⊆ as ++ bs := List.subset_append_left as bs
  have hright : bs ⊆ as ++ bs := List.subset_append_right as bs
  intro a hmem b hmem'
  rcases List.mem_append.1 hmem with hmem | hmem <;> rcases List.mem_append.1 hmem' with hmem' | hmem'
  · exact (ha.connected a hmem b hmem').mono hleft
  · exact (((ha.connected a hmem x hx).mono hleft).tail ⟨hright hy, h⟩).trans
      ((hb.connected y hy b hmem').mono hright)
  · have h' : y.overlaps x = true :=
      overlaps_iff.2 ⟨(overlaps_iff.1 h).1.symm, (overlaps_iff.1 h).2.2, (overlaps_iff.1 h).2.1⟩
    exact (((hb.connected a hmem y hy).mono hright).tail ⟨hleft hx, h'⟩).trans
      ((ha.connected x hx b hmem').mono hleft)
  · exact (hb.connected a hmem b hmem').mono hright

/-- Two intervals that overlap and are bridged merge into one that is bridged. -/
lemma IsBridgedBy.merged (ha : IsBridgedBy is a) (hb : IsBridgedBy is b) (hstarts : a.StartsFirst b)
    (hle : b.start ≤ b.stop) (h : a.overlaps b = true) :
    IsBridgedBy is { a with stop := max a.stop b.stop } := by
  obtain ⟨as, has, hbridgesa⟩ := ha
  obtain ⟨bs, hbs, hbridgesb⟩ := hb
  obtain ⟨he, -, hba⟩ := overlaps_iff.1 h
  have hab : a.start ≤ b.start := by
    rcases hstarts with hlt | ⟨-, hs⟩
    · exact absurd he hlt.ne
    · exact hs
  -- the bridges meet where the second interval starts
  obtain ⟨x, hx, hxe, hxs, hxt⟩ := covers_iff.1 (hbridgesa.covers b.start (by simp [contains, hab, hba]))
  obtain ⟨y, hy, hye, hys, hyt⟩ := covers_iff.1 (hbridgesb.covers b.start (by simp [contains, hle]))
  have hxy : x.overlaps y = true :=
    overlaps_iff.2 ⟨hxe.trans (he.trans hye.symm), hxs.trans hyt, hys.trans hxt⟩
  refine ⟨as ++ bs, List.append_subset.2 ⟨has, hbs⟩, connected_append hbridgesa hbridgesb hx hy hxy,
    fun t ht => ?_⟩
  have hspans : ({ a with stop := max a.stop b.stop } : EntityInterval).Spans a.entityId t :=
    ⟨rfl, by simpa [contains] using ht⟩
  rw [covers_append]
  rcases (spans_merged hstarts h).1 hspans with ⟨-, hst, hts⟩ | ⟨hbe, hst, hts⟩
  · exact Or.inl (hbridgesa.covers t (by simp [contains, hst, hts]))
  · exact Or.inr (hbe ▸ hbridgesb.covers t (by simp [contains, hst, hts]))

lemma isBridgedBy_of_mem (h : i ∈ is) : IsBridgedBy is i := by
  refine ⟨[i], by simpa using h, ?_, fun t ht => ?_⟩
  · simp only [List.mem_singleton]
    rintro a rfl b rfl
    exact .refl
  · exact covers_iff.2 ⟨i, List.mem_singleton_self i, rfl, by simpa [contains] using ht⟩

lemma isBridgedBy_of_mem_mergeFrom (hsorted : (current :: rest).Pairwise StartsFirst)
    (hle : ∀ j ∈ rest, j.start ≤ j.stop) (hcurrent : IsBridgedBy is current)
    (hrest : ∀ j ∈ rest, IsBridgedBy is j) (hi : i ∈ mergeFrom current rest) : IsBridgedBy is i := by
  induction rest generalizing current with
  | nil =>
    obtain rfl : i = current := by simpa [mergeFrom] using hi
    exact hcurrent
  | cons j rest ih =>
    obtain ⟨hj, hrest⟩ := List.forall_mem_cons.1 hrest
    obtain ⟨hlej, hle⟩ := List.forall_mem_cons.1 hle
    obtain ⟨hfirst, hsorted⟩ := List.pairwise_cons.1 hsorted
    rw [mergeFrom] at hi
    split at hi
    case isTrue hoverlaps =>
      have hstarts : ({ current with stop := max current.stop j.stop } :: rest).Pairwise StartsFirst :=
        List.pairwise_cons.2 ⟨fun k hk => hfirst k (List.mem_cons_of_mem j hk), hsorted.of_cons⟩
      exact ih hstarts hle (hcurrent.merged hj (hfirst j List.mem_cons_self) hlej hoverlaps) hrest hi
    case isFalse =>
      rcases List.mem_cons.1 hi with rfl | hi
      · exact hcurrent
      · exact ih hsorted hle hj hrest hi

/-- The intervals of a normal form are bridged by those of the list. -/
lemma isBridgedBy_of_mem_normalize (h : ∀ i ∈ is, i.start ≤ i.stop) (hi : i ∈ normalize is) :
    IsBridgedBy is i := by
  rw [normalize] at hi
  split at hi
  case h_1 => simp at hi
  case h_2 current rest hsort =>
    have hmem : ∀ j ∈ current :: rest, j ∈ is := fun j hj => mem_sort.1 (hsort ▸ hj)
    rw [List.forall_mem_cons] at hmem
    exact isBridgedBy_of_mem_mergeFrom (hsort ▸ pairwise_startsFirst_sort is) (fun j hj => h j (hmem.2 j hj))
      (isBridgedBy_of_mem hmem.1) (fun j hj => isBridgedBy_of_mem (hmem.2 j hj)) hi

/-- Each interval of a list lies in one of its normal form. -/
lemma exists_mem_normalize_around (h : ∀ i ∈ is, i.start ≤ i.stop) (hi : i ∈ is) :
    ∃ n ∈ normalize is, n.entityId = i.entityId ∧ n.start ≤ i.start ∧ i.stop ≤ n.stop := by
  have hone : Canonical [i] := canonical_cons.2 ⟨h i hi, by simp, canonical_nil⟩
  refine hone.exists_mem_around (canonical_normalize h) (fun e u hcovers => ?_) (List.mem_singleton_self i)
  obtain ⟨j, hj, hspans⟩ := covers_doubled_iff.1 hcovers
  obtain rfl := List.mem_singleton.1 hj
  rw [doubled, ← normalize_rescale strictMono_double, covers_normalize]
  exact covers_doubled_iff.2 ⟨j, hi, hspans⟩

/-- What bridges an interval bridges the intervals in it. -/
lemma IsBridgedBy.of_around (h : IsBridgedBy is a) (he : a.entityId = i.entityId) (hstart : a.start ≤ i.start)
    (hstop : i.stop ≤ a.stop) : IsBridgedBy is i := by
  obtain ⟨cover, hsubset, hbridges⟩ := h
  refine ⟨cover, hsubset, hbridges.connected, fun t ht => ?_⟩
  simp only [contains, decide_eq_true_eq] at ht
  rw [← he]
  exact hbridges.covers t (by simp [contains, hstart.trans ht.1, ht.2.trans hstop])

/-- Lists with one normal form bridge each other's intervals. -/
lemma isBridgedBy_of_normalize_eq (his : ∀ i ∈ is, i.start ≤ i.stop) (hjs : ∀ j ∈ js, j.start ≤ j.stop)
    (h : normalize is = normalize js) (hi : i ∈ is) : IsBridgedBy js i := by
  obtain ⟨n, hn, he, hstart, hstop⟩ := exists_mem_normalize_around his hi
  exact (isBridgedBy_of_mem_normalize hjs (h ▸ hn)).of_around he hstart hstop

/-! ### The normal form -/

/-- Canonical intervals that say what a list says, with no other endpoints. -/
structure IsNormalForm (is ns : List EntityInterval) : Prop where
  canonical : Canonical ns
  covers_eq : ∀ e t, covers ns e t = covers is e t
  hasEndpointsIn : ∀ i ∈ ns, HasEndpointsIn is i

/-- Normalizing intervals none of which stops before it starts gives their normal form. It does not depend on
the order of the intervals, leaves normal forms as they are, and is the same for two lists just when each
interval of either is bridged by intervals of the other. -/
theorem normalize_isNormalForm (is : List EntityInterval) (h : ∀ i ∈ is, i.start ≤ i.stop) :
    IsNormalForm is (normalize is) ∧
      (∀ js, is.Perm js → normalize js = normalize is) ∧
      normalize (normalize is) = normalize is ∧
      ∀ js, (∀ j ∈ js, j.start ≤ j.stop) →
        (normalize is = normalize js ↔ (∀ i ∈ is, IsBridgedBy js i) ∧ ∀ j ∈ js, IsBridgedBy is j) := by
  have hcanonical := canonical_normalize h
  refine ⟨⟨hcanonical, fun e t => ?_, fun i => hasEndpointsIn_of_mem_normalize⟩, fun js hperm => ?_,
    hcanonical.normalize_eq, fun js hjs => ⟨fun heq => ?_, fun hbridged => ?_⟩⟩
  · rw [Bool.eq_iff_iff]
    exact covers_normalize
  · exact (normalize_eq_of_perm hperm).symm
  · exact ⟨fun i => isBridgedBy_of_normalize_eq h hjs heq, fun j => isBridgedBy_of_normalize_eq hjs h heq.symm⟩
  · exact normalize_eq_of_isBridgedBy h hjs hbridged.1 hbridged.2

theorem normalize_isNormalForm_touching :
    let is : List EntityInterval := [⟨"e", ⟨5⟩, ⟨6⟩⟩, ⟨"e", ⟨2⟩, ⟨4⟩⟩, ⟨"d", ⟨3⟩, ⟨3⟩⟩, ⟨"e", ⟨1⟩, ⟨2⟩⟩]
    let js : List EntityInterval := [⟨"d", ⟨3⟩, ⟨3⟩⟩, ⟨"e", ⟨1⟩, ⟨4⟩⟩, ⟨"e", ⟨5⟩, ⟨6⟩⟩]
    (∀ i ∈ is, i.start ≤ i.stop) ∧ (∀ j ∈ js, j.start ≤ j.stop) ∧
      IsNormalForm is (normalize is) ∧ (∀ i ∈ is, IsBridgedBy js i) ∧ ∀ j ∈ js, IsBridgedBy is j := by
  intro is js
  have his : ∀ i ∈ is, i.start ≤ i.stop := by decide
  have hjs : ∀ j ∈ js, j.start ≤ j.stop := by decide
  have hsorted : sort is = [⟨"d", ⟨3⟩, ⟨3⟩⟩, ⟨"e", ⟨1⟩, ⟨2⟩⟩, ⟨"e", ⟨2⟩, ⟨4⟩⟩, ⟨"e", ⟨5⟩, ⟨6⟩⟩] :=
    (sort_eq_of_perm (by decide)).trans (List.mergeSort_of_pairwise (by decide))
  have hnormal : normalize is = normalize js := by
    rw [normalize, hsorted, Canonical.normalize_eq (by decide)]
    decide
  obtain ⟨hform, -, -, hsame⟩ := normalize_isNormalForm is his
  exact ⟨his, hjs, hform, (hsame js hjs).1 hnormal⟩

end EntityHistory.EntityInterval
