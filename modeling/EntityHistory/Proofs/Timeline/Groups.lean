/-
Stretches of a timeline as groups.

A stretch of true points is broken off by a false point of its entity. Counting the false points until a true
one thus tells the stretches of an entity apart: two true points lie in the same stretch just when their
counts are the same. The intervals that a timeline collapses to are the groups of its true points by entity
and count, each from its earliest point to its latest.

* `TimelinePoint.pairwise_stretches`: true points of different stretches differ in entity or count;
* `TimelinePoint.isGroupBy_collapse`: a timeline collapses to the groups.
-/
import EntityHistory.Proofs.Sql.Windows
import EntityHistory.Proofs.Timeline.Collapse

namespace EntityHistory.TimelinePoint

open Sql (IsGroupBy)

/-- The number of false points of the entity of a point until its time. -/
def falsesUntil (points : List TimelinePoint) (p : TimelinePoint) : Nat :=
  points.countP fun x => x.entityId = p.entityId && !x.result && x.time ≤ p.time

/-- What groups are told apart by: the entity, the result, and a number. -/
def groupKey (r : TimelinePoint × Int) : String × Bool × Int := (r.1.entityId, r.1.result, r.2)

/-- The interval of a group of numbered points: of its entity, from the earliest point to the latest. -/
structure IsGroupRow (rows : List (TimelinePoint × Int)) (k : String × Bool × Int) (i : EntityInterval) :
    Prop where
  entityId_eq : i.entityId = k.1
  isLeast : IsLeast {t | ∃ r ∈ rows, groupKey r = k ∧ r.1.time = t} i.start
  isGreatest : IsGreatest {t | ∃ r ∈ rows, groupKey r = k ∧ r.1.time = t} i.stop

/-- The true ones of some points, each with the number of false points until it. -/
def countedTrues (points l : List TimelinePoint) : List (TimelinePoint × Int) :=
  (l.filter (·.result)).map fun p => (p, falsesUntil points p)

variable {points l block : List TimelinePoint} {blocks : List (List TimelinePoint)} {p q x : TimelinePoint}
  {i : EntityInterval} {r : TimelinePoint × Int}

lemma rightUnique_isGroupRow (rows : List (TimelinePoint × Int)) : Relator.RightUnique (IsGroupRow rows) := by
  intro k i j hi hj
  obtain ⟨ie, is, it⟩ := i
  obtain ⟨je, js, jt⟩ := j
  obtain rfl : is = js := hi.isLeast.unique hj.isLeast
  obtain rfl : it = jt := hi.isGreatest.unique hj.isGreatest
  obtain rfl : ie = je := hi.entityId_eq.trans hj.entityId_eq.symm
  rfl

lemma isGroupRow_congr {rows rows' : List (TimelinePoint × Int)} (h : ∀ r, r ∈ rows ↔ r ∈ rows') :
    IsGroupRow rows = IsGroupRow rows' := by
  funext k i
  have htimes : {t | ∃ r ∈ rows, groupKey r = k ∧ r.1.time = t} =
      {t | ∃ r ∈ rows', groupKey r = k ∧ r.1.time = t} := by simp only [h]
  exact propext ⟨fun hi => ⟨hi.1, htimes ▸ hi.2, htimes ▸ hi.3⟩, fun hi => ⟨hi.1, htimes ▸ hi.2, htimes ▸ hi.3⟩⟩

lemma mem_countedTrues :
    r ∈ countedTrues points l ↔ r.1 ∈ l ∧ r.1.result = true ∧ r.2 = falsesUntil points r.1 := by
  simp only [countedTrues, List.mem_map, List.mem_filter]
  constructor
  · rintro ⟨p, ⟨hp, hresult⟩, rfl⟩
    exact ⟨hp, hresult, rfl⟩
  · rintro ⟨hp, hresult, hcount⟩
    exact ⟨r.1, ⟨hp, hresult⟩, Prod.ext rfl hcount.symm⟩

lemma countedTrues_append (l l' : List TimelinePoint) :
    countedTrues points (l ++ l') = countedTrues points l ++ countedTrues points l' := by
  rw [countedTrues, List.filter_append, List.map_append]
  rfl

/-! ### Counting false points -/

/-- If one condition implies another, as many elements satisfy both just when they are the same. -/
lemma countP_eq_countP_iff {α : Type} {P Q : α → Bool} {l : List α} (h : ∀ a ∈ l, P a = true → Q a = true) :
    l.countP P = l.countP Q ↔ ∀ a ∈ l, Q a = true → P a = true := by
  refine ⟨fun heq a ha hQ => ?_, fun h' => List.countP_congr fun a ha => ⟨h a ha, h' a ha⟩⟩
  have hfilter : (l.filter Q).filter P = l.filter P := by
    rw [List.filter_filter]
    refine List.filter_congr fun b hb => ?_
    cases hP : P b with
    | false => rfl
    | true => rw [h b hb hP]; rfl
  have hsame : (l.filter Q).filter P = l.filter Q := by
    refine List.filter_sublist.eq_of_length ?_
    rw [hfilter, ← List.countP_eq_length_filter, ← List.countP_eq_length_filter, heq]
  have hmem : a ∈ (l.filter Q).filter P := by
    rw [hsame]
    exact List.mem_filter.2 ⟨ha, hQ⟩
  exact (List.mem_filter.1 hmem).2

/-- The count stays the same just when there is no false point in between. -/
lemma falsesUntil_eq_iff (he : p.entityId = q.entityId) (ht : p.time ≤ q.time) :
    falsesUntil points p = falsesUntil points q ↔
      ∀ x ∈ points, x.entityId = p.entityId → x.result = false → x.time ≤ q.time → x.time ≤ p.time := by
  have himp : ∀ x ∈ points, (x.entityId = p.entityId && !x.result && x.time ≤ p.time) = true →
      (x.entityId = q.entityId && !x.result && x.time ≤ q.time) = true := by
    intro x _ hx
    simp only [Bool.and_eq_true, decide_eq_true_eq, Bool.not_eq_true'] at hx ⊢
    exact ⟨⟨hx.1.1.trans he, hx.1.2⟩, hx.2.trans ht⟩
  rw [falsesUntil, falsesUntil, countP_eq_countP_iff himp]
  simp only [Bool.and_eq_true, decide_eq_true_eq, Bool.not_eq_true', ← he]
  constructor
  · exact fun h x hx hxe hxr hxt => (h x hx ⟨⟨hxe, hxr⟩, hxt⟩).2
  · exact fun h x hx ⟨⟨hxe, hxr⟩, hxt⟩ => ⟨⟨hxe, hxr⟩, h x hx hxe hxr hxt⟩

/-! ### Counts and stretches -/

lemma entityId_le_of_isBefore (h : p.isBefore q = true) : p.entityId ≤ q.entityId :=
  (Prod.Lex.toLex_le_toLex.1 (isBefore_iff_key_le.1 h)).elim le_of_lt fun h => h.1.le

/-- A point between two points of one entity is of this entity. -/
lemma entityId_eq_of_isBefore (hpx : p.isBefore x = true) (hxq : x.isBefore q = true)
    (he : p.entityId = q.entityId) : x.entityId = p.entityId :=
  le_antisymm ((entityId_le_of_isBefore hxq).trans he.ge) (entityId_le_of_isBefore hpx)

/-- Between a true point and another with the same count there are only true points. -/
lemma result_of_isBefore (hx : x ∈ points) (hp : p.result = true) (hpx : p.isBefore x = true)
    (hxq : x.isBefore q = true) (he : p.entityId = q.entityId)
    (hcount : falsesUntil points p = falsesUntil points q) : x.result = true := by
  have hxe := entityId_eq_of_isBefore hpx hxq he
  by_contra hfalse
  have hxq' : x.time ≤ q.time := time_le_of_isBefore hxq (hxe.trans he)
  have hpq : p.time ≤ q.time := (time_le_of_isBefore hpx hxe.symm).trans hxq'
  have hxp : x.time ≤ p.time :=
    (falsesUntil_eq_iff he hpq).1 hcount x hx hxe (by simpa using hfalse) hxq'
  rcases (isBefore_iff_of_eq hxe.symm).1 hpx with hlt | ⟨-, himp⟩
  · exact hlt.not_ge hxp
  · exact hfalse (himp hp)

/-- The true points of two stretches differ in entity or count. -/
def Parted (points block block' : List TimelinePoint) : Prop :=
  ∀ p ∈ block, ∀ q ∈ block', p.result = true → q.result = true → p.entityId = q.entityId →
    falsesUntil points p ≠ falsesUntil points q

/-- The last point of a stretch and the first of the next lie between any two points of theirs, and do not
belong together. -/
lemma pairwise_parted (hmem : ∀ p ∈ blocks.flatten, p ∈ points)
    (hsorted : blocks.flatten.Pairwise fun p q => p.isBefore q = true)
    (hchain : blocks.IsChain fun b b' => ∃ hb hb', joins (b.getLast hb) (b'.head hb') = false) :
    blocks.Pairwise (Parted points) := by
  induction blocks with
  | nil => exact List.Pairwise.nil
  | cons block blocks ih =>
    rw [List.flatten_cons] at hmem hsorted
    obtain ⟨hblock, hblocks, hcross⟩ := List.pairwise_append.1 hsorted
    refine List.pairwise_cons.2 ⟨fun block' hblock' p hp q hq hpr hqr he hcount => ?_,
      ih (fun p hp => hmem p (List.mem_append_right _ hp)) hblocks hchain.tail⟩
    have hqmem : q ∈ blocks.flatten := List.mem_flatten.2 ⟨block', hblock', hq⟩
    obtain ⟨next, rest, rfl⟩ := List.exists_cons_of_ne_nil (List.ne_nil_of_mem hblock')
    obtain ⟨hb, hn, hnot⟩ := (List.isChain_cons_cons.1 hchain).1
    have hlast : block.getLast hb ∈ block := List.getLast_mem hb
    have hfirst : next.head hn ∈ (next :: rest).flatten :=
      List.mem_flatten.2 ⟨next, by simp, List.head_mem hn⟩
    have hplast : p.isBefore (block.getLast hb) = true :=
      isBefore_getLast hblock (List.getLast?_eq_some_getLast hb) hp
    have hlastq : (block.getLast hb).isBefore q = true := hcross _ hlast q hqmem
    have hpfirst : p.isBefore (next.head hn) = true := hcross p hp _ hfirst
    have hfirstq : (next.head hn).isBefore q = true := by
      obtain ⟨first, others, rfl⟩ := List.exists_cons_of_ne_nil hn
      rw [List.flatten_cons, List.cons_append] at hblocks hqmem
      rcases List.mem_cons.1 hqmem with rfl | hqmem
      · exact isBefore_refl q
      · exact (List.pairwise_cons.1 hblocks).1 q hqmem
    have hlastr := result_of_isBefore (hmem _ (List.mem_append_left _ hlast)) hpr hplast hlastq he hcount
    have hfirstr := result_of_isBefore (hmem _ (List.mem_append_right _ hfirst)) hpr hpfirst hfirstq he hcount
    have hentity : (block.getLast hb).entityId = (next.head hn).entityId :=
      (entityId_eq_of_isBefore hplast hlastq he).trans (entityId_eq_of_isBefore hpfirst hfirstq he).symm
    rw [joins, hlastr, hfirstr, hentity] at hnot
    simp at hnot

/-- True points of different stretches of a timeline differ in entity or count. -/
theorem pairwise_stretches (points : List TimelinePoint) :
    ((sort points).splitBy joins).Pairwise (Parted points) := by
  refine pairwise_parted (fun p hp => ?_) ?_ (List.isChain_getLast_head_splitBy joins _)
  · rw [List.flatten_splitBy] at hp
    exact mem_sort.1 hp
  · rw [List.flatten_splitBy]
    exact pairwise_sort points

/-- The points of a stretch have the same count. -/
lemma falsesUntil_eq_of_mem (hblock : block ∈ (sort points).splitBy joins) (hspan : span block = some i)
    (hp : p ∈ block) (hq : q ∈ block) : falsesUntil points p = falsesUntil points q := by
  have hsorted := pairwise_of_mem_splitBy (pairwise_sort points) hblock
  obtain ⟨hall, -⟩ := exists_ends_of_span hsorted (List.isChain_of_mem_splitBy hblock) hspan
  obtain ⟨before, after, hcut⟩ := List.append_of_mem hblock
  have hpoints : sort points = before.flatten ++ (block ++ after.flatten) := by
    rw [← List.flatten_cons, ← List.flatten_append, ← hcut, List.flatten_splitBy]
  have hpairs := pairwise_sort points
  rw [hpoints, List.pairwise_append, List.pairwise_append] at hpairs
  obtain ⟨-, ⟨-, -, hafter⟩, hbefore⟩ := hpairs
  have hle : ∀ a ∈ block, ∀ b ∈ block, a.time ≤ b.time → falsesUntil points a = falsesUntil points b := by
    intro a ha b hb hab
    have he : a.entityId = b.entityId := (hall a ha).2.trans (hall b hb).2.symm
    refine (falsesUntil_eq_iff he hab).2 fun x hx hxe hxr hxt => ?_
    rw [← mem_sort, hpoints] at hx
    rcases List.mem_append.1 hx with hx | hx
    · exact time_le_of_isBefore (hbefore x hx a (by simp [ha])) hxe
    · rcases List.mem_append.1 hx with hx | hx
      · rw [(hall x hx).1] at hxr
        exact absurd hxr (by simp)
      · -- a false point of the same entity that comes after a true one is later
        rcases (isBefore_iff_of_eq (he.symm.trans hxe.symm)).1 (hafter b hb x hx) with hlt | ⟨-, himp⟩
        · exact absurd hxt hlt.not_ge
        · rw [himp (hall b hb).1] at hxr
          exact absurd hxr (by simp)
  rcases le_total p.time q.time with ht | ht
  · exact hle p hp q hq ht
  · exact (hle q hq p hp ht).symm

/-! ### The groups of a timeline -/

lemma result_eq_false_of_span_eq_none (hchain : block.IsChain fun p q => joins p q = true)
    (hspan : span block = none) (hp : p ∈ block) : p.result = false := by
  cases block with
  | nil => simp at hp
  | cons first rest =>
    have hfirst : first.result = false := by
      by_contra h
      simp [span, h] at hspan
    rcases List.mem_cons.1 hp with rfl | hp
    · exact hfirst
    · rw [(isChain_joins hchain hp).1] at hfirst
      exact absurd hfirst (by simp)

instance : Std.Symm (Parted points) :=
  ⟨fun _ _ h p hp q hq hpr hqr he hcount => h q hq p hp hqr hpr he.symm hcount.symm⟩

/-- A true point with the entity and the count of a point of a stretch lies in this stretch. -/
lemma mem_stretch (hblock : block ∈ (sort points).splitBy joins) (hp : p ∈ block) (hpr : p.result = true)
    (hq : q ∈ points) (hqr : q.result = true) (he : p.entityId = q.entityId)
    (hcount : falsesUntil points p = falsesUntil points q) : q ∈ block := by
  rw [← mem_sort, ← List.flatten_splitBy joins (sort points)] at hq
  obtain ⟨block', hblock', hqb⟩ := List.mem_flatten.1 hq
  by_contra hnot
  have hne : block ≠ block' := by
    rintro rfl
    exact hnot hqb
  exact (pairwise_stretches points).forall hblock hblock' hne p hp q hqb hpr hqr he hcount

/-- A stretch is one group, if its points are true, and no group otherwise. -/
lemma isGroupBy_stretch (hblock : block ∈ (sort points).splitBy joins) :
    IsGroupBy groupKey (IsGroupRow (countedTrues points points)) (countedTrues points block)
      (span block).toList := by
  have hsorted := pairwise_of_mem_splitBy (pairwise_sort points) hblock
  have hchain := List.isChain_of_mem_splitBy hblock
  cases hspan : span block with
  | none =>
    refine ⟨[], List.nodup_nil, fun k => iff_of_false List.not_mem_nil ?_, List.Forall₂.nil⟩
    rintro ⟨r, hr, -⟩
    obtain ⟨hrb, hresult, -⟩ := mem_countedTrues.1 hr
    rw [result_eq_false_of_span_eq_none hchain hspan hrb] at hresult
    exact absurd hresult (by simp)
  | some i =>
    obtain ⟨hall, first, hfirst, last, hlast, hstart, hstop, hends⟩ := exists_ends_of_span hsorted hchain hspan
    let k : String × Bool × Int := (i.entityId, true, falsesUntil points first)
    have hkey : ∀ p ∈ block, groupKey (p, falsesUntil points p) = k := fun p hp => by
      rw [groupKey, (hall p hp).1, (hall p hp).2, falsesUntil_eq_of_mem hblock hspan hp hfirst]
    have hmem : ∀ p ∈ block, (p, (falsesUntil points p : Int)) ∈ countedTrues points points := by
      intro p hp
      refine mem_countedTrues.2 ⟨?_, (hall p hp).1, rfl⟩
      rw [← mem_sort, ← List.flatten_splitBy joins (sort points)]
      exact List.mem_flatten.2 ⟨block, hblock, hp⟩
    have hblockOf : ∀ r ∈ countedTrues points points, groupKey r = k → r.1 ∈ block := by
      intro r hr hrk
      obtain ⟨hrp, hrr, hrc⟩ := mem_countedTrues.1 hr
      obtain ⟨hre, -, hrf⟩ : r.1.entityId = i.entityId ∧ r.1.result = true ∧
          r.2 = falsesUntil points first := by simpa [groupKey, k] using hrk
      have hcount : falsesUntil points first = falsesUntil points r.1 := by
        rw [hrc] at hrf
        exact_mod_cast hrf.symm
      exact mem_stretch hblock hfirst (hall first hfirst).1 hrp hrr ((hall first hfirst).2.trans hre.symm)
        hcount
    refine ⟨[k], List.nodup_singleton k, fun k' => ?_, List.Forall₂.cons ⟨rfl, ?_, ?_⟩ List.Forall₂.nil⟩
    · rw [List.mem_singleton]
      constructor
      · rintro rfl
        exact ⟨(first, falsesUntil points first), mem_countedTrues.2 ⟨hfirst, (hall first hfirst).1, rfl⟩,
          hkey first hfirst⟩
      · rintro ⟨r, hr, rfl⟩
        obtain ⟨hrb, -, hrc⟩ := mem_countedTrues.1 hr
        rw [← hkey r.1 hrb, ← hrc]
    · refine ⟨⟨_, hmem first hfirst, hkey first hfirst, hstart⟩, ?_⟩
      rintro t ⟨r, hr, hrk, rfl⟩
      have hrb := hblockOf r hr hrk
      rw [← hstart]
      exact time_le_of_isBefore (hends r.1 hrb).1 ((hall first hfirst).2.trans (hall r.1 hrb).2.symm)
    · refine ⟨⟨_, hmem last hlast, hkey last hlast, hstop⟩, ?_⟩
      rintro t ⟨r, hr, hrk, rfl⟩
      have hrb := hblockOf r hr hrk
      rw [← hstop]
      exact time_le_of_isBefore (hends r.1 hrb).2 ((hall r.1 hrb).2.trans (hall last hlast).2.symm)

/-- Stretches that are parted and make groups each make these groups together. -/
lemma isGroupBy_flatten {row : String × Bool × Int → EntityInterval → Prop}
    (hparted : blocks.Pairwise (Parted points))
    (hgroups : ∀ b ∈ blocks, IsGroupBy groupKey row (countedTrues points b) (span b).toList) :
    IsGroupBy groupKey row (countedTrues points blocks.flatten) (blocks.filterMap span) := by
  induction blocks with
  | nil => exact ⟨[], List.nodup_nil, fun k => by simp [countedTrues], List.Forall₂.nil⟩
  | cons block blocks ih =>
    rw [List.forall_mem_cons] at hgroups
    obtain ⟨hblock, hblocks⟩ := List.pairwise_cons.1 hparted
    have hcons : (block :: blocks).filterMap span = (span block).toList ++ blocks.filterMap span := by
      cases hspan : span block <;> simp [hspan]
    rw [List.flatten_cons, countedTrues_append, hcons]
    refine hgroups.1.append (ih hblocks hgroups.2) fun r hr r' hr' hkey => ?_
    obtain ⟨hrb, hrr, hrc⟩ := mem_countedTrues.1 hr
    obtain ⟨hrb', hrr', hrc'⟩ := mem_countedTrues.1 hr'
    obtain ⟨block', hblock', hrb'⟩ := List.mem_flatten.1 hrb'
    obtain ⟨hentity, -, hnumber⟩ : r.1.entityId = r'.1.entityId ∧ r.1.result = r'.1.result ∧ r.2 = r'.2 := by
      simpa [groupKey] using hkey
    refine hblock block' hblock' r.1 hrb r'.1 hrb' hrr hrr' hentity ?_
    rw [hrc, hrc'] at hnumber
    exact_mod_cast hnumber

/-- A timeline collapses to the groups of its true points by entity and by the number of false points until
them. -/
theorem isGroupBy_collapse (points : List TimelinePoint) :
    IsGroupBy groupKey (IsGroupRow (countedTrues points points)) (countedTrues points (sort points))
      (collapse points) := by
  rw [collapse_eq]
  have h := isGroupBy_flatten (pairwise_stretches points) fun b hb => isGroupBy_stretch hb
  rwa [List.flatten_splitBy] at h

/-- Points in their order are the only way to sort them. -/
lemma sort_eq_of_perm (h : points.Perm l) (hl : l.Pairwise fun p q => p.isBefore q = true) :
    sort points = l :=
  ((List.mergeSort_perm _ _).trans h).eq_of_pairwise (fun _ _ _ _ => isBefore_antisymm)
    (pairwise_sort points) hl

/-- What a timeline collapses to does not depend on the order in which its points are listed. -/
lemma collapse_eq_of_perm (h : points.Perm l) : collapse points = collapse l := by
  have hsort : sort points = sort l :=
    sort_eq_of_perm (h.trans (List.mergeSort_perm _ _).symm) (pairwise_sort l)
  rw [collapse, collapse, hsort]

end EntityHistory.TimelinePoint
