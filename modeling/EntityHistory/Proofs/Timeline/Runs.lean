/-
Collapsing as finding maximal runs.

The points of one entity, by time and of one time the false one first, fall into maximal blocks of consecutive
true points with false points between them. The intervals that a timeline collapses to are those of these
blocks, one entity after the other. Two blocks of an entity have a false point between them, which a true point
of the same time follows; so the one ends strictly before the other starts.

* `TimelinePoint.sort_eq_flatMap`: the order of points is that of the entities, and for each that of its points;
* `TimelinePoint.mem_trueRuns`: the runs that are found are the maximal ones;
* `TimelinePoint.collapse_eq_flatMap`: a timeline collapses to the intervals of the maximal runs;
* `TimelinePoint.canonical_collapse`: they are canonical.
-/
import EntityHistory.Proofs.Names
import EntityHistory.Proofs.Store.Memory
import EntityHistory.Proofs.Timeline.Groups

namespace EntityHistory.TimelinePoint

open EntityInterval (Canonical)

variable {points l block : List TimelinePoint} {p q : TimelinePoint} {e : String} {es : List String}

/-! ### The points of an entity -/

/-- The points of one entity in their order. -/
def pointsOf (points : List TimelinePoint) (e : String) : List TimelinePoint :=
  (sort points).filter fun p => p.entityId = e

/-- The entities that a timeline has points of. -/
def entities (points : List TimelinePoint) : List String := nameSet (points.map (·.entityId))

lemma mem_pointsOf : p ∈ pointsOf points e ↔ p ∈ points ∧ p.entityId = e := by
  simp [pointsOf]

lemma mem_entities (h : p ∈ points) : p.entityId ∈ entities points :=
  mem_nameSet.2 (List.mem_map_of_mem h)

lemma pairwise_entities (points : List TimelinePoint) : (entities points).Pairwise (· < ·) :=
  pairwise_nameSet _

lemma isBefore_of_entityId_lt (h : p.entityId < q.entityId) : p.isBefore q = true := by
  simp [isBefore, h]

/-- The points of each entity in their order, one entity after the other, are the points in their order. -/
lemma sort_eq_flatMap (points : List TimelinePoint) :
    sort points = (entities points).flatMap (pointsOf points) := by
  refine sort_eq_of_perm ?_ (List.pairwise_flatMap.2 ⟨fun e _ => ?_, ?_⟩)
  · have hexclude : (entities points).Pairwise fun e e' =>
        ∀ p ∈ sort points, decide (p.entityId = e) = true → decide (p.entityId = e') = false := by
      refine (pairwise_entities points).imp fun hlt p _ hp => ?_
      rw [decide_eq_true_eq] at hp
      rw [decide_eq_false_iff_not, hp]
      exact hlt.ne
    have hall : (sort points).filter (fun p => (entities points).any fun e => decide (p.entityId = e)) =
        sort points := by
      refine List.filter_eq_self.2 fun p hp => List.any_eq_true.2 ⟨p.entityId, ?_, by simp⟩
      exact mem_entities (mem_sort.1 hp)
    have hperm := Log.flatMap_filter_perm hexclude
    rw [hall] at hperm
    exact (List.mergeSort_perm points _).symm.trans hperm.symm
  · exact (pairwise_sort points).filter _
  · refine (pairwise_entities points).imp fun hlt p hp q hq => isBefore_of_entityId_lt ?_
    rw [(mem_pointsOf.1 hp).2, (mem_pointsOf.1 hq).2]
    exact hlt

/-! ### Maximal runs -/

/-- A block of consecutive points of a list is a maximal run: its points are true, and neither the point before
it nor the one after it is. -/
def IsMaximalRun (l block : List TimelinePoint) : Prop :=
  ∃ before after, l = before ++ (block ++ after) ∧ block ≠ [] ∧ (∀ p ∈ block, p.result = true) ∧
    (∀ p ∈ before.getLast?, p.result = false) ∧ ∀ p ∈ after.head?, p.result = false

/-- Two neighbouring points of an entity belong to one run: both are true. -/
def bothTrue (p q : TimelinePoint) : Bool := p.result && q.result

/-- The maximal runs of a list: it is cut between any two points that are not both true, and what begins with a
true point is a run. -/
def trueRuns (l : List TimelinePoint) : List (List TimelinePoint) :=
  (l.splitBy bothTrue).filter fun block => block.head?.any (·.result)

lemma result_of_isChain (h : (p :: l).IsChain fun p q => bothTrue p q = true) (hp : p.result = true) :
    ∀ q ∈ p :: l, q.result = true := by
  induction l generalizing p with
  | nil => simpa using hp
  | cons q l ih =>
    rw [List.isChain_cons_cons, bothTrue, Bool.and_eq_true] at h
    exact List.forall_mem_cons.2 ⟨hp, ih h.2 h.1.2⟩

lemma isChain_of_result (h : ∀ p ∈ block, p.result = true) : block.IsChain fun p q => bothTrue p q = true := by
  refine List.Pairwise.isChain (List.pairwise_of_forall_mem_list fun p hp q hq => ?_)
  simp [bothTrue, h p hp, h q hq]

lemma bothTrue_eq_false_left (h : p.result = false) : bothTrue p q = false := by
  simp [bothTrue, h]

lemma bothTrue_eq_false_right (h : q.result = false) : bothTrue p q = false := by
  simp [bothTrue, h]

/-- The last of some points that are cut into blocks is the last of the last block. -/
lemma exists_getLast?_flatten {blocks : List (List TimelinePoint)} (hne : [] ∉ blocks)
    (hp : p ∈ blocks.flatten.getLast?) : ∃ b ∈ blocks.getLast?, p ∈ b.getLast? := by
  rcases blocks.eq_nil_or_concat with rfl | ⟨blocks, b, rfl⟩
  · simp at hp
  · have hb : b ≠ [] := fun h => hne (by simp [h])
    rw [List.concat_eq_append, List.flatten_append, List.flatten_singleton,
      List.getLast?_append_of_ne_nil _ hb] at hp
    exact ⟨b, by simp, hp⟩

/-- The first of some points that are cut into blocks is the first of the first block. -/
lemma exists_head?_flatten {blocks : List (List TimelinePoint)} (hne : [] ∉ blocks)
    (hp : p ∈ blocks.flatten.head?) : ∃ b ∈ blocks.head?, p ∈ b.head? := by
  cases blocks with
  | nil => simp at hp
  | cons b blocks =>
    have hb : b ≠ [] := fun h => hne (by simp [h])
    rw [List.flatten_cons, List.head?_append_of_ne_nil _ hb] at hp
    exact ⟨b, by simp, hp⟩

/-- The runs that a list is cut into are its maximal runs. -/
lemma mem_trueRuns : block ∈ trueRuns l ↔ IsMaximalRun l block := by
  rw [trueRuns, List.mem_filter]
  constructor
  · rintro ⟨hblock, hhead⟩
    have hne := List.ne_nil_of_mem_splitBy hblock
    have hblockChain := List.isChain_of_mem_splitBy hblock
    have hall : ∀ p ∈ block, p.result = true := by
      obtain ⟨first, rest, rfl⟩ := List.exists_cons_of_ne_nil hne
      exact result_of_isChain hblockChain (by simpa using hhead)
    obtain ⟨befores, afters, hcut⟩ := List.append_of_mem hblock
    have hl : l = befores.flatten ++ (block ++ afters.flatten) := by
      rw [← List.flatten_cons, ← List.flatten_append, ← hcut, List.flatten_splitBy]
    have hchain := List.isChain_getLast_head_splitBy bothTrue l
    have hnil := List.nil_notMem_splitBy bothTrue l
    rw [hcut] at hchain hnil
    obtain ⟨-, hchainAfter, hborder⟩ := List.isChain_append.1 hchain
    refine ⟨befores.flatten, afters.flatten, hl, hne, hall, fun p hp => ?_, fun p hp => ?_⟩
    · obtain ⟨b, hb, hpb⟩ := exists_getLast?_flatten (fun h => hnil (List.mem_append_left _ h)) hp
      obtain ⟨_, _, hnot⟩ : ∃ hb hne, bothTrue (b.getLast hb) (block.head hne) = false :=
        hborder b hb block (by simp)
      rw [List.getLast_of_mem_getLast? hpb] at hnot
      simpa [bothTrue, hall _ (List.head_mem hne)] using hnot
    · obtain ⟨b, hb, hpb⟩ := exists_head?_flatten (fun h => hnil (by simp [h])) hp
      obtain ⟨_, _, hnot⟩ : ∃ hne hb, bothTrue (block.getLast hne) (b.head hb) = false :=
        (List.isChain_cons.1 hchainAfter).1 b hb
      rw [List.head_of_mem_head? hpb] at hnot
      simpa [bothTrue, hall _ (List.getLast_mem hne)] using hnot
  · rintro ⟨before, after, rfl, hne, hall, hbefore, hafter⟩
    have hcut : (before ++ (block ++ after)).splitBy bothTrue =
        before.splitBy bothTrue ++ (block :: after.splitBy bothTrue) := by
      rw [List.splitBy_append fun p hp q _ => bothTrue_eq_false_left (hbefore p hp),
        List.splitBy_append fun p _ q hq => bothTrue_eq_false_right (hafter q hq),
        List.splitBy_of_isChain hne (isChain_of_result hall), List.singleton_append]
    rw [hcut]
    refine ⟨by simp, ?_⟩
    obtain ⟨first, rest, rfl⟩ := List.exists_cons_of_ne_nil hne
    simpa using hall first List.mem_cons_self

/-! ### The intervals of the runs -/

/-- Points of one entity are cut the same, whether the entities are compared or not. -/
lemma splitBy_joins_eq (h : ∀ p ∈ l, p.entityId = e) : l.splitBy joins = l.splitBy bothTrue := by
  have hjoins : ∀ p ∈ l, ∀ q ∈ l, joins p q = bothTrue p q := fun p hp q hq => by
    simp [joins, bothTrue, h p hp, h q hq]
  have hmem : ∀ block ∈ l.splitBy bothTrue, ∀ p ∈ block, p ∈ l := fun block hblock p hp => by
    rw [← List.flatten_splitBy bothTrue l]
    exact List.mem_flatten.2 ⟨block, hblock, hp⟩
  refine List.splitBy_eq_iff.2 ⟨(List.flatten_splitBy bothTrue l).symm, List.nil_notMem_splitBy bothTrue l,
    fun block hblock => ?_, ?_⟩
  · refine (List.isChain_of_mem_splitBy hblock).imp_of_mem_imp fun p q hp hq hpq => ?_
    rw [hjoins p (hmem block hblock p hp) q (hmem block hblock q hq)]
    exact hpq
  · refine (List.isChain_getLast_head_splitBy bothTrue l).imp_of_mem_imp ?_
    rintro b b' hb hb' ⟨hne, hne', hnot⟩
    refine ⟨hne, hne', ?_⟩
    rw [hjoins _ (hmem b hb _ (List.getLast_mem hne)) _ (hmem b' hb' _ (List.head_mem hne'))]
    exact hnot

/-- Points of one entity after the other are cut between the entities. -/
lemma splitBy_joins_flatMap (hes : es.Pairwise (· < ·)) (points : List TimelinePoint) :
    (es.flatMap (pointsOf points)).splitBy joins = es.flatMap fun e => (pointsOf points e).splitBy bothTrue := by
  induction es with
  | nil => rfl
  | cons e es ih =>
    obtain ⟨he, hes⟩ := List.pairwise_cons.1 hes
    have hborder : ∀ p ∈ (pointsOf points e).getLast?, ∀ q ∈ (es.flatMap (pointsOf points)).head?,
        joins p q = false := by
      intro p hp q hq
      obtain ⟨e', he', hq⟩ := List.mem_flatMap.1 (List.mem_of_mem_head? hq)
      have hne : p.entityId ≠ q.entityId := by
        rw [(mem_pointsOf.1 (List.mem_of_mem_getLast? hp)).2, (mem_pointsOf.1 hq).2]
        exact (he e' he').ne
      simp [joins, hne]
    rw [List.flatMap_cons, List.splitBy_append hborder, ih hes, List.flatMap_cons,
      splitBy_joins_eq fun p hp => (mem_pointsOf.1 hp).2]

/-- What does not begin with a true point has no interval. -/
lemma filterMap_span_splitBy (l : List TimelinePoint) :
    (l.splitBy bothTrue).filterMap span = (trueRuns l).filterMap span := by
  rw [trueRuns, List.filterMap_filter]
  refine List.filterMap_congr fun block _ => ?_
  cases block with
  | nil => rfl
  | cons first rest => cases h : first.result <;> simp [span, h]

/-- A timeline collapses to the intervals of the maximal runs of each entity's points, one entity after the
other. -/
lemma collapse_eq_flatMap (points : List TimelinePoint) :
    collapse points = (entities points).flatMap fun e => (trueRuns (pointsOf points e)).filterMap span := by
  rw [collapse_eq, sort_eq_flatMap, splitBy_joins_flatMap (pairwise_entities points), List.filterMap_flatMap]
  exact List.flatMap_congr fun e _ => filterMap_span_splitBy (pointsOf points e)

/-! ### What the intervals cover -/

lemma falsesUntil_congr (he : p.entityId = q.entityId) (ht : p.time = q.time) :
    falsesUntil points p = falsesUntil points q := by
  rw [falsesUntil, falsesUntil, he, ht]

/-- The intervals of a timeline are in the order of their entities, and of one entity each starts strictly after
the one before it stops. -/
lemma canonical_collapse (points : List TimelinePoint) : Canonical (collapse points) := by
  refine ⟨fun i => start_le_stop_of_mem_collapse, ?_⟩
  have hsorted := pairwise_sort points
  rw [← List.flatten_splitBy joins (sort points), List.pairwise_flatten] at hsorted
  rw [collapse_eq, List.pairwise_filterMap]
  refine ((pairwise_stretches points).and hsorted.2).imp_of_mem
    fun {block block'} hblock hblock' ⟨hparted, hbefore⟩ i hi j hj => ?_
  obtain ⟨hall, -, -, last, hlast, -, hstop, -⟩ := exists_ends_of_span (hsorted.1 block hblock)
    (List.isChain_of_mem_splitBy hblock) hi
  obtain ⟨hall', first, hfirst, -, -, hstart, -, -⟩ := exists_ends_of_span (hsorted.1 block' hblock')
    (List.isChain_of_mem_splitBy hblock') hj
  obtain ⟨hlastr, hlaste⟩ := hall last hlast
  obtain ⟨hfirstr, hfirste⟩ := hall' first hfirst
  rw [EntityInterval.Precedes, ← hlaste, ← hfirste, ← hstop, ← hstart]
  rcases lt_or_eq_of_le (entityId_le_of_isBefore (hbefore last hlast first hfirst)) with hlt | he
  · exact Or.inl hlt
  · refine Or.inr ⟨he, lt_of_le_of_ne (time_le_of_isBefore (hbefore last hlast first hfirst) he) fun ht => ?_⟩
    -- true points of one time are in one run
    exact hparted last hlast first hfirst hlastr hfirstr he (falsesUntil_congr he ht)

/-- At the time of one of its points an entity is covered just when one of its points at that time is true. -/
lemma covers_collapse_iff (hp : p ∈ points) : covers (collapse points) p.entityId p.time = true ↔
    ∃ q ∈ points, q.entityId = p.entityId ∧ q.time = p.time ∧ q.result = true := by
  constructor
  · intro hcovers
    obtain ⟨q, hq, he, ht, hr, hlast⟩ := exists_last_of_covers hcovers
    exact ⟨q, hq, he, le_antisymm ht (time_le_of_isBefore (hlast p hp rfl le_rfl) he.symm), hr⟩
  · rintro ⟨q, hq, he, ht, hr⟩
    rw [← he, ← ht]
    exact covers_collapse_of_mem hq hr

end EntityHistory.TimelinePoint
