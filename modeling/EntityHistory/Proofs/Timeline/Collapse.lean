/-
Collapsing timelines.

The points of a timeline are in the order of their entities, and for one entity in that of their times,
where of two points of one time the false one comes first. Cut into maximal stretches of true points of one
entity, they give the intervals that the timeline collapses to.

* `TimelinePoint.collapse_eq`: the intervals are those of the stretches;
* `TimelinePoint.covers_collapse_of_mem`: an entity is covered at each of its true points;
* `TimelinePoint.exists_last_of_covers`: where it is covered, the last point until then is true.
-/
import Mathlib.Data.List.SplitBy
import EntityHistory.Interval.Timeline
import EntityHistory.Proofs.Interval.Canonical

namespace EntityHistory.TimelinePoint

variable {p q : TimelinePoint} {points l : List TimelinePoint} {e : String} {t : Instant}
  {i : EntityInterval}

/-! ### The order of points -/

/-- What points are ordered by. -/
def key (p : TimelinePoint) : String ×ₗ Instant ×ₗ Bool := toLex (p.entityId, toLex (p.time, p.result))

lemma isBefore_iff_key_le : p.isBefore q = true ↔ p.key ≤ q.key := by
  have hresult : (!p.result || q.result) = true ↔ p.result ≤ q.result := by
    rw [Bool.le_iff_imp]
    cases p.result <;> simp
  simp only [isBefore, key, Prod.Lex.toLex_le_toLex, Bool.or_eq_true, Bool.and_eq_true,
    decide_eq_true_eq, hresult]

lemma isBefore_refl (p : TimelinePoint) : p.isBefore p = true := isBefore_iff_key_le.2 le_rfl

/-- Two points each of which comes before the other or is level with it are the same. -/
lemma isBefore_antisymm (h : p.isBefore q = true) (h' : q.isBefore p = true) : p = q := by
  have hkey : p.key = q.key := le_antisymm (isBefore_iff_key_le.1 h) (isBefore_iff_key_le.1 h')
  cases p
  cases q
  simpa [key] using hkey

lemma isBefore_iff_of_eq (he : p.entityId = q.entityId) : p.isBefore q = true ↔
    p.time < q.time ∨ p.time = q.time ∧ (p.result = true → q.result = true) := by
  simp only [isBefore_iff_key_le, key, Prod.Lex.toLex_le_toLex, he, lt_irrefl, true_and, false_or,
    Bool.le_iff_imp]

lemma time_le_of_isBefore (h : p.isBefore q = true) (he : p.entityId = q.entityId) : p.time ≤ q.time := by
  rcases (isBefore_iff_of_eq he).1 h with ht | ⟨ht, -⟩
  · exact ht.le
  · exact ht.le

lemma pairwise_sort (points : List TimelinePoint) :
    (sort points).Pairwise fun p q => p.isBefore q = true :=
  pairwise_mergeSort_of_key key (fun _ _ => isBefore_iff_key_le) points

@[simp] lemma mem_sort : p ∈ sort points ↔ p ∈ points := List.mem_mergeSort

/-- The last of points in their order comes after all of them. -/
lemma isBefore_getLast (h : l.Pairwise fun p q => p.isBefore q = true) (hl : l.getLast? = some q)
    (hp : p ∈ l) : p.isBefore q = true := by
  obtain ⟨l', rfl⟩ := List.getLast?_eq_some_iff.1 hl
  rcases List.mem_append.1 hp with hp | hp
  · exact (List.pairwise_append.1 h).2.2 p hp q (by simp)
  · rw [List.mem_singleton.1 hp]
    exact isBefore_refl q

/-- The last of points in their order is the one that comes after all of them. -/
lemma getLast?_eq_some_iff (h : l.Pairwise fun p q => p.isBefore q = true) :
    l.getLast? = some q ↔ q ∈ l ∧ ∀ p ∈ l, p.isBefore q = true := by
  constructor
  · intro hlast
    exact ⟨List.mem_of_getLast? hlast, fun r hr => isBefore_getLast h hlast hr⟩
  · rintro ⟨hp, hall⟩
    obtain ⟨r, hr⟩ := Option.isSome_iff_exists.1 (List.getLast?_isSome.2 (List.ne_nil_of_mem hp))
    rw [hr, isBefore_antisymm (hall r (List.mem_of_getLast? hr)) (isBefore_getLast h hr hp)]

/-- Of the points with a property, if there are any, one comes after all others. -/
lemma exists_last {P : TimelinePoint → Prop} (hp : p ∈ points) (hP : P p) :
    ∃ q ∈ points, P q ∧ ∀ r ∈ points, P r → r.isBefore q = true := by
  classical
  have hsorted := pairwise_sort (points.filter fun p => P p)
  have hmem : ∀ r, r ∈ sort (points.filter fun p => P p) ↔ r ∈ points ∧ P r := by simp
  cases hlast : (sort (points.filter fun p => P p)).getLast? with
  | none =>
    rw [List.getLast?_eq_none_iff] at hlast
    have : p ∈ sort (points.filter fun p => P p) := (hmem p).2 ⟨hp, hP⟩
    simp [hlast] at this
  | some q =>
    obtain ⟨hq, hPq⟩ := (hmem q).1 (List.mem_of_getLast? hlast)
    exact ⟨q, hq, hPq, fun r hr hPr => isBefore_getLast hsorted hlast ((hmem r).2 ⟨hr, hPr⟩)⟩

/-! ### Stretches of true points -/

/-- Two neighbouring points belong to one stretch: both are true, and of one entity. -/
def joins (p q : TimelinePoint) : Bool := p.result && q.result && p.entityId = q.entityId

/-- The interval of a stretch of points, which begins with its first and ends with its last; a false point
has none. -/
def span : List TimelinePoint → Option EntityInterval
  | [] => none
  | p :: rest => if p.result then some ⟨p.entityId, p.time, (rest.getLastD p).time⟩ else none

lemma span_singleton (p : TimelinePoint) :
    span [p] = if p.result then some ⟨p.entityId, p.time, p.time⟩ else none := rfl

lemma isSome_span_singleton (p : TimelinePoint) : (span [p]).isSome = p.result := by
  rw [span_singleton]
  split <;> simp_all

lemma entityId_of_mem_span_singleton (h : i ∈ span [p]) : i.entityId = p.entityId := by
  rw [span_singleton] at h
  split at h
  · obtain rfl : _ = i := by simpa using h
    rfl
  · simp at h

lemma span_append_singleton {block : List TimelinePoint} (h : span block = some i) (p : TimelinePoint) :
    span (block ++ [p]) = some { i with stop := p.time } := by
  cases block with
  | nil => simp [span] at h
  | cons q rest =>
    rw [span] at h
    split at h
    · rename_i hq
      simp only [List.cons_append, span, hq, if_true, List.getLastD_concat]
      simp only [Option.some.injEq] at h
      rw [← h]
    · simp at h

/-- The pending group of a cut and the pending run of a collapse are the same: a run of the entity of the
last point, up to its time, if that point is true, and nothing otherwise. -/
lemma filterMap_span_loop {run : Option EntityInterval} (rest : List TimelinePoint) {last : TimelinePoint}
    {group : List TimelinePoint} (done : List (List TimelinePoint))
    (hrun : span (group.reverse ++ [last]) = run)
    (hlast : ∀ i ∈ run, i.entityId = last.entityId) (hresult : run.isSome = last.result) :
    (List.splitBy.loop joins rest last group done).filterMap span =
      done.reverse.filterMap span ++ runs run rest := by
  induction rest generalizing last group done run with
  | nil =>
    have hdone : List.splitBy.loop joins [] last group done = done.reverse ++ [group.reverse ++ [last]] := by
      simp [List.splitBy.loop]
    rw [hdone, List.filterMap_append]
    cases run <;> simp [hrun, runs]
  | cons p rest ih =>
    rw [List.splitBy.loop]
    split
    case h_1 hjoins =>
      -- the point goes on with the pending run
      simp only [joins, Bool.and_eq_true, decide_eq_true_eq] at hjoins
      obtain ⟨⟨hl, hp⟩, he⟩ := hjoins
      rw [hl] at hresult
      obtain ⟨i, rfl⟩ := Option.isSome_iff_exists.1 hresult
      have hi : i.entityId = last.entityId := hlast i rfl
      have hspan : span ((last :: group).reverse ++ [p]) = some { i with stop := p.time } := by
        simpa using span_append_singleton hrun p
      rw [ih done hspan (by simp [hi, he]) (by simp [hp])]
      simp [runs, hp, hi, he]
    case h_2 hjoins =>
      -- the pending run, if any, is complete
      have hnext : (List.splitBy.loop joins rest p [] ((last :: group).reverse :: done)).filterMap span =
          ((last :: group).reverse :: done).reverse.filterMap span ++ runs (span [p]) rest :=
        ih _ rfl (fun _ => entityId_of_mem_span_singleton) (isSome_span_singleton p)
      rw [hnext, List.reverse_cons, List.filterMap_append, List.append_assoc]
      congr 1
      cases run with
      | none => simp [hrun, runs, span_singleton]
      | some i =>
        have hi : i.entityId = last.entityId := hlast i rfl
        have hnot : ¬ (p.result = true ∧ p.entityId = i.entityId) := by
          rintro ⟨hr, he⟩
          have hl : last.result = true := by simpa using hresult.symm
          simp [joins, hl, hr, he, hi] at hjoins
        simp [hrun, runs, span_singleton, hnot]

/-- A timeline collapses to the intervals of its maximal stretches of true points of one entity. -/
theorem collapse_eq (points : List TimelinePoint) :
    collapse points = ((sort points).splitBy joins).filterMap span := by
  rw [collapse]
  cases sort points with
  | nil => rfl
  | cons p rest =>
    have hloop := filterMap_span_loop rest [] (rfl : span ([].reverse ++ [p]) = span [p])
      (fun _ => entityId_of_mem_span_singleton) (isSome_span_singleton p)
    rw [List.splitBy, hloop, runs]
    rfl

/-! ### What a timeline covers -/

variable {block : List TimelinePoint}

lemma isChain_joins {p : TimelinePoint} (h : (p :: l).IsChain fun p q => joins p q = true) (hq : q ∈ l) :
    p.result = true ∧ q.result = true ∧ q.entityId = p.entityId := by
  induction l generalizing p with
  | nil => simp at hq
  | cons r l ih =>
    rw [List.isChain_cons_cons] at h
    obtain ⟨⟨hp, hr⟩, he⟩ : (p.result = true ∧ r.result = true) ∧ p.entityId = r.entityId := by
      simpa [joins] using h.1
    rcases List.mem_cons.1 hq with rfl | hq
    · exact ⟨hp, hr, he.symm⟩
    · obtain ⟨-, hqr, hqe⟩ := ih h.2 hq
      exact ⟨hp, hqr, hqe.trans he.symm⟩

/-- A stretch of sorted points with an interval consists of true points of one entity, the first and the
last of which are where the interval begins and ends. -/
lemma exists_ends_of_span (hsorted : block.Pairwise fun p q => p.isBefore q = true)
    (hchain : block.IsChain fun p q => joins p q = true) (hi : span block = some i) :
    (∀ p ∈ block, p.result = true ∧ p.entityId = i.entityId) ∧
      ∃ first ∈ block, ∃ last ∈ block, first.time = i.start ∧ last.time = i.stop ∧
        ∀ p ∈ block, first.isBefore p = true ∧ p.isBefore last = true := by
  cases block with
  | nil => simp [span] at hi
  | cons first rest =>
    rw [span] at hi
    split at hi
    case isFalse => simp at hi
    case isTrue hfirst =>
      obtain rfl := Option.some.inj hi
      have hlast : (first :: rest).getLast? = some (rest.getLastD first) := by
        rw [List.getLast?_cons, List.getLastD_eq_getLast?]
      refine ⟨?_, first, by simp, rest.getLastD first, List.getLastD_mem_cons .., rfl, rfl, ?_⟩
      · intro p hp
        rcases List.mem_cons.1 hp with rfl | hp
        · exact ⟨hfirst, rfl⟩
        · exact (isChain_joins hchain hp).2
      · intro p hp
        refine ⟨?_, isBefore_getLast hsorted hlast hp⟩
        rcases List.mem_cons.1 hp with rfl | hp
        · exact isBefore_refl p
        · exact (List.pairwise_cons.1 hsorted).1 p hp

lemma pairwise_of_mem_splitBy (hl : l.Pairwise fun p q => p.isBefore q = true)
    (h : block ∈ l.splitBy joins) : block.Pairwise fun p q => p.isBefore q = true := by
  have hsub := List.sublist_flatten_of_mem h
  rw [List.flatten_splitBy] at hsub
  exact hl.sublist hsub

/-- No interval of a timeline ends before it starts. -/
lemma start_le_stop_of_mem_collapse (hi : i ∈ collapse points) : i.start ≤ i.stop := by
  rw [collapse_eq] at hi
  obtain ⟨block, hblock, hspan⟩ := List.mem_filterMap.1 hi
  obtain ⟨hall, first, hfirst, last, hlast, hstart, hstop, hends⟩ := exists_ends_of_span
    (pairwise_of_mem_splitBy (pairwise_sort points) hblock) (List.isChain_of_mem_splitBy hblock) hspan
  have hentity : first.entityId = last.entityId := (hall first hfirst).2.trans (hall last hlast).2.symm
  rw [← hstart, ← hstop]
  exact time_le_of_isBefore (hends last hlast).1 hentity

/-- An entity is covered at each of its true points. -/
theorem covers_collapse_of_mem (hp : p ∈ points) (hr : p.result = true) :
    covers (collapse points) p.entityId p.time = true := by
  have hmem : p ∈ ((sort points).splitBy joins).flatten := by
    rw [List.flatten_splitBy]
    exact mem_sort.2 hp
  obtain ⟨block, hblock, hpb⟩ := List.mem_flatten.1 hmem
  have hchain := List.isChain_of_mem_splitBy hblock
  have hsorted := pairwise_of_mem_splitBy (pairwise_sort points) hblock
  obtain ⟨i, hi⟩ : ∃ i, span block = some i := by
    obtain ⟨first, rest, rfl⟩ := List.exists_cons_of_ne_nil (List.ne_nil_of_mem hpb)
    have hfirst : first.result = true := by
      rcases List.mem_cons.1 hpb with rfl | hpr
      · exact hr
      · exact (isChain_joins hchain hpr).1
    exact ⟨_, if_pos hfirst⟩
  obtain ⟨hall, first, hfirst, last, hlast, hstart, hstop, hends⟩ := exists_ends_of_span hsorted hchain hi
  have hentity : ∀ q ∈ block, q.entityId = p.entityId :=
    fun q hq => (hall q hq).2.trans (hall p hpb).2.symm
  rw [covers_iff, collapse_eq]
  refine ⟨i, List.mem_filterMap.2 ⟨block, hblock, hi⟩, (hall p hpb).2.symm, ?_, ?_⟩
  · rw [← hstart]
    exact time_le_of_isBefore (hends p hpb).1 (hentity first hfirst)
  · rw [← hstop]
    exact time_le_of_isBefore (hends p hpb).2 (hentity last hlast).symm

/-- Where an entity is covered, its last point until then is true. -/
theorem exists_last_of_covers (h : covers (collapse points) e t = true) :
    ∃ p ∈ points, p.entityId = e ∧ p.time ≤ t ∧ p.result = true ∧
      ∀ q ∈ points, q.entityId = e → q.time ≤ t → q.isBefore p = true := by
  rw [covers_iff, collapse_eq] at h
  obtain ⟨i, hi, hie, hit, htstop⟩ := h
  obtain ⟨block, hblock, hspan⟩ := List.mem_filterMap.1 hi
  have hsorted := pairwise_of_mem_splitBy (pairwise_sort points) hblock
  obtain ⟨hall, first, hfirst, last, hlast, hstart, hstop, -⟩ :=
    exists_ends_of_span hsorted (List.isChain_of_mem_splitBy hblock) hspan
  -- the sorted points are cut into those before the stretch, the stretch, and those after it
  obtain ⟨before, after, hcut⟩ := List.append_of_mem hblock
  have hpoints : sort points = before.flatten ++ (block ++ after.flatten) := by
    rw [← List.flatten_cons, ← List.flatten_append, ← hcut, List.flatten_splitBy]
  have hpairs := pairwise_sort points
  rw [hpoints, List.pairwise_append, List.pairwise_append] at hpairs
  obtain ⟨-, ⟨-, -, hafter⟩, hbefore⟩ := hpairs
  have hmem : ∀ q ∈ block, q ∈ points := fun q hq => by
    rw [← mem_sort, hpoints]
    simp [hq]
  have hfe : first.entityId = e := (hall first hfirst).2.trans hie
  have hft : first.time ≤ t := hstart.le.trans hit
  obtain ⟨p, hp, ⟨hpe, hpt⟩, hplast⟩ :=
    exists_last (P := fun q => q.entityId = e ∧ q.time ≤ t) (hmem first hfirst) ⟨hfe, hft⟩
  refine ⟨p, hp, hpe, hpt, ?_, fun q hq hqe hqt => hplast q hq ⟨hqe, hqt⟩⟩
  have hp' : p ∈ before.flatten ++ (block ++ after.flatten) := by
    rw [← hpoints]
    exact mem_sort.2 hp
  rcases List.mem_append.1 hp' with hpb | hp'
  · -- a point before the stretch is level with the first of the stretch
    have heq : p = first := isBefore_antisymm (hbefore p hpb first (by simp [hfirst]))
      (hplast first (hmem first hfirst) ⟨hfe, hft⟩)
    rw [heq]
    exact (hall first hfirst).1
  · rcases List.mem_append.1 hp' with hpb | hpa
    · exact (hall p hpb).1
    · -- a point after the stretch has the time of the last of the stretch, and follows a true point
      have hle : last.entityId = p.entityId := ((hall last hlast).2.trans hie).trans hpe.symm
      rcases (isBefore_iff_of_eq hle).1 (hafter last hlast p hpa) with hlt | ⟨-, hresult⟩
      · exact absurd (hlt.trans_le (hpt.trans (htstop.trans hstop.ge))) (lt_irrefl last.time)
      · exact hresult (hall last hlast).1

end EntityHistory.TimelinePoint
