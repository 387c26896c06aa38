/-
Looking ahead.

What is before an instant should not depend on what comes after it. A query about what is before an instant has
a window that starts at the low water mark, and a point that it refuses is carried into the window if it is not
later than that mark. So nothing that the query refuses matters, as long as it accepts the mark itself. If it
refuses the mark, a refused point may make an interval, and if its bound is earlier than the mark, that interval
ends later than the bound.

* `TimelinePoint.collapse_congr`: repeated points make no difference to what a timeline collapses to;
* `TimelinePoint.intervals_congr`: which points the intervals of a query depend on;
* `TimelinePoint.ignores_refused_iff_accepts_lowWaterMark`: when what is refused does not matter.
-/
import EntityHistory.Proofs.Timeline.Carry
import EntityHistory.Proofs.Timeline.Groups

namespace EntityHistory.TimelinePoint

variable {points points' l : List TimelinePoint} {q : TimeQuery} {e : String} {p r : TimelinePoint}
  {run : Option EntityInterval} {i : EntityInterval} {bound : Instant}

/-- Two timelines have the same points among those that a query accepts. -/
def SameAccepted (q : TimeQuery) (points points' : List TimelinePoint) : Prop :=
  ∀ p : TimelinePoint, q.accepts p.time = true → (p ∈ points ↔ p ∈ points')

/-! ### Repeated points -/

/-- A run goes on in the same way after a point and after two equal ones. -/
lemma runs_cons_cons_self (run : Option EntityInterval) (p : TimelinePoint) (l : List TimelinePoint) :
    runs run (p :: p :: l) = runs run (p :: l) := by
  cases hp : p.result with
  | false => cases run <;> simp [runs, hp]
  | true =>
    cases run with
    | none => simp [runs, hp]
    | some i => by_cases he : p.entityId = i.entityId <;> simp [runs, hp, he]

/-- The runs of points in their order are those of the points without repetitions. -/
lemma runs_dedup (hl : l.Pairwise fun p q => p.isBefore q = true) : runs run l.dedup = runs run l := by
  induction l generalizing run with
  | nil => rfl
  | cons p l ih =>
    obtain ⟨hp, hl⟩ := List.pairwise_cons.1 hl
    by_cases hmem : p ∈ l
    · -- the point is repeated at once, since nothing else comes between
      rw [List.dedup_cons_of_mem hmem, ih hl]
      cases l with
      | nil => simp at hmem
      | cons r l =>
        have heq : p = r := by
          rcases List.mem_cons.1 hmem with heq | hmem
          · exact heq
          · exact isBefore_antisymm (hp r List.mem_cons_self) ((List.pairwise_cons.1 hl).1 p hmem)
        rw [heq, runs_cons_cons_self]
    · rw [List.dedup_cons_of_notMem hmem]
      cases run with
      | none => simp only [runs, ih hl]
      | some i => simp only [runs, ih hl]

lemma collapse_dedup (points : List TimelinePoint) : collapse points.dedup = collapse points := by
  have hsort : sort points.dedup = (sort points).dedup :=
    sort_eq_of_perm ((List.mergeSort_perm points _).symm.dedup)
      ((pairwise_sort points).sublist (List.dedup_sublist _))
  rw [collapse, hsort, runs_dedup (pairwise_sort points), collapse]

/-- A timeline collapses to the same intervals as any other with the same points. -/
theorem collapse_congr (h : ∀ p, p ∈ points ↔ p ∈ points') : collapse points = collapse points' := by
  have hperm : points.dedup.Perm points'.dedup :=
    (List.perm_ext_iff_of_nodup points.nodup_dedup points'.nodup_dedup).2 fun p => by
      rw [List.mem_dedup, List.mem_dedup, h p]
  rw [← collapse_dedup points, collapse_eq_of_perm hperm, collapse_dedup]

/-- An interval stops at a true point of its entity. -/
lemma exists_stop_of_mem_collapse (hi : i ∈ collapse points) :
    ∃ p ∈ points, p.entityId = i.entityId ∧ p.result = true ∧ p.time = i.stop := by
  rw [collapse_eq] at hi
  obtain ⟨block, hblock, hspan⟩ := List.mem_filterMap.1 hi
  obtain ⟨hall, -, -, last, hlast, -, hstop, -⟩ := exists_ends_of_span
    (pairwise_of_mem_splitBy (pairwise_sort points) hblock) (List.isChain_of_mem_splitBy hblock) hspan
  have hmem : last ∈ sort points := by
    rw [← List.flatten_splitBy joins (sort points)]
    exact List.mem_flatten.2 ⟨block, hblock, hlast⟩
  exact ⟨last, mem_sort.1 hmem, (hall last hlast).2, (hall last hlast).1, hstop⟩

/-! ### What the intervals depend on -/

/-- The last result among the points with a property depends on these points only. -/
lemma lastResult_congr {P : TimelinePoint → Bool} (h : ∀ p, P p = true → (p ∈ points ↔ p ∈ points')) :
    lastResult ((sort points).filter P) e = lastResult ((sort points').filter P) e := by
  have hmem : ∀ p, p ∈ ((sort points).filter P).filter (fun p => p.entityId = e) ↔
      p ∈ ((sort points').filter P).filter (fun p => p.entityId = e) := by
    intro p
    simp only [List.mem_filter, mem_sort]
    exact and_congr_left fun _ => and_congr_left fun hP => h p hP
  have hsorted : ∀ points, (((sort points).filter P).filter fun p => p.entityId = e).Pairwise
      fun p r => p.isBefore r = true := fun points => ((pairwise_sort points).filter _).filter _
  rw [lastResult, lastResult]
  refine congrArg _ (Option.ext fun p => ?_)
  rw [getLast?_eq_some_iff (hsorted points), getLast?_eq_some_iff (hsorted points')]
  simp only [hmem]

/-- The intervals of a query depend on the points that it accepts and, if it carries a state, on those that it
refuses and that are not later than the start of its window. -/
theorem intervals_congr (h : SameAccepted q points points')
    (hearlier : q.carriesState = true → ∀ p, IsEarlier q p → (p ∈ points ↔ p ∈ points')) :
    intervals points q = intervals points' q := by
  rw [intervals, intervals]
  refine collapse_congr fun p => ?_
  split
  case isTrue hcarries =>
    have hbefore : lastResult (earlierThan q points) p.entityId = lastResult (earlierThan q points') p.entityId :=
      lastResult_congr fun p hp => hearlier hcarries p (by simpa [IsEarlier] using hp)
    have haccepted : lastResult (acceptedBy q points) p.entityId = lastResult (acceptedBy q points') p.entityId :=
      lastResult_congr h
    rw [mem_carryState_iff, mem_carryState_iff, hbefore, haccepted]
    exact or_congr_left (or_congr_left (and_congr_left fun hp => h p hp))
  case isFalse =>
    simp only [List.mem_filter]
    exact and_congr_left fun hp => h p hp

lemma intervals_nil (q : TimeQuery) : intervals [] q = [] := by
  have hrows : carryState [] q = [] := by simp [carryState, sort, nameSet]
  rw [intervals, hrows, List.filter_nil, ite_self]
  simp [collapse, sort, runs]

/-- What a query refuses does not matter as long as none of it is carried into the window. -/
lemma intervals_congr_of_not_isEarlier (h : SameAccepted q points points') (hp : ∀ p ∈ points, ¬ IsEarlier q p)
    (hp' : ∀ p ∈ points', ¬ IsEarlier q p) : intervals points q = intervals points' q :=
  intervals_congr h fun _ p hearlier => iff_of_false (fun hmem => hp p hmem hearlier) fun hmem => hp' p hmem hearlier

/-! ### Queries about what is before an instant -/

section Before

variable {endTime : Option Instant} {property : TimeProperty} {inclusive : Bool}
  (hq : TimeQuery.ofParts (some .before) (some bound) endTime property inclusive = .ok q)

include hq

lemma eq_of_ofParts_before : q = ⟨.before bound, property, inclusive⟩ := by
  cases endTime with
  | some stop => cases hq
  | none =>
    cases hq
    rfl

/-- Only points that are not later than the low water mark are carried into the window. -/
lemma isEarlier_iff_of_before : IsEarlier q p ↔ q.accepts p.time = false ∧ p.time ≤ lowWaterMark := by
  rw [eq_of_ofParts_before hq]
  rfl

lemma time_le_of_accepts_before {t : Instant} (h : q.accepts t = true) : t ≤ bound := by
  rw [eq_of_ofParts_before hq] at h
  cases inclusive with
  | true => exact of_decide_eq_true h
  | false => exact (of_decide_eq_true h : t < bound).le

/-- What is not later than something accepted is accepted. -/
lemma accepts_of_le_before {t t' : Instant} (h : q.accepts t' = true) (hle : t ≤ t') : q.accepts t = true := by
  rw [eq_of_ofParts_before hq] at h ⊢
  cases inclusive with
  | true => exact decide_eq_true (hle.trans (of_decide_eq_true h))
  | false => exact decide_eq_true (hle.trans_lt (of_decide_eq_true h))

lemma not_isEarlier_of_accepts_lowWaterMark (h : q.accepts lowWaterMark = true) : ¬ IsEarlier q p := by
  rw [isEarlier_iff_of_before hq]
  rintro ⟨hrefused, hle⟩
  rw [accepts_of_le_before hq h hle] at hrefused
  cases hrefused

lemma intervals_before (points : List TimelinePoint) : intervals points q = collapse (carryState points q) := by
  rw [eq_of_ofParts_before hq]
  rfl

/-- An interval stops at the bound at the latest, or it stops at the low water mark, to which a point has been
carried. -/
lemma stop_le_or_exists_isEarlier (hi : i ∈ intervals points q) :
    i.stop ≤ bound ∨ i.stop = lowWaterMark ∧ ∃ p ∈ points, IsEarlier q p := by
  rw [intervals_before hq] at hi
  obtain ⟨p, hp, -, -, hstop⟩ := exists_stop_of_mem_collapse hi
  have hwindow : q.window = ⟨lowWaterMark, bound⟩ := by
    rw [eq_of_ofParts_before hq]
    rfl
  rw [← hstop]
  rcases mem_carryState_iff.1 hp with (⟨-, haccepts⟩ | ⟨htime, hlast⟩) | ⟨htime, -⟩
  · exact Or.inl (time_le_of_accepts_before hq haccepts)
  · obtain ⟨r, hr, -⟩ := List.mem_map.1 (mem_map_of_lastResult hlast)
    obtain ⟨hmem, hearlier⟩ := mem_earlierThan.1 hr
    exact Or.inr ⟨htime.trans (congrArg TimeWindow.start hwindow), r, hmem, hearlier⟩
  · exact Or.inl (htime.trans (congrArg TimeWindow.stop hwindow)).le

/-- A true point at the low water mark that is refused covers its entity there. -/
lemma covers_of_refused (h : q.accepts lowWaterMark = false) :
    covers (intervals [⟨e, lowWaterMark, true⟩] q) e lowWaterMark = true := by
  have hearlier : IsEarlier q ⟨e, lowWaterMark, true⟩ := (isEarlier_iff_of_before hq).2 ⟨h, le_rfl⟩
  have hone : OnePerTime [(⟨e, lowWaterMark, true⟩ : TimelinePoint)] := by simp [OnePerTime]
  have hlast : lastResult (earlierThan q [⟨e, lowWaterMark, true⟩]) e = some true :=
    (lastResult_earlier_eq_some_iff hone).2
      ⟨_, ⟨List.mem_singleton_self _, rfl, hearlier, by simp⟩, rfl⟩
  have hrow : (⟨e, lowWaterMark, true⟩ : TimelinePoint) ∈ carryState [⟨e, lowWaterMark, true⟩] q := by
    refine mem_carryState_iff.2 (Or.inl (Or.inr ⟨?_, hlast⟩))
    rw [eq_of_ofParts_before hq]
    rfl
  rw [intervals_before hq]
  exact covers_collapse_of_mem hrow rfl

/-- **When a query ignores what it refuses.**  Take a query about what is before an instant. Its intervals depend on
the points that it accepts only, just when it accepts the low water mark; they stop at its bound at the latest, just
when the bound is not before the mark. None of them stops before it starts. Timelines without a refused point that is
not later than the mark have the same intervals if they have the same accepted points, whatever the bound is, and
these stop at the bound at the latest. -/
theorem ignores_refused_iff_accepts_lowWaterMark :
    ((∀ points points', SameAccepted q points points' → intervals points q = intervals points' q) ↔
        q.accepts lowWaterMark = true) ∧
      ((∀ points, ∀ i ∈ intervals points q, i.stop ≤ bound) ↔ lowWaterMark ≤ bound) ∧
      (∀ points, ∀ i ∈ intervals points q, i.start ≤ i.stop) ∧
      ∀ points : List TimelinePoint, (∀ p ∈ points, q.accepts p.time = false → lowWaterMark < p.time) →
        (∀ i ∈ intervals points q, i.stop ≤ bound) ∧
          ∀ points' : List TimelinePoint, (∀ p ∈ points', q.accepts p.time = false → lowWaterMark < p.time) →
            SameAccepted q points points' → intervals points q = intervals points' q := by
  have hnot : ∀ points : List TimelinePoint, (∀ p ∈ points, q.accepts p.time = false → lowWaterMark < p.time) →
      ∀ p ∈ points, ¬ IsEarlier q p := by
    intro points hlate p hp hearlier
    obtain ⟨hrefused, hle⟩ := (isEarlier_iff_of_before hq).1 hearlier
    exact absurd hle (not_le_of_gt (hlate p hp hrefused))
  refine ⟨⟨fun hall => ?_, fun haccepts points points' hsame => ?_⟩, ⟨fun hall => ?_, fun hle points i hi => ?_⟩,
    fun points i hi => ?_, fun points hlate => ⟨fun i hi => ?_, fun points' hlate' hsame => ?_⟩⟩
  · -- a refused point at the mark makes a difference
    by_contra hrefused
    rw [Bool.not_eq_true] at hrefused
    have hsame : SameAccepted q [⟨"", lowWaterMark, true⟩] [] := by
      intro p hp
      refine iff_of_false (fun hmem => ?_) List.not_mem_nil
      rw [List.mem_singleton.1 hmem, hrefused] at hp
      cases hp
    have hcovers := covers_of_refused hq (e := "") hrefused
    rw [hall _ _ hsame, intervals_nil] at hcovers
    cases hcovers
  · exact intervals_congr_of_not_isEarlier hsame (fun _ _ => not_isEarlier_of_accepts_lowWaterMark hq haccepts)
      fun _ _ => not_isEarlier_of_accepts_lowWaterMark hq haccepts
  · by_contra hlt
    have hrefused : q.accepts lowWaterMark = false := by
      rw [← Bool.not_eq_true]
      exact fun haccepts => hlt (time_le_of_accepts_before hq haccepts)
    obtain ⟨i, hi, -, -, hstop⟩ := covers_iff.1 (covers_of_refused hq (e := "") hrefused)
    exact hlt (hstop.trans (hall _ i hi))
  · rcases stop_le_or_exists_isEarlier hq hi with hstop | ⟨hstop, -⟩
    · exact hstop
    · exact hstop.le.trans hle
  · rw [intervals_before hq] at hi
    exact start_le_stop_of_mem_collapse hi
  · rcases stop_le_or_exists_isEarlier hq hi with hstop | ⟨-, p, hp, hearlier⟩
    · exact hstop
    · exact absurd hearlier (hnot points hlate p hp)
  · exact intervals_congr_of_not_isEarlier hsame (hnot points hlate) (hnot points' hlate')

end Before

/-- The query for what is in the first ten seconds. -/
def firstTenSeconds : TimeQuery := ⟨.before (.ofSecond 10), .observedAt, true⟩

/-- A point that is false, and a true one three seconds after it. -/
def falseThenTrue : List TimelinePoint := [⟨"urn:a", .ofSecond 1, false⟩, ⟨"urn:a", .ofSecond 4, true⟩]

/-- A point after the ten seconds makes no difference. -/
theorem ignores_refused_iff_accepts_lowWaterMark_firstTenSeconds :
    TimeQuery.ofParts (some .before) (some (.ofSecond 10)) none .observedAt true = .ok firstTenSeconds ∧
      intervals (falseThenTrue ++ [⟨"urn:a", .ofSecond 12, false⟩]) firstTenSeconds =
        intervals falseThenTrue firstTenSeconds ∧
      ∀ i ∈ intervals falseThenTrue firstTenSeconds, i.stop ≤ .ofSecond 10 := by
  have hq : TimeQuery.ofParts (some .before) (some (.ofSecond 10)) none .observedAt true = .ok firstTenSeconds := rfl
  obtain ⟨hignores, hstops, -⟩ := ignores_refused_iff_accepts_lowWaterMark hq
  have hsame : SameAccepted firstTenSeconds (falseThenTrue ++ [⟨"urn:a", .ofSecond 12, false⟩]) falseThenTrue := by
    intro p hp
    have hne : p ≠ ⟨"urn:a", .ofSecond 12, false⟩ := by
      rintro rfl
      exact absurd hp (by decide)
    simp [hne]
  exact ⟨hq, hignores.2 (by decide) _ _ hsame, hstops.2 (by decide) falseThenTrue⟩

/-- The query for what is until five seconds before the low water mark. -/
def untilBeforeMark : TimeQuery := ⟨.before (.ofSecond (-5)), .observedAt, true⟩

/-- A point that is refused since it is four seconds too late makes an interval that ends after the bound. -/
theorem exists_intervals_ne_of_sameAccepted :
    TimeQuery.ofParts (some .before) (some (.ofSecond (-5))) none .observedAt true = .ok untilBeforeMark ∧
      ∃ points : List TimelinePoint, SameAccepted untilBeforeMark points [] ∧
        intervals [] untilBeforeMark = [] ∧
        intervals points untilBeforeMark = [⟨"urn:a", .ofSecond (-5), .ofSecond 0⟩] := by
  refine ⟨rfl, [⟨"urn:a", .ofSecond (-1), true⟩], fun p hp => ?_, intervals_nil _, ?_⟩
  · refine iff_of_false (fun hmem => ?_) List.not_mem_nil
    rw [List.mem_singleton.1 hmem] at hp
    exact absurd hp (by decide)
  · -- the result is carried to both ends of the window, of which the start is the later one
    have hcarry : carryState [⟨"urn:a", .ofSecond (-1), true⟩] untilBeforeMark =
        [⟨"urn:a", .ofSecond 0, true⟩, ⟨"urn:a", .ofSecond (-5), true⟩] := by
      rw [carryState, sort, List.mergeSort_singleton]
      rfl
    have hsorted : sort [⟨"urn:a", .ofSecond 0, true⟩, ⟨"urn:a", .ofSecond (-5), true⟩] =
        [⟨"urn:a", .ofSecond (-5), true⟩, ⟨"urn:a", .ofSecond 0, true⟩] := by
      simp +decide [sort, List.mergeSort, List.MergeSort.Internal.splitInTwo]
    have hcarries : untilBeforeMark.carriesState = true := by decide
    rw [intervals, if_pos hcarries, hcarry, collapse, hsorted]
    rfl

end EntityHistory.TimelinePoint
