/-
Carrying states into and out of a window.

A query about one side of an instant extends a timeline at both ends of its window. At the start it adds a
row with the last result from before the window, at the end one with the last result of all. The state of an
entity at an instant is the result of the last of its points until then, among those that the query accepts
and those from before the window. The intervals of the extended timeline say nothing wrong about the state,
with one exception: if a point that is accepted lies on the start of the window and is false, while a true
state is carried in, then the carried row comes after the point. The entity is covered at the start of the
window then although its state is false, and if the next accepted point is true, it is covered up to it.

* `TimelinePoint.mem_carryState_iff`: the rows of an extended timeline;
* `TimelinePoint.stateTrue_or_overridden_of_covers`: coverage and state until the next point;
* `TimelinePoint.covers_of_stateTrue`: true states are covered at the ends of the window and at each point;
* `TimelinePoint.stateTrue_of_covers_iff_not_overridden`: the exception is the only one.
-/
import EntityHistory.Proofs.Names
import EntityHistory.Proofs.Timeline.Collapse

namespace EntityHistory.TimelinePoint

/-! ### The state of an entity -/

/-- A point is the last of an entity among those with a property. -/
structure IsLast (P : TimelinePoint → Prop) (points : List TimelinePoint) (e : String)
    (p : TimelinePoint) : Prop where
  mem : p ∈ points
  entity : p.entityId = e
  property : P p
  latest : ∀ r ∈ points, r.entityId = e → P r → r.time ≤ p.time

/-- A point is from before the window of a query, or at its start and not accepted. -/
def IsEarlier (q : TimeQuery) (p : TimelinePoint) : Prop :=
  q.accepts p.time = false ∧ p.time ≤ q.window.start

/-- A point has a say in the state: the query accepts it, or it is not later than the window's start. -/
def Counts (q : TimeQuery) (p : TimelinePoint) : Prop :=
  q.accepts p.time = true ∨ p.time ≤ q.window.start

/-- The last point of an entity until an instant, among those that count, is true. -/
def StateTrue (points : List TimelinePoint) (q : TimeQuery) (e : String) (t : Instant) : Prop :=
  ∃ p, IsLast (fun p => Counts q p ∧ p.time ≤ t) points e p ∧ p.result = true

/-- A true state is carried into a window on whose start lies an accepted point that is false. -/
def Overridden (points : List TimelinePoint) (q : TimeQuery) (e : String) : Prop :=
  (∃ p ∈ points, p.entityId = e ∧ q.accepts p.time = true ∧ p.time = q.window.start ∧ p.result = false) ∧
    ∃ p, IsLast (IsEarlier q) points e p ∧ p.result = true

/-- No entity has two different points at one time. -/
def OnePerTime (points : List TimelinePoint) : Prop :=
  ∀ p ∈ points, ∀ r ∈ points, p.entityId = r.entityId → p.time = r.time → p = r

variable {points l : List TimelinePoint} {q : TimeQuery} {e : String} {t : Instant}
  {p r : TimelinePoint} {result : Bool}

/-! ### The last result -/

lemma isBefore_of_time_le (h : OnePerTime points) (hp : p ∈ points) (hr : r ∈ points)
    (he : p.entityId = r.entityId) (ht : p.time ≤ r.time) : p.isBefore r = true := by
  rcases ht.lt_or_eq with hlt | heq
  · exact (isBefore_iff_of_eq he).2 (Or.inl hlt)
  · rw [h p hp r hr he heq]
    exact isBefore_refl r

/-- In the sorted points with a property, the last result is that of the last point. -/
lemma lastResult_eq_some_iff (h : OnePerTime points) (P : TimelinePoint → Bool) :
    lastResult ((sort points).filter P) e = some result ↔
      ∃ p, IsLast (fun p => P p = true) points e p ∧ p.result = result := by
  have hsorted : (((sort points).filter P).filter fun p => p.entityId = e).Pairwise
      fun p r => p.isBefore r = true := ((pairwise_sort points).filter _).filter _
  have hmem : ∀ p, p ∈ ((sort points).filter P).filter (fun p => p.entityId = e) ↔
      p ∈ points ∧ P p = true ∧ p.entityId = e := by
    intro p
    simp only [List.mem_filter, mem_sort, decide_eq_true_eq, and_assoc]
  rw [lastResult, Option.map_eq_some_iff]
  constructor
  · rintro ⟨p, hp, rfl⟩
    obtain ⟨hpp, hP, hpe⟩ := (hmem p).1 (List.mem_of_getLast? hp)
    refine ⟨p, ⟨hpp, hpe, hP, fun r hr hre hPr => ?_⟩, rfl⟩
    exact time_le_of_isBefore (isBefore_getLast hsorted hp ((hmem r).2 ⟨hr, hPr, hre⟩))
      (hre.trans hpe.symm)
  · rintro ⟨p, ⟨hpp, hpe, hP, hlatest⟩, rfl⟩
    refine ⟨p, (getLast?_eq_some_iff hsorted).2 ⟨(hmem p).2 ⟨hpp, hP, hpe⟩, fun r hr => ?_⟩, rfl⟩
    obtain ⟨hrp, hPr, hre⟩ := (hmem r).1 hr
    exact isBefore_of_time_le h hrp hpp (hre.trans hpe.symm) (hlatest r hrp hre hPr)

lemma lastResult_eq_none_iff (P : TimelinePoint → Bool) :
    lastResult ((sort points).filter P) e = none ↔ ∀ p ∈ points, p.entityId = e → P p = false := by
  rw [lastResult, Option.map_eq_none_iff, List.getLast?_eq_none_iff, List.filter_eq_nil_iff]
  constructor
  · intro h p hp he
    by_contra hP
    exact h p (List.mem_filter.2 ⟨mem_sort.2 hp, by simpa using hP⟩) (by simpa using he)
  · intro h p hp
    obtain ⟨hp, hP⟩ := List.mem_filter.1 hp
    intro he
    have hfalse := h p (mem_sort.1 hp) (by simpa using he)
    simp [hfalse] at hP

/-! ### The rows of an extended timeline -/

/-- The accepted points of a timeline in their order. -/
def acceptedBy (q : TimeQuery) (points : List TimelinePoint) : List TimelinePoint :=
  (sort points).filter fun p => q.accepts p.time

/-- The points of a timeline that are refused and not later than the start of the window, in their order. -/
def earlierThan (q : TimeQuery) (points : List TimelinePoint) : List TimelinePoint :=
  (sort points).filter fun p => !q.accepts p.time && p.time ≤ q.window.start

lemma mem_earlierThan : p ∈ earlierThan q points ↔ p ∈ points ∧ IsEarlier q p := by
  simp [earlierThan, IsEarlier]

/-- What has a last result is an entity of the points. -/
lemma mem_map_of_lastResult {result : Bool} (h : lastResult l e = some result) : e ∈ l.map (·.entityId) := by
  obtain ⟨p, hp, -⟩ := Option.map_eq_some_iff.1 h
  obtain ⟨hmem, he⟩ := List.mem_filter.1 (List.mem_of_getLast? hp)
  exact List.mem_map.2 ⟨p, hmem, of_decide_eq_true he⟩

/-- The rows of some entities at one time. -/
lemma mem_rowsAt {es : List String} {results : String → Option Bool} {time : Instant} :
    p ∈ es.filterMap (fun e => (results e).map fun result => (⟨e, time, result⟩ : TimelinePoint)) ↔
      p.entityId ∈ es ∧ p.time = time ∧ results p.entityId = some p.result := by
  simp only [List.mem_filterMap, Option.map_eq_some_iff]
  constructor
  · rintro ⟨e, he, result, hresult, rfl⟩
    exact ⟨he, rfl, hresult⟩
  · rintro ⟨he, rfl, hresult⟩
    exact ⟨p.entityId, he, p.result, hresult, rfl⟩

/-- The rows are the accepted points, the last results from before at the start of the window, and at its end
the last accepted results, or the last ones from before where nothing is accepted. -/
lemma mem_carryState_iff : p ∈ carryState points q ↔
    (p ∈ points ∧ q.accepts p.time = true ∨
      p.time = q.window.start ∧ lastResult (earlierThan q points) p.entityId = some p.result) ∨
      p.time = q.window.stop ∧ (lastResult (acceptedBy q points) p.entityId).or
        (lastResult (earlierThan q points) p.entityId) = some p.result := by
  have hrows : carryState points q = acceptedBy q points ++
      (nameSet ((earlierThan q points ++ acceptedBy q points).map (·.entityId))).filterMap (fun e =>
        (lastResult (earlierThan q points) e).map fun result => ⟨e, q.window.start, result⟩) ++
      (nameSet ((earlierThan q points ++ acceptedBy q points).map (·.entityId))).filterMap fun e =>
        ((lastResult (acceptedBy q points) e).or (lastResult (earlierThan q points) e)).map fun result =>
          ⟨e, q.window.stop, result⟩ := rfl
  simp only [hrows, List.mem_append, mem_rowsAt, mem_nameSet, List.map_append]
  refine or_congr (or_congr (by simp [acceptedBy]) ?_) ?_
  · refine and_iff_right_of_imp fun h => ?_
    exact Or.inl (mem_map_of_lastResult h.2)
  · refine and_iff_right_of_imp fun h => ?_
    rcases Option.or_eq_some_iff.1 h.2 with h | ⟨-, h⟩
    · exact Or.inr (mem_map_of_lastResult h)
    · exact Or.inl (mem_map_of_lastResult h)

/-- The window of a query does not end before it starts, and the points that the query accepts lie in it. -/
structure Framed (points : List TimelinePoint) (q : TimeQuery) : Prop where
  start_le_stop : q.window.start ≤ q.window.stop
  accepted : ∀ p ∈ points, q.accepts p.time = true → q.window.start ≤ p.time ∧ p.time ≤ q.window.stop

lemma Framed.le_stop (hf : Framed points q) (hp : p ∈ points) (hc : Counts q p) : p.time ≤ q.window.stop := by
  rcases hc with ha | hle
  · exact (hf.accepted p hp ha).2
  · exact hle.trans hf.start_le_stop

/-- What counts and is not accepted is from before what is accepted. -/
lemma Framed.lt_of_accepts (hf : Framed points q) (hp : p ∈ points) (hpa : q.accepts p.time = true)
    (hr : Counts q r) (hra : q.accepts r.time = false) : r.time < p.time := by
  have hle : r.time ≤ q.window.start := hr.resolve_left (by simp [hra])
  refine lt_of_le_of_ne (hle.trans (hf.accepted p hp hpa).1) fun heq => ?_
  rw [heq, hpa] at hra
  exact absurd hra (by simp)

lemma lastResult_accepted_eq_some_iff (h : OnePerTime points) :
    lastResult ((sort points).filter fun p => q.accepts p.time) e = some result ↔
      ∃ p, IsLast (fun p => q.accepts p.time = true) points e p ∧ p.result = result :=
  lastResult_eq_some_iff h fun p => q.accepts p.time

lemma lastResult_earlier_eq_some_iff (h : OnePerTime points) :
    lastResult ((sort points).filter fun p => !q.accepts p.time && p.time ≤ q.window.start) e = some result ↔
      ∃ p, IsLast (IsEarlier q) points e p ∧ p.result = result := by
  have hP : (fun p : TimelinePoint => (!q.accepts p.time && decide (p.time ≤ q.window.start)) = true) =
      IsEarlier q := by
    funext p
    simp [IsEarlier]
  rw [lastResult_eq_some_iff h fun p => !q.accepts p.time && p.time ≤ q.window.start, hP]

/-- The last accepted result, or else the last from before, is the last of all that count. -/
lemma lastResult_or_eq_some_iff (h : OnePerTime points) (hf : Framed points q) :
    (lastResult ((sort points).filter fun p => q.accepts p.time) e).or
        (lastResult ((sort points).filter fun p => !q.accepts p.time && p.time ≤ q.window.start) e) =
      some result ↔ ∃ p, IsLast (Counts q) points e p ∧ p.result = result := by
  cases haccepted : lastResult ((sort points).filter fun p => q.accepts p.time) e with
  | none =>
    -- all that counts is from before the window
    have hnone := (lastResult_eq_none_iff fun p => q.accepts p.time).1 haccepted
    rw [Option.none_or, lastResult_earlier_eq_some_iff h]
    constructor
    · rintro ⟨p, ⟨hp, he, ⟨-, hle⟩, hlatest⟩, hresult⟩
      refine ⟨p, ⟨hp, he, Or.inr hle, fun r hr hre hcr => hlatest r hr hre ?_⟩, hresult⟩
      have hra := hnone r hr hre
      exact ⟨hra, hcr.resolve_left (by simp [hra])⟩
    · rintro ⟨p, ⟨hp, he, hc, hlatest⟩, hresult⟩
      have hpa := hnone p hp he
      refine ⟨p, ⟨hp, he, ⟨hpa, hc.resolve_left (by simp [hpa])⟩, fun r hr hre hearlier => ?_⟩, hresult⟩
      exact hlatest r hr hre (Or.inr hearlier.2)
  | some last =>
    -- the last accepted point is also later than all that is from before the window
    obtain ⟨a, ⟨ha, hae, haa, halatest⟩, rfl⟩ := (lastResult_accepted_eq_some_iff h).1 haccepted
    have hlast : IsLast (Counts q) points e a := by
      refine ⟨ha, hae, Or.inl haa, fun r hr hre hcr => ?_⟩
      cases hra : q.accepts r.time with
      | true => exact halatest r hr hre hra
      | false => exact (hf.lt_of_accepts ha haa hcr hra).le
    rw [Option.some_or, Option.some.injEq]
    constructor
    · exact fun hresult => ⟨a, hlast, hresult⟩
    · rintro ⟨p, hp, hresult⟩
      have htime : a.time = p.time :=
        le_antisymm (hp.latest a ha hae (Or.inl haa)) (hlast.latest p hp.mem hp.entity hp.property)
      rw [h a ha p hp.mem (hae.trans hp.entity.symm) htime]
      exact hresult

/-- The rows are the accepted points, the last results from before at the start of the window, and the last
results of all at its end. -/
lemma mem_carryState (h : OnePerTime points) (hf : Framed points q) : p ∈ carryState points q ↔
    (p ∈ points ∧ q.accepts p.time = true ∨
      p.time = q.window.start ∧ ∃ r, IsLast (IsEarlier q) points p.entityId r ∧ r.result = p.result) ∨
      p.time = q.window.stop ∧ ∃ r, IsLast (Counts q) points p.entityId r ∧ r.result = p.result := by
  rw [mem_carryState_iff, acceptedBy, earlierThan, lastResult_earlier_eq_some_iff h, lastResult_or_eq_some_iff h hf]

/-! ### Coverage and state -/

/-- Where an entity is covered its state is true, unless a true state was carried in over an accepted false
point and no later point has been accepted since. -/
theorem stateTrue_or_overridden_of_covers (h : OnePerTime points) (hf : Framed points q)
    (ht : q.window.contains t = true) (hcovers : covers (collapse (carryState points q)) e t = true) :
    StateTrue points q e t ∨ Overridden points q e ∧
      ∀ p ∈ points, p.entityId = e → q.accepts p.time = true → p.time ≤ t → p.time = q.window.start := by
  obtain ⟨hstart, hstop⟩ : q.window.start ≤ t ∧ t ≤ q.window.stop := by simpa [TimeWindow.contains] using ht
  obtain ⟨row, hrow, hrowe, hrowt, hresult, hlatest⟩ := exists_last_of_covers hcovers
  have hrows : ∀ a ∈ points, a.entityId = e → q.accepts a.time = true → a.time ≤ t → a.isBefore row = true :=
    fun a ha hae haa hat => hlatest a ((mem_carryState h hf).2 (Or.inl (Or.inl ⟨ha, haa⟩))) hae hat
  have htimes : ∀ a ∈ points, a.entityId = e → q.accepts a.time = true → a.time ≤ t → a.time ≤ row.time :=
    fun a ha hae haa hat => time_le_of_isBefore (hrows a ha hae haa hat) (hae.trans hrowe.symm)
  rcases (mem_carryState h hf).1 hrow with (⟨hp, hpa⟩ | ⟨htime, r, hr, hrr⟩) | ⟨htime, r, hr, hrr⟩
  · -- the last row is an accepted point
    refine Or.inl ⟨row, ⟨hp, hrowe, ⟨Or.inl hpa, hrowt⟩, fun a ha hae hca => ?_⟩, hresult⟩
    cases haa : q.accepts a.time with
    | true => exact htimes a ha hae haa hca.2
    | false => exact (hf.lt_of_accepts hp hpa hca.1 haa).le
  · -- the last row is carried in, so that what is accepted until then lies at the start
    rw [hrowe] at hr
    have hatstart : ∀ a ∈ points, a.entityId = e → q.accepts a.time = true → a.time ≤ t →
        a.time = q.window.start := fun a ha hae haa hat =>
      le_antisymm ((htimes a ha hae haa hat).trans htime.le) (hf.accepted a ha haa).1
    by_cases hex : ∃ a ∈ points, a.entityId = e ∧ q.accepts a.time = true ∧ a.time ≤ t
    · obtain ⟨a, ha, hae, haa, hat⟩ := hex
      have hastart := hatstart a ha hae haa hat
      cases haresult : a.result with
      | true =>
        refine Or.inl ⟨a, ⟨ha, hae, ⟨Or.inl haa, hat⟩, fun b hb hbe hcb => ?_⟩, haresult⟩
        rw [hastart]
        rcases hcb.1 with hba | hble
        · exact (hatstart b hb hbe hba hcb.2).le
        · exact hble
      | false => exact Or.inr ⟨⟨⟨a, ha, hae, haa, hastart, haresult⟩, r, hr, hrr.trans hresult⟩, hatstart⟩
    · refine Or.inl ⟨r, ⟨hr.mem, hr.entity, ⟨Or.inr hr.property.2, hr.property.2.trans hstart⟩,
        fun a ha hae hca => ?_⟩, hrr.trans hresult⟩
      have haa : q.accepts a.time = false := by
        by_contra haa
        exact hex ⟨a, ha, hae, by simpa using haa, hca.2⟩
      exact hr.latest a ha hae ⟨haa, hca.1.resolve_left (by simp [haa])⟩
  · -- the last row is at the end, with the last result of all
    rw [hrowe] at hr
    have hend : t = q.window.stop := le_antisymm hstop (htime ▸ hrowt)
    refine Or.inl ⟨r, ⟨hr.mem, hr.entity, ⟨hr.property, ?_⟩, fun a ha hae hca => ?_⟩, hrr.trans hresult⟩
    · rw [hend]
      exact hf.le_stop hr.mem hr.property
    · exact hr.latest a ha hae hca.1

/-- The ends of the window and the times of the accepted points of an entity. -/
def IsMark (points : List TimelinePoint) (q : TimeQuery) (e : String) (t : Instant) : Prop :=
  t = q.window.start ∨ t = q.window.stop ∨
    ∃ p ∈ points, p.entityId = e ∧ q.accepts p.time = true ∧ p.time = t

/-- An entity whose state is true is covered at the ends of the window and at its accepted points. -/
theorem covers_of_stateTrue (h : OnePerTime points) (hf : Framed points q) (hmark : IsMark points q e t)
    (hstate : StateTrue points q e t) : covers (collapse (carryState points q)) e t = true := by
  obtain ⟨p, hp, hresult⟩ := hstate
  have hrow : ∀ row, row ∈ carryState points q → row.entityId = e → row.time = t → row.result = true →
      covers (collapse (carryState points q)) e t = true := by
    rintro row hmem rfl rfl htrue
    exact covers_collapse_of_mem hmem htrue
  rcases hmark with rfl | rfl | ⟨a, ha, hae, haa, rfl⟩
  · cases hpa : q.accepts p.time with
    | true =>
      have htime : p.time = q.window.start := le_antisymm hp.property.2 (hf.accepted p hp.mem hpa).1
      exact hrow p ((mem_carryState h hf).2 (Or.inl (Or.inl ⟨hp.mem, hpa⟩))) hp.entity htime hresult
    | false =>
      have hlast : IsLast (IsEarlier q) points e p :=
        ⟨hp.mem, hp.entity, ⟨hpa, hp.property.2⟩, fun r hr hre hearlier =>
          hp.latest r hr hre ⟨Or.inr hearlier.2, hearlier.2⟩⟩
      exact hrow ⟨e, q.window.start, true⟩
        ((mem_carryState h hf).2 (Or.inl (Or.inr ⟨rfl, p, hlast, hresult⟩))) rfl rfl rfl
  · have hlast : IsLast (Counts q) points e p :=
      ⟨hp.mem, hp.entity, hp.property.1, fun r hr hre hc => hp.latest r hr hre ⟨hc, hf.le_stop hr hc⟩⟩
    exact hrow ⟨e, q.window.stop, true⟩ ((mem_carryState h hf).2 (Or.inr ⟨rfl, p, hlast, hresult⟩)) rfl rfl rfl
  · have htime : p.time = a.time :=
      le_antisymm hp.property.2 (hp.latest a ha hae ⟨Or.inl haa, le_rfl⟩)
    have hpa : q.accepts p.time = true := by rw [htime]; exact haa
    exact hrow p ((mem_carryState h hf).2 (Or.inl (Or.inl ⟨hp.mem, hpa⟩))) hp.entity htime hresult

/-- A true state that is carried in over a false point covers the start of the window, where the state is
false. -/
lemma covers_and_not_stateTrue_of_overridden (h : OnePerTime points) (hf : Framed points q)
    (hover : Overridden points q e) :
    covers (collapse (carryState points q)) e q.window.start = true ∧
      ¬ StateTrue points q e q.window.start := by
  obtain ⟨⟨a, ha, hae, haa, htime, hfalse⟩, r, hr, htrue⟩ := hover
  constructor
  · have hrow : (⟨e, q.window.start, true⟩ : TimelinePoint) ∈ carryState points q :=
      (mem_carryState h hf).2 (Or.inl (Or.inr ⟨rfl, r, hr, htrue⟩))
    exact covers_collapse_of_mem hrow rfl
  · rintro ⟨p, hp, hresult⟩
    have hsame : p.time = a.time :=
      le_antisymm (hp.property.2.trans htime.ge) (hp.latest a ha hae ⟨Or.inl haa, htime.le⟩)
    rw [h p hp.mem a ha (hp.entity.trans hae.symm) hsame, hfalse] at hresult
    exact absurd hresult (by simp)

/-! ### Queries about one side of an instant -/

/-- A query about one side of an instant between the marks frames the points between the marks. -/
lemma framed_of_ofParts {relation : TimeRelation} {bound : Instant} {endTime : Option Instant}
    {property : TimeProperty} {inclusive : Bool} (hrelation : relation ≠ .between)
    (hq : TimeQuery.ofParts (some relation) (some bound) endTime property inclusive = .ok q)
    (hbound : lowWaterMark ≤ bound ∧ bound ≤ highWaterMark)
    (htimes : ∀ p ∈ points, lowWaterMark ≤ p.time ∧ p.time ≤ highWaterMark) :
    q.carriesState = true ∧ Framed points q := by
  cases endTime with
  | some stop => cases relation <;> contradiction
  | none =>
    cases relation with
    | between => contradiction
    | before =>
      cases hq
      refine ⟨rfl, hbound.1, fun p hp ha => ⟨(htimes p hp).1, ?_⟩⟩
      cases inclusive
      · exact (of_decide_eq_true ha : p.time < bound).le
      · exact of_decide_eq_true ha
    | after =>
      cases hq
      refine ⟨rfl, hbound.2, fun p hp ha => ⟨?_, (htimes p hp).2⟩⟩
      cases inclusive
      · exact (of_decide_eq_true ha : bound < p.time).le
      · exact of_decide_eq_true ha

/-- All that the intervals of a timeline cover of an entity is true just when no true state is carried in over
a false point. What they cover wrongly otherwise lies before the next accepted point. At the ends of the
window and at the accepted points they cover every true state. -/
theorem stateTrue_of_covers_iff_not_overridden {relation : TimeRelation} {bound : Instant}
    {endTime : Option Instant} {property : TimeProperty} {inclusive : Bool} (hrelation : relation ≠ .between)
    (hq : TimeQuery.ofParts (some relation) (some bound) endTime property inclusive = .ok q)
    (hbound : lowWaterMark ≤ bound ∧ bound ≤ highWaterMark)
    (htimes : ∀ p ∈ points, lowWaterMark ≤ p.time ∧ p.time ≤ highWaterMark)
    (h : OnePerTime points) (e : String) :
    ((∀ t, q.window.contains t = true → covers (intervals points q) e t = true → StateTrue points q e t) ↔
        ¬ Overridden points q e) ∧
      (∀ t, q.window.contains t = true → covers (intervals points q) e t = true →
        ¬ StateTrue points q e t → ∀ p ∈ points, p.entityId = e → q.accepts p.time = true → p.time ≤ t →
          p.time = q.window.start) ∧
      ∀ t, IsMark points q e t → StateTrue points q e t → covers (intervals points q) e t = true := by
  obtain ⟨hcarries, hf⟩ := framed_of_ofParts hrelation hq hbound htimes
  have hintervals : intervals points q = collapse (carryState points q) := by
    rw [intervals, if_pos hcarries]
  rw [hintervals]
  refine ⟨⟨fun hall hover => ?_, fun hover t ht hcovers => ?_⟩, fun t ht hcovers hstate => ?_,
    fun t hmark hstate => covers_of_stateTrue h hf hmark hstate⟩
  · obtain ⟨hcovers, hstate⟩ := covers_and_not_stateTrue_of_overridden h hf hover
    exact hstate (hall _ (by simp [TimeWindow.contains, hf.start_le_stop]) hcovers)
  · exact (stateTrue_or_overridden_of_covers h hf ht hcovers).resolve_right fun ho => hover ho.1
  · exact ((stateTrue_or_overridden_of_covers h hf ht hcovers).resolve_left hstate).2

/-- A point that is true, and a false one four seconds after it. -/
def trueThenFalse : List TimelinePoint := [⟨"urn:a", .ofSecond 1, true⟩, ⟨"urn:a", .ofSecond 5, false⟩]

/-- The query for what is at the false point or after it. -/
def fromFalse : TimeQuery := ⟨.after (.ofSecond 5), .observedAt, true⟩

instance (points : List TimelinePoint) : Decidable (OnePerTime points) :=
  inferInstanceAs (Decidable (∀ p ∈ points, ∀ r ∈ points, p.entityId = r.entityId → p.time = r.time → p = r))

lemma ofParts_fromFalse : TimeQuery.ofParts (some .after) (some (.ofSecond 5)) none .observedAt true =
    .ok fromFalse := rfl

lemma onePerTime_trueThenFalse : OnePerTime trueThenFalse := by decide

lemma times_trueThenFalse : ∀ p ∈ trueThenFalse, lowWaterMark ≤ p.time ∧ p.time ≤ highWaterMark := by decide

theorem stateTrue_of_covers_iff_not_overridden_trueThenFalse :
    ((∀ t, fromFalse.window.contains t = true → covers (intervals trueThenFalse fromFalse) "urn:a" t = true →
        StateTrue trueThenFalse fromFalse "urn:a" t) ↔ ¬ Overridden trueThenFalse fromFalse "urn:a") ∧
      ∀ t, IsMark trueThenFalse fromFalse "urn:a" t → StateTrue trueThenFalse fromFalse "urn:a" t →
        covers (intervals trueThenFalse fromFalse) "urn:a" t = true := by
  have h := stateTrue_of_covers_iff_not_overridden (by decide) ofParts_fromFalse (by decide) times_trueThenFalse
    onePerTime_trueThenFalse "urn:a"
  exact ⟨h.1, h.2.2⟩

lemma overridden_trueThenFalse : Overridden trueThenFalse fromFalse "urn:a" := by
  refine ⟨⟨⟨"urn:a", .ofSecond 5, false⟩, by decide⟩, ⟨"urn:a", .ofSecond 1, true⟩, ?_, rfl⟩
  refine ⟨by decide, rfl, ⟨by decide, by decide⟩, fun r hr _ hearlier => ?_⟩
  have hrs : r = ⟨"urn:a", .ofSecond 1, true⟩ ∨ r = ⟨"urn:a", .ofSecond 5, false⟩ := by
    simpa [trueThenFalse] using hr
  rcases hrs with rfl | rfl
  · exact le_rfl
  · exact absurd hearlier.1 (by decide)

/-- From the false point on the entity is covered at an instant at which its state is false. -/
theorem exists_covers_and_not_stateTrue :
    TimeQuery.ofParts (some .after) (some (.ofSecond 5)) none .observedAt true = .ok fromFalse ∧
      OnePerTime trueThenFalse ∧
      (∀ p ∈ trueThenFalse, lowWaterMark ≤ p.time ∧ p.time ≤ highWaterMark) ∧
      ∃ t, fromFalse.window.contains t = true ∧ covers (intervals trueThenFalse fromFalse) "urn:a" t = true ∧
        ¬ StateTrue trueThenFalse fromFalse "urn:a" t := by
  obtain ⟨-, hf⟩ := framed_of_ofParts (by decide) ofParts_fromFalse (by decide) times_trueThenFalse
  have hfalse := covers_and_not_stateTrue_of_overridden onePerTime_trueThenFalse hf overridden_trueThenFalse
  exact ⟨ofParts_fromFalse, onePerTime_trueThenFalse, times_trueThenFalse, fromFalse.window.start,
    by decide, hfalse⟩

end EntityHistory.TimelinePoint
