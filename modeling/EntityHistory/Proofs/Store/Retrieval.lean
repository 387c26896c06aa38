/-
Retrieving instances over intervals.

A query is answered in two steps: first come intervals, then for each of them its instances. What is retrieved
over intervals that are apart are the instances whose times they cover and which the time query accepts, each
of them once. Without a plan an entity has its whole window, in which the water marks stand for the sides that
the query leaves open: an instance beyond a mark is accepted, but not retrieved.

* `Log.instancesOver_perm`: what is retrieved over intervals that are apart;
* `Log.plain_retrieval_perm_iff`: when retrieval without a plan is complete.
-/
import Mathlib.Data.List.Nodup
import Mathlib.Data.List.Perm.Basic
import EntityHistory.Pattern.Reader
import EntityHistory.Proofs.Interval.Algebra
import EntityHistory.Proofs.Names
import EntityHistory.Proofs.Store.Memory

namespace EntityHistory

namespace TimeQuery

/-- An instant lies beyond the water mark that stands for a side which the query leaves open. -/
def IsBeyondMark (q : TimeQuery) (t : Instant) : Prop :=
  match q.bounds with
  | .unbounded => t < lowWaterMark ∨ highWaterMark < t
  | .before _ => t < lowWaterMark
  | .after _ => highWaterMark < t
  | .between _ _ => False

/-- Of what a query accepts only what lies beyond a mark is not in its window. -/
lemma contains_window_iff {q : TimeQuery} {t : Instant} (h : q.accepts t = true) :
    q.window.contains t = true ↔ ¬ q.IsBeyondMark t := by
  obtain ⟨bounds, property, inclusive⟩ := q
  simp only [TimeWindow.contains, decide_eq_true_eq]
  cases bounds with
  | unbounded => simp [window, IsBeyondMark, not_or, not_lt]
  | before bound =>
    have hle : t ≤ bound := by
      cases inclusive with
      | true => simpa [accepts] using h
      | false => exact le_of_lt (by simpa [accepts] using h)
    simp [window, IsBeyondMark, hle]
  | after bound =>
    have hle : bound ≤ t := by
      cases inclusive with
      | true => simpa [accepts] using h
      | false => exact le_of_lt (by simpa [accepts] using h)
    simp [window, IsBeyondMark, hle]
  | between start stop =>
    have hle : start ≤ t ∧ t ≤ stop := by
      cases inclusive with
      | true => simpa [accepts] using h
      | false =>
        have hlt : start < t ∧ t < stop := by simpa [accepts] using h
        exact ⟨hlt.1.le, hlt.2.le⟩
    simp [window, IsBeyondMark, hle]

end TimeQuery

namespace Log

open EntityInterval

variable {log : Log} {filter : EntityFilter} {time : TimeQuery} {intervals : List EntityInterval}
  {attributeIds candidates : List String} {limit : Nat} {order : SortOrder} {e : String}
  {i : AttributeInstance}

/-! ### Instances over intervals -/

/-- The instances that are retrieved over some intervals, with a question for each of them. -/
def instancesOver (log : Log) (intervals : List EntityInterval) (time : TimeQuery) (attributeIds : List String)
    (limit : Nat) (order : SortOrder) : List AttributeInstance :=
  intervals.flatMap fun interval => log.findInstances { interval, time, attributeIds, limit, order }

lemma admits_iff {q : InstanceQuery} : admits q i = true ↔
    (q.attributeIds = [] ∨ i.attributeId ∈ q.attributeIds) ∧ ∃ t, i.time? q.time.property = some t ∧
      q.interval.Spans i.entityId t ∧ q.time.accepts t = true := by
  simp only [admits, Bool.and_eq_true, Bool.or_eq_true, decide_eq_true_eq, List.contains_iff_mem,
    Option.any_eq_true, EntityInterval.contains, Spans]
  constructor
  · rintro ⟨⟨he, ha⟩, t, ht, hspans, haccepts⟩
    exact ⟨ha, t, ht, ⟨he.symm, hspans⟩, haccepts⟩
  · rintro ⟨ha, t, ht, ⟨he, hspans⟩, haccepts⟩
    exact ⟨⟨he.symm, ha⟩, t, ht, hspans, haccepts⟩

/-- Over intervals that are apart, the instances that they cover are retrieved, each of them once. -/
theorem instancesOver_perm (hapart : Apart intervals) (hlimit : log.instances.length ≤ limit) :
    (log.instancesOver intervals time attributeIds limit order).Perm
      (log.instances.filter fun i => (attributeIds = [] || attributeIds.contains i.attributeId) &&
        (i.time? time.property).any fun t => covers intervals i.entityId t && time.accepts t) := by
  -- an instance has one time, and no two of the intervals span it
  have hexclude : intervals.Pairwise fun a b => ∀ i ∈ log.instances,
      admits ⟨a, time, attributeIds, limit, order⟩ i = true →
        admits ⟨b, time, attributeIds, limit, order⟩ i = false := by
    refine hapart.imp fun hab i _ ha => ?_
    by_contra hb
    rw [Bool.not_eq_false, admits_iff] at hb
    rw [admits_iff] at ha
    obtain ⟨-, t, ht, hspans, -⟩ := ha
    obtain ⟨-, t', ht', hspans', -⟩ := hb
    obtain rfl : t = t' := Option.some.inj (ht.symm.trans ht')
    exact hab i.entityId t hspans hspans'
  have hcovered : ∀ i ∈ log.instances,
      (intervals.any fun interval => admits ⟨interval, time, attributeIds, limit, order⟩ i) =
        ((attributeIds = [] || attributeIds.contains i.attributeId) &&
          (i.time? time.property).any fun t => covers intervals i.entityId t && time.accepts t) := by
    intro i _
    rw [Bool.eq_iff_iff, List.any_eq_true]
    simp only [admits_iff, Bool.and_eq_true, Bool.or_eq_true, decide_eq_true_eq, List.contains_iff_mem,
      Option.any_eq_true, covers_iff]
    constructor
    · rintro ⟨interval, hinterval, ha, t, ht, hspans, haccepts⟩
      exact ⟨ha, t, ht, ⟨interval, hinterval, hspans⟩, haccepts⟩
    · rintro ⟨ha, t, ht, ⟨interval, hinterval, hspans⟩, haccepts⟩
      exact ⟨interval, hinterval, ha, t, ht, hspans, haccepts⟩
  rw [← List.filter_congr hcovered]
  refine List.Perm.trans ?_ (flatMap_filter_perm hexclude)
  exact List.Perm.flatMap_left intervals fun interval _ => findInstances_perm hlimit

/-! ### Candidates -/

/-- With a valid pattern there are candidates, each once and in order. -/
lemma exists_candidates [engine : PatternEngine] {pattern : Option engine.Compiled} (log : Log)
    (hpattern : filter.pattern = .ok pattern) :
    ∃ candidates, log.candidates filter = .ok candidates ∧ candidates.Pairwise (· < ·) := by
  refine ⟨_, by rw [candidates, hpattern]; rfl, ?_⟩
  exact (pairwise_nameSet _).filter _

lemma findIntervals_eq_ok [PatternEngine] {plan : Option Plan} (h : log.candidates filter = .ok candidates) :
    log.findIntervals ⟨filter, time, plan, none⟩ =
      .ok { intervals := EntityInterval.normalize (log.intervals candidates time plan) } := by
  rw [findIntervals, h]
  rfl

/-! ### Retrieval without a plan -/

/-- Intervals of different entities in order are in their normal form. -/
lemma mergeFrom_eq_cons {interval : EntityInterval}
    (h : (interval :: intervals).Pairwise fun a b => a.entityId < b.entityId) :
    mergeFrom interval intervals = interval :: intervals := by
  induction intervals generalizing interval with
  | nil => rfl
  | cons next rest ih =>
    obtain ⟨hinterval, hrest⟩ := List.pairwise_cons.1 h
    have hnot : interval.overlaps next = false := by
      simp [overlaps, (hinterval next (by simp)).ne]
    rw [mergeFrom, hnot, ih hrest]
    rfl

lemma sort_eq_self (h : intervals.Pairwise fun a b => a.entityId < b.entityId) : sort intervals = intervals :=
  List.mergeSort_of_pairwise (h.imp fun hlt => isBefore_iff.2 (Or.inl hlt))

lemma normalize_eq_self (h : intervals.Pairwise fun a b => a.entityId < b.entityId) :
    EntityInterval.normalize intervals = intervals := by
  rw [EntityInterval.normalize, sort_eq_self h]
  cases intervals with
  | nil => rfl
  | cons interval rest => exact mergeFrom_eq_cons h

/-- Without a plan a candidate has the whole window, and nothing else. -/
lemma filter_plain_intervals [PatternEngine] (h : candidates.Pairwise (· < ·)) (he : e ∈ candidates) :
    (EntityInterval.normalize (log.intervals candidates time none)).filter (fun interval => interval.entityId = e) =
      [⟨e, time.window.start, time.window.stop⟩] := by
  have hordered : (log.intervals candidates time none).Pairwise fun a b => a.entityId < b.entityId :=
    List.pairwise_map.2 h
  have hone : candidates.filter (fun name => name = e) = [e] := by
    rw [List.filter_eq, List.count_eq_one_of_mem (h.imp fun hlt => hlt.ne) he]
    rfl
  rw [normalize_eq_self hordered, intervals, List.filter_map]
  have hpick : ((fun interval : EntityInterval => decide (interval.entityId = e)) ∘
      fun name => (⟨name, time.window.start, time.window.stop⟩ : EntityInterval)) = fun name => name = e := rfl
  rw [hpick, hone]
  rfl

/-- The instances of an entity whose times a query accepts. -/
def acceptedOf (log : Log) (time : TimeQuery) (e : String) : List AttributeInstance :=
  log.instances.filter fun i => i.entityId = e && (i.time? time.property).any time.accepts

/-- What is retrieved of a candidate without a plan is what the query accepts and its window contains. -/
lemma plain_retrieval_perm [PatternEngine] (log : Log) (time : TimeQuery) (order : SortOrder)
    (h : candidates.Pairwise (· < ·)) (he : e ∈ candidates) (hlimit : log.instances.length ≤ limit) :
    (log.instancesOver ((EntityInterval.normalize (log.intervals candidates time none)).filter fun interval =>
        interval.entityId = e) time [] limit order).Perm
      ((log.acceptedOf time e).filter fun i => (i.time? time.property).any time.window.contains) := by
  rw [filter_plain_intervals h he]
  refine (instancesOver_perm (List.pairwise_singleton _ _) hlimit).trans (List.Perm.of_eq ?_)
  rw [acceptedOf, List.filter_filter]
  refine List.filter_congr fun i _ => ?_
  rw [Bool.eq_iff_iff]
  cases i.time? time.property with
  | none => simp
  | some t =>
    simp only [Option.any_some, covers, List.any_cons, List.any_nil, Bool.or_false, Bool.and_eq_true,
      EntityInterval.contains, TimeWindow.contains, decide_eq_true_eq, decide_true, Bool.true_or, true_and,
      eq_comm (a := e)]
    tauto

/-- Some of the elements of a list are all of them just when all of them are picked. -/
lemma perm_filter_iff {α : Type} {l picked : List α} {p : α → Bool} (h : picked.Perm (l.filter p)) :
    picked.Perm l ↔ ∀ a ∈ l, p a = true := by
  constructor
  · intro hall
    have hlength : (l.filter p).length = l.length := h.length_eq.symm.trans hall.length_eq
    exact List.length_filter_eq_length_iff.1 hlength
  · intro hall
    rwa [List.filter_eq_self.2 hall] at h

/-- Without a plan, the instances of a candidate that the query accepts are all retrieved, each of them once,
just when none of them lies beyond a water mark. Otherwise those beyond a mark are missing. -/
theorem plain_retrieval_perm_iff [engine : PatternEngine] {pattern : Option engine.Compiled} (log : Log)
    (filter : EntityFilter) (time : TimeQuery) (limit : Nat)
    (hpattern : filter.pattern = .ok pattern) (hlimit : log.instances.length ≤ limit) :
    ∃ candidates page, log.candidates filter = .ok candidates ∧
      log.findIntervals ⟨filter, time, none, none⟩ = .ok page ∧
      ∀ e ∈ candidates, ∀ order,
        ((log.instancesOver (page.intervals.filter fun interval => interval.entityId = e) time [] limit
            order).Perm ((log.acceptedOf time e).filter fun i =>
              (i.time? time.property).any time.window.contains)) ∧
        ((log.instancesOver (page.intervals.filter fun interval => interval.entityId = e) time [] limit
            order).Perm (log.acceptedOf time e) ↔
          ∀ i ∈ log.acceptedOf time e, ∀ t, i.time? time.property = some t → ¬ time.IsBeyondMark t) := by
  obtain ⟨candidates, hcandidates, hsorted⟩ := exists_candidates log hpattern
  refine ⟨candidates, _, hcandidates, findIntervals_eq_ok hcandidates, fun e he order => ?_⟩
  have hretrieved := plain_retrieval_perm log time order hsorted he hlimit
  refine ⟨hretrieved, (perm_filter_iff hretrieved).trans (forall₂_congr fun i hi => ?_)⟩
  -- an accepted instance has a time
  obtain ⟨t, ht, haccepts⟩ : ∃ t, i.time? time.property = some t ∧ time.accepts t = true := by
    have hi := (List.mem_filter.1 hi).2
    rw [Bool.and_eq_true, Option.any_eq_true] at hi
    exact hi.2
  simp only [ht, Option.any_some, Option.some.injEq, forall_eq', time.contains_window_iff haccepts]

/-- The creation of an entity. -/
def creation (entityId : String) : EntityRecord := ⟨entityId, "A", .create, .ofSecond 1⟩

/-- A number that is observed of an entity. -/
def observation (id : String) (second value : Int) : AttributeInstance where
  id := id
  entityId := "urn:a"
  attributeId := "t"
  mode := .create
  value := some (.number (Double.ofInt value))
  observedAt := some (.ofSecond second)
  writtenAt := .ofSecond 1
  datasetId := none
  unitCode := none
  hasSubAttributes := false

/-- A log with one observation from before the low water mark and one from after it. -/
def aroundMark : Log :=
  { records := [creation "urn:a"], instances := [observation "1" (-1) 7, observation "2" 1 7] }

/-- The query for all that is observed. -/
def anyObservation : TimeQuery := .unbounded .observedAt

theorem plain_retrieval_perm_iff_aroundMark :
    ∃ candidates page, aroundMark.candidates {} = .ok candidates ∧
      aroundMark.findIntervals ⟨{}, anyObservation, none, none⟩ = .ok page ∧
      ∀ e ∈ candidates, ∀ order,
        (aroundMark.instancesOver (page.intervals.filter fun interval => interval.entityId = e) anyObservation
            [] 2 order).Perm (aroundMark.acceptedOf anyObservation e) ↔
          ∀ i ∈ aroundMark.acceptedOf anyObservation e, ∀ t, i.observedAt = some t →
            ¬ anyObservation.IsBeyondMark t := by
  obtain ⟨candidates, page, hcandidates, hpage, hiff⟩ :=
    plain_retrieval_perm_iff aroundMark {} anyObservation 2 rfl (by decide)
  exact ⟨candidates, page, hcandidates, hpage, fun e he order => (hiff e he order).2⟩

lemma candidates_aroundMark : aroundMark.candidates {} = .ok ["urn:a"] := by decide

/-- The observation from before the mark is accepted, but not retrieved. -/
theorem exists_not_perm_acceptedOf :
    ∃ candidates page, aroundMark.candidates {} = .ok candidates ∧
      aroundMark.findIntervals ⟨{}, anyObservation, none, none⟩ = .ok page ∧
      ∃ e ∈ candidates, ∀ order,
        ¬ (aroundMark.instancesOver (page.intervals.filter fun interval => interval.entityId = e) anyObservation
            [] 2 order).Perm (aroundMark.acceptedOf anyObservation e) := by
  refine ⟨_, _, candidates_aroundMark, findIntervals_eq_ok candidates_aroundMark, "urn:a", by simp,
    fun order hperm => ?_⟩
  have hretrieved := plain_retrieval_perm aroundMark anyObservation order
    (List.pairwise_singleton (· < ·) "urn:a") (List.mem_singleton_self _) (show 2 ≤ 2 from le_rfl)
  exact absurd ((perm_filter_iff hretrieved).1 hperm) (by decide)

end Log

end EntityHistory
