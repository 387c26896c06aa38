/-
Collapsing by ranks.

The runs of a timeline can also be found without looking at neighbours. Going through the points in their order,
each gets its rank among the points of its entity and its rank among those of its entity that have its result.
The difference of the two ranks is the number of points of the other result until it: it stays the same along a
run of true points, and grows between two runs. So the true points of one entity and one difference are a run,
and a table of groups with this key, each with the earliest and the latest time met so far, comes to hold the
intervals of the runs.

* `TimelinePoint.isRankingOf_foldl`: what the ranks and the groups are after each part of the points;
* `TimelinePoint.collapseByRanks_eq`: the groups, sorted, are what the timeline collapses to;
* `TimelinePoint.collapse_isRuns`: what collapsing gives, and what that does not depend on.
-/
import EntityHistory.Proofs.Interval.NormalForm
import EntityHistory.Proofs.Timeline.Runs

namespace EntityHistory.TimelinePoint

open EntityInterval (Canonical)
open Sql (IsGroupBy perm_of_isGroupBy)

/-! ### The algorithm -/

/-- A group of true points of one entity and one difference of ranks: the earliest and the latest time so far. -/
structure RankedGroup where
  entityId : String
  difference : Int
  start : Instant
  stop : Instant

namespace RankedGroup

/-- What groups are told apart by. -/
def key (g : RankedGroup) : String × Bool × Int := (g.entityId, true, g.difference)

/-- The interval of a group. -/
def interval (g : RankedGroup) : EntityInterval := ⟨g.entityId, g.start, g.stop⟩

/-- A group with one time more. -/
def widen (g : RankedGroup) (t : Instant) : RankedGroup :=
  { g with start := min g.start t, stop := max g.stop t }

/-- Groups with one point more, of an entity with a difference of ranks: in the group that it belongs to, or
else in a new one. -/
def addPoint (e : String) (difference : Int) (t : Instant) (groups : List RankedGroup) : List RankedGroup :=
  if groups.any fun g => g.entityId = e && g.difference = difference then
    groups.map fun g => if g.entityId = e && g.difference = difference then g.widen t else g
  else groups ++ [⟨e, difference, t, t⟩]

end RankedGroup

/-- The number of points so far of each entity, and of each entity and result, and the groups so far. -/
structure Ranking where
  overall : String → Int
  byResult : String × Bool → Int
  groups : List RankedGroup

/-- Before the first point. -/
def Ranking.empty : Ranking := ⟨fun _ => 0, fun _ => 0, []⟩

/-- One point more: it has the next rank of its entity and the next of its entity and result, and a true point
belongs to the group of the difference of the two. -/
def Ranking.add (r : Ranking) (p : TimelinePoint) : Ranking :=
  let rank := r.overall p.entityId + 1
  let resultRank := r.byResult (p.entityId, p.result) + 1
  { overall := Function.update r.overall p.entityId rank
    byResult := Function.update r.byResult (p.entityId, p.result) resultRank
    groups := if p.result then RankedGroup.addPoint p.entityId (rank - resultRank) p.time r.groups else r.groups }

/-- The intervals of the groups of a timeline, sorted. -/
def collapseByRanks (points : List TimelinePoint) : List EntityInterval :=
  EntityInterval.sort (((sort points).foldl Ranking.add .empty).groups.map RankedGroup.interval)

variable {points l : List TimelinePoint} {p : TimelinePoint} {e : String} {d : Int} {t : Instant}
  {rows : List (TimelinePoint × Int)} {row : TimelinePoint × Int} {groups : List RankedGroup}
  {g : RankedGroup} {r : Ranking} {k : String × Bool × Int}

/-! ### One point in the groups -/

/-- Groups hold the numbered points of their keys, and each key has one group. -/
structure IsGrouping (rows : List (TimelinePoint × Int)) (groups : List RankedGroup) : Prop where
  nodup : (groups.map RankedGroup.key).Nodup
  mem_iff : ∀ k, k ∈ groups.map RankedGroup.key ↔ ∃ row ∈ rows, groupKey row = k
  isGroupRow : ∀ g ∈ groups, IsGroupRow rows g.key g.interval

lemma IsGrouping.isGroupBy (h : IsGrouping rows groups) :
    IsGroupBy groupKey (IsGroupRow rows) rows (groups.map RankedGroup.interval) := by
  refine ⟨groups.map RankedGroup.key, h.nodup, h.mem_iff, ?_⟩
  rw [List.forall₂_map_left_iff, List.forall₂_map_right_iff, List.forall₂_same]
  exact h.isGroupRow

/-- The times of the points with a key. -/
def timesOf (rows : List (TimelinePoint × Int)) (k : String × Bool × Int) : Set Instant :=
  {t | ∃ row ∈ rows, groupKey row = k ∧ row.1.time = t}

lemma timesOf_append_of_ne (h : groupKey row ≠ k) : timesOf (rows ++ [row]) k = timesOf rows k := by
  ext t
  simp [timesOf, or_and_right, exists_or, h]

lemma timesOf_append_of_eq (h : groupKey row = k) :
    timesOf (rows ++ [row]) k = insert row.1.time (timesOf rows k) := by
  ext t
  simp only [timesOf, List.mem_append, List.mem_singleton, or_and_right, exists_or, exists_eq_left, h, true_and,
    Set.mem_ofPred_eq, Set.mem_insert_iff, or_comm (a := ∃ _, _), eq_comm (a := row.1.time)]

lemma isGroupRow_append_of_ne (hne : groupKey row ≠ k) {i : EntityInterval} (h : IsGroupRow rows k i) :
    IsGroupRow (rows ++ [row]) k i := by
  have htimes : timesOf (rows ++ [row]) k = timesOf rows k := timesOf_append_of_ne hne
  refine ⟨h.entityId_eq, ?_, ?_⟩
  · change IsLeast (timesOf (rows ++ [row]) k) i.start
    rw [htimes]
    exact h.isLeast
  · change IsGreatest (timesOf (rows ++ [row]) k) i.stop
    rw [htimes]
    exact h.isGreatest

lemma isGroupRow_widen (h : IsGroupRow rows g.key g.interval) (hkey : groupKey row = g.key) :
    IsGroupRow (rows ++ [row]) g.key (g.widen row.1.time).interval := by
  have htimes : timesOf (rows ++ [row]) g.key = insert row.1.time (timesOf rows g.key) := timesOf_append_of_eq hkey
  refine ⟨h.entityId_eq, ?_, ?_⟩
  · change IsLeast (timesOf (rows ++ [row]) g.key) (min g.start row.1.time)
    rw [htimes, min_comm]
    exact h.isLeast.insert row.1.time
  · change IsGreatest (timesOf (rows ++ [row]) g.key) (max g.stop row.1.time)
    rw [htimes, max_comm]
    exact h.isGreatest.insert row.1.time

lemma isGroupRow_new (hnone : ∀ other ∈ rows, groupKey other ≠ k) (hkey : groupKey row = k) :
    IsGroupRow (rows ++ [row]) k ⟨row.1.entityId, row.1.time, row.1.time⟩ := by
  have htimes : timesOf (rows ++ [row]) k = {row.1.time} := by
    have hempty : timesOf rows k = ∅ := by
      ext t
      simpa [timesOf] using fun p n hmem hk _ => hnone (p, n) hmem hk
    rw [timesOf_append_of_eq hkey, hempty, insert_empty_eq]
  refine ⟨congrArg Prod.fst hkey, ?_, ?_⟩
  · change IsLeast (timesOf (rows ++ [row]) k) row.1.time
    rw [htimes]
    exact isLeast_singleton
  · change IsGreatest (timesOf (rows ++ [row]) k) row.1.time
    rw [htimes]
    exact isGreatest_singleton

/-- A true point that is added goes into the group of its key, and no other group changes. -/
lemma IsGrouping.addPoint (h : IsGrouping rows groups) (hp : p.result = true) :
    IsGrouping (rows ++ [(p, d)]) (RankedGroup.addPoint p.entityId d p.time groups) := by
  have hkey : ∀ g : RankedGroup, (g.entityId = p.entityId && g.difference = d) = true ↔
      groupKey (p, d) = g.key := by
    intro g
    simp only [groupKey, RankedGroup.key, hp, Prod.mk.injEq, true_and, Bool.and_eq_true, decide_eq_true_eq]
    exact and_congr eq_comm eq_comm
  rw [RankedGroup.addPoint]
  split
  case isTrue hany =>
    obtain ⟨g, hg, hgkey⟩ := List.any_eq_true.1 hany
    rw [hkey] at hgkey
    have hkeys : (groups.map fun g => if g.entityId = p.entityId && g.difference = d then g.widen p.time else g).map
        RankedGroup.key = groups.map RankedGroup.key := by
      rw [List.map_map]
      refine List.map_congr_left fun g _ => ?_
      rw [Function.comp_apply]
      split <;> rfl
    refine ⟨hkeys ▸ h.nodup, fun k => ?_, fun g' hg' => ?_⟩
    · rw [hkeys, h.mem_iff]
      constructor
      · rintro ⟨row, hrow, hk⟩
        exact ⟨row, List.mem_append_left _ hrow, hk⟩
      · rintro ⟨row, hrow, hk⟩
        rcases List.mem_append.1 hrow with hrow | hrow
        · exact ⟨row, hrow, hk⟩
        · rw [← hk, List.mem_singleton.1 hrow, hgkey, ← h.mem_iff]
          exact List.mem_map_of_mem hg
    · obtain ⟨g, hg, rfl⟩ := List.mem_map.1 hg'
      split
      case isTrue heq => exact isGroupRow_widen (h.isGroupRow g hg) ((hkey g).1 heq)
      case isFalse hne => exact isGroupRow_append_of_ne (fun heq => hne ((hkey g).2 heq)) (h.isGroupRow g hg)
  case isFalse hnot =>
    have hnone : groupKey (p, d) ∉ groups.map RankedGroup.key := by
      intro hmem
      obtain ⟨g, hg, hk⟩ := List.mem_map.1 hmem
      exact hnot (List.any_eq_true.2 ⟨g, hg, (hkey g).2 hk.symm⟩)
    have hnew : (⟨p.entityId, d, p.time, p.time⟩ : RankedGroup).key = groupKey (p, d) := by
      simp [groupKey, RankedGroup.key, hp]
    refine ⟨?_, fun k => ?_, fun g hg => ?_⟩
    · rw [List.map_append, List.map_singleton, hnew, List.nodup_append_comm, List.singleton_append,
        List.nodup_cons]
      exact ⟨hnone, h.nodup⟩
    · simp only [List.map_append, List.mem_append, h.mem_iff, List.map_singleton, hnew, List.mem_singleton,
        or_and_right, exists_or, exists_eq_left, eq_comm]
    · rcases List.mem_append.1 hg with hg | hg
      · refine isGroupRow_append_of_ne (fun heq => hnone ?_) (h.isGroupRow g hg)
        rw [heq]
        exact List.mem_map_of_mem hg
      · rw [List.mem_singleton.1 hg, hnew]
        refine isGroupRow_new (fun other hother heq => hnone ?_) rfl
        rw [← heq, h.mem_iff]
        exact ⟨other, hother, rfl⟩

/-! ### All points -/

/-- What has been counted and grouped after some points of a timeline. -/
structure IsRankingOf (points l : List TimelinePoint) (r : Ranking) : Prop where
  overall_eq : ∀ e, r.overall e = l.countP fun x => x.entityId = e
  byResult_eq : ∀ e result, r.byResult (e, result) = l.countP fun x => x.entityId = e && x.result = result
  isGrouping : IsGrouping (countedTrues points l) r.groups

lemma isRankingOf_empty (points : List TimelinePoint) : IsRankingOf points [] Ranking.empty :=
  ⟨fun _ => rfl, fun _ _ => rfl, ⟨List.nodup_nil, fun k => by simp [countedTrues, Ranking.empty],
    List.forall_mem_nil _⟩⟩

/-- Of the points of an entity, those that are not true are false. -/
lemma countP_eq_add (l : List TimelinePoint) (e : String) :
    l.countP (fun x => x.entityId = e) =
      l.countP (fun x => x.entityId = e && x.result = true) + l.countP fun x => x.entityId = e && !x.result := by
  induction l with
  | nil => rfl
  | cons x l ih =>
    simp only [List.countP_cons, ih]
    cases x.result <;> by_cases he : x.entityId = e <;> simp [he] <;> omega

/-- The false points of the entity of a true point until its time are those that come before it. -/
lemma falsesUntil_eq_of_prefix {after : List TimelinePoint} (hsort : sort points = l ++ p :: after)
    (hp : p.result = true) : falsesUntil points p = l.countP fun x => x.entityId = p.entityId && !x.result := by
  have hpairs := pairwise_sort points
  rw [hsort] at hpairs
  obtain ⟨-, hafter, hbefore⟩ := List.pairwise_append.1 hpairs
  have hleft : l.countP (fun x => x.entityId = p.entityId && !x.result && x.time ≤ p.time) =
      l.countP fun x => x.entityId = p.entityId && !x.result := by
    refine List.countP_congr fun x hx => ?_
    simp only [Bool.and_eq_true, decide_eq_true_eq, and_iff_left_iff_imp]
    exact fun h => time_le_of_isBefore (hbefore x hx p List.mem_cons_self) h.1
  have hright : (p :: after).countP (fun x => x.entityId = p.entityId && !x.result && x.time ≤ p.time) = 0 := by
    refine List.countP_eq_zero.2 fun x hx h => ?_
    simp only [Bool.and_eq_true, decide_eq_true_eq, Bool.not_eq_true'] at h
    obtain ⟨⟨he, hr⟩, ht⟩ := h
    rcases List.mem_cons.1 hx with rfl | hx
    · rw [hp] at hr
      cases hr
    · -- a false point behind a true one is later
      rcases (isBefore_iff_of_eq he.symm).1 ((List.pairwise_cons.1 hafter).1 x hx) with hlt | ⟨-, himp⟩
      · exact hlt.not_ge ht
      · rw [himp hp] at hr
        cases hr
  rw [falsesUntil, (List.mergeSort_perm points isBefore).symm.countP_eq]
  change (sort points).countP _ = _
  rw [hsort, List.countP_append, hleft, hright, Nat.add_zero]

/-- One point more is counted and, if it is true, grouped by the number of false points until it. -/
lemma IsRankingOf.add {after : List TimelinePoint} (h : IsRankingOf points l r)
    (hsort : sort points = l ++ p :: after) : IsRankingOf points (l ++ [p]) (r.add p) := by
  refine ⟨fun e => ?_, fun e result => ?_, ?_⟩
  · rw [Ranking.add, List.countP_append]
    by_cases he : p.entityId = e
    · simp [← he, h.overall_eq]
    · simp [he, Ne.symm he, h.overall_eq]
  · rw [Ranking.add, List.countP_append]
    by_cases hk : (e, result) = (p.entityId, p.result)
    · obtain ⟨rfl, rfl⟩ := Prod.mk.inj hk
      simp [h.byResult_eq]
    · have hnot : (p.entityId = e && p.result = result) = false := by
        rw [← Bool.not_eq_true, Bool.and_eq_true, decide_eq_true_eq, decide_eq_true_eq]
        rintro ⟨rfl, rfl⟩
        exact hk rfl
      simp [Function.update_of_ne hk, h.byResult_eq, hnot]
  · rw [Ranking.add, countedTrues_append]
    cases hp : p.result with
    | false =>
      have hnone : countedTrues points [p] = [] := by simp [countedTrues, hp]
      rw [hnone, List.append_nil]
      exact h.isGrouping
    | true =>
      have hone : countedTrues points [p] = [(p, (falsesUntil points p : Int))] := by simp [countedTrues, hp]
      have hdifference : r.overall p.entityId + 1 - (r.byResult (p.entityId, true) + 1) = falsesUntil points p := by
        rw [h.overall_eq, h.byResult_eq, countP_eq_add, falsesUntil_eq_of_prefix hsort hp]
        push_cast
        omega
      rw [hone, if_pos rfl, hdifference]
      exact h.isGrouping.addPoint hp

/-- Ranks and groups after any part of the points of a timeline in their order. -/
theorem isRankingOf_foldl {after : List TimelinePoint} (hsort : sort points = l ++ after) :
    IsRankingOf points l (l.foldl Ranking.add .empty) := by
  induction l using List.reverseRecOn generalizing after with
  | nil => exact isRankingOf_empty points
  | append_singleton l p ih =>
    rw [List.append_assoc, List.singleton_append] at hsort
    rw [List.foldl_append, List.foldl_cons, List.foldl_nil]
    exact (ih hsort).add hsort

/-- The groups of a timeline, sorted, are the intervals that it collapses to. -/
theorem collapseByRanks_eq (points : List TimelinePoint) : collapseByRanks points = collapse points := by
  have hranking := isRankingOf_foldl (List.append_nil (sort points)).symm
  have hperm : (((sort points).foldl Ranking.add .empty).groups.map RankedGroup.interval).Perm
      (collapse points) := by
    have hgroups := hranking.isGrouping.isGroupBy
    have hrows : ∀ row, row ∈ countedTrues points (sort points) ↔ row ∈ countedTrues points points := fun row => by
      rw [mem_countedTrues, mem_countedTrues, mem_sort]
    rw [isGroupRow_congr hrows] at hgroups
    exact perm_of_isGroupBy (rightUnique_isGroupRow _) hgroups (isGroupBy_collapse points) fun _ => Iff.rfl
  rw [collapseByRanks, EntityInterval.sort_eq_of_perm hperm, (canonical_collapse points).sort_eq]

/-! ### What collapsing gives -/

/-- A timeline collapses to the intervals of the maximal runs of true points of each entity, from the first time
to the last, one entity after the other. These are canonical, cover an entity at the time of one of its points
just when one of its points at that time is true, do not depend on the order of the points, and are those that
are found by ranks. -/
theorem collapse_isRuns (points : List TimelinePoint) :
    collapse points = ((entities points).flatMap fun e => (trueRuns (pointsOf points e)).filterMap span) ∧
      (∀ e block, block ∈ trueRuns (pointsOf points e) ↔ IsMaximalRun (pointsOf points e) block) ∧
      Canonical (collapse points) ∧
      (∀ p ∈ points, covers (collapse points) p.entityId p.time = true ↔
        ∃ q ∈ points, q.entityId = p.entityId ∧ q.time = p.time ∧ q.result = true) ∧
      (∀ points', points.Perm points' → collapse points' = collapse points) ∧
      collapseByRanks points = collapse points :=
  ⟨collapse_eq_flatMap points, fun _ _ => mem_trueRuns, canonical_collapse points,
    fun _ hp => covers_collapse_iff hp, fun _ hperm => (collapse_eq_of_perm hperm).symm, collapseByRanks_eq points⟩

end EntityHistory.TimelinePoint
