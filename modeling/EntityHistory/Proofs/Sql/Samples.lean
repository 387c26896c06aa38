/-
The tables of a leaf.

A leaf of a plan is answered by up to four relations: its samples, the last samples from before the window,
these together with the accepted samples and the last of either, and the maximal runs of true points. Carried
out by the rules of `DISTINCT ON`, `UNION ALL`, `row_number()` and `GROUP BY`, they leave several choices: the
order of rows, and which of two rows that are level comes first. If no entity has two samples at one time, and
both numberings of the last relation take rows that are the same in one order, none of the choices matters.

* `Sql.Relation.MayHold`: what a relation of a leaf may hold;
* `Sql.perm_carryState`: the third relation holds the timeline that is extended in memory;
* `Sql.perm_collapse`: the last relation holds the runs of the points that it reads;
* `Sql.leaf_rows_perm_intervals`: the rows of a leaf are the intervals of its timeline.
-/
import Mathlib.Data.Fintype.Fin
import EntityHistory.Proofs.Timeline.Carry
import EntityHistory.Proofs.Timeline.Groups
import EntityHistory.Sql.Relation

namespace EntityHistory.Sql

open TimelinePoint OrderDual

/-! ### Carrying out the relations of a leaf -/

/-- What a relation of a leaf holds, in some order. -/
inductive LeafTable where
  | points (rows : List TimelinePoint)
  | intervals (rows : List EntityInterval)

/-- Whether the samples of a leaf are restricted to those that the query accepts. If states are carried on,
all that have a time are looked at. -/
def isSampled (time : TimeQuery) (p : TimelinePoint) : Bool := time.carriesState || time.accepts p.time

/-- Whether a point is from before the window, or at its start and not accepted. -/
def isEarlier (time : TimeQuery) (p : TimelinePoint) : Bool :=
  p.time ≤ time.window.start && !time.accepts p.time

/-- Accepted points marked by 0, and others marked by 1. -/
def marked (time : TimeQuery) (points first : List TimelinePoint) : List (TimelinePoint × Nat) :=
  ((points.filter fun p => time.accepts p.time).map fun p => (p, 0)) ++ first.map fun p => (p, 1)

/-- The latest point comes first, and of points of one time that with the lesser mark. -/
def latestFirst (r : TimelinePoint × Nat) : Instantᵒᵈ ×ₗ Nat := toLex (toDual r.1.time, r.2)

/-- A point moved to another time. -/
def moved (t : Instant) (p : TimelinePoint) : TimelinePoint := { p with time := t }

/-- Points, each with the difference between its number among all points of the entity in their order and its
number among those with its result in the order of time. Of points that are the same both numberings take the
same one first. -/
def IsRanking (rows : List TimelinePoint) (ranked : List (TimelinePoint × Int)) : Prop :=
  ∃ number numberWithin : Fin rows.length → Nat,
    IsRowNumber (fun i => rows[i].entityId) (fun i => toLex (rows[i].time, rows[i].result)) number ∧
    IsRowNumber (fun i => (rows[i].entityId, rows[i].result)) (fun i => rows[i].time) numberWithin ∧
    (∀ i j, rows[i] = rows[j] → (number i < number j ↔ numberWithin i < numberWithin j)) ∧
    ranked = (List.finRange rows.length).map fun i => (rows[i], (number i : Int) - numberWithin i)

/-- What a relation of a leaf may hold, when it is known what the others hold and which samples the leaf has. -/
inductive Relation.MayHold (samplesOf : PlanLeaf → List TimelinePoint) (tables : RelationName → LeafTable) :
    Relation → LeafTable → Prop
  | samples {time : TimeQuery} {leaf : PlanLeaf} {rows : List TimelinePoint}
      (hrows : rows.Perm ((samplesOf leaf).filter (isSampled time))) :
      MayHold samplesOf tables (.samples time leaf) (.points rows)
  | starts {time : TimeQuery} {points : RelationName} {rows chosen : List TimelinePoint}
      (hpoints : tables points = .points rows)
      (hchosen : IsDistinctOn (·.entityId) (fun p => toDual p.time) (rows.filter (isEarlier time)) chosen) :
      MayHold samplesOf tables (.starts time points) (.points (chosen.map (moved time.window.start)))
  | timeline {time : TimeQuery} {points first : RelationName} {rows firstRows out : List TimelinePoint}
      {chosen : List (TimelinePoint × Nat)} (hpoints : tables points = .points rows)
      (hfirst : tables first = .points firstRows)
      (hchosen : IsDistinctOn (·.1.entityId) latestFirst (marked time rows firstRows) chosen)
      (hout : out.Perm ((marked time rows firstRows).map (·.1) ++
        chosen.map fun r => moved time.window.stop r.1)) :
      MayHold samplesOf tables (.timeline time points first) (.points out)
  | runs {points : RelationName} {rows : List TimelinePoint} {ranked : List (TimelinePoint × Int)}
      {out : List EntityInterval} (hpoints : tables points = .points rows) (hranked : IsRanking rows ranked)
      (hout : IsGroupBy groupKey (IsGroupRow (ranked.filter (·.1.result))) (ranked.filter (·.1.result)) out) :
      MayHold samplesOf tables (.runs points) (.intervals out)

/-- What tables there may be after definitions, carried out one after the other. -/
inductive CarriesOut (samplesOf : PlanLeaf → List TimelinePoint) :
    List Definition → (RelationName → LeafTable) → (RelationName → LeafTable) → Prop
  | nil {tables : RelationName → LeafTable} : CarriesOut samplesOf [] tables tables
  | cons {d : Definition} {ds : List Definition} {tables tables' : RelationName → LeafTable} {table : LeafTable}
      (htable : d.relation.MayHold samplesOf tables table)
      (hrest : CarriesOut samplesOf ds (Function.update tables d.name table) tables') :
      CarriesOut samplesOf (d :: ds) tables tables'

variable {samplesOf : PlanLeaf → List TimelinePoint} {tables tables' : RelationName → LeafTable}
  {q : TimeQuery} {points rows first chosen : List TimelinePoint} {e : String} {p r : TimelinePoint}
  {result : Bool} {t : Instant}

/-! ### What relations and definitions may leave -/

section Inversion

variable {leaf : PlanLeaf} {a b : RelationName} {table : LeafTable}

lemma mayHold_samples_iff : (Relation.samples q leaf).MayHold samplesOf tables table ↔
    ∃ rows, rows.Perm ((samplesOf leaf).filter (isSampled q)) ∧ table = .points rows := by
  constructor
  · intro h
    cases h with
    | samples hrows => exact ⟨_, hrows, rfl⟩
  · rintro ⟨rows, hrows, rfl⟩
    exact .samples hrows

lemma mayHold_starts_iff (hrows : tables a = .points rows) :
    (Relation.starts q a).MayHold samplesOf tables table ↔
      ∃ chosen, IsDistinctOn (·.entityId) (fun p => toDual p.time) (rows.filter (isEarlier q)) chosen ∧
        table = .points (chosen.map (moved q.window.start)) := by
  constructor
  · intro h
    cases h with
    | starts hrows' hchosen =>
      obtain rfl := LeafTable.points.inj (hrows.symm.trans hrows')
      exact ⟨_, hchosen, rfl⟩
  · rintro ⟨chosen, hchosen, rfl⟩
    exact .starts hrows hchosen

lemma mayHold_timeline_iff (hrows : tables a = .points rows) (hfirst : tables b = .points first) :
    (Relation.timeline q a b).MayHold samplesOf tables table ↔
      ∃ chosen out, IsDistinctOn (·.1.entityId) latestFirst (marked q rows first) chosen ∧
        out.Perm ((marked q rows first).map (·.1) ++ chosen.map fun r => moved q.window.stop r.1) ∧
        table = .points out := by
  constructor
  · intro h
    cases h with
    | timeline hrows' hfirst' hchosen hout =>
      obtain rfl := LeafTable.points.inj (hrows.symm.trans hrows')
      obtain rfl := LeafTable.points.inj (hfirst.symm.trans hfirst')
      exact ⟨_, _, hchosen, hout, rfl⟩
  · rintro ⟨chosen, out, hchosen, hout, rfl⟩
    exact .timeline hrows hfirst hchosen hout

lemma mayHold_runs_iff (hrows : tables a = .points rows) :
    (Relation.runs a).MayHold samplesOf tables table ↔
      ∃ ranked out, IsRanking rows ranked ∧
        IsGroupBy groupKey (IsGroupRow (ranked.filter (·.1.result))) (ranked.filter (·.1.result)) out ∧
        table = .intervals out := by
  constructor
  · intro h
    cases h with
    | runs hrows' hranked hout =>
      obtain rfl := LeafTable.points.inj (hrows.symm.trans hrows')
      exact ⟨_, _, hranked, hout, rfl⟩
  · rintro ⟨ranked, out, hranked, hout, rfl⟩
    exact .runs hrows hranked hout

lemma carriesOut_nil_iff : CarriesOut samplesOf [] tables tables' ↔ tables' = tables := by
  constructor
  · intro h
    cases h with
    | nil => rfl
  · rintro rfl
    exact .nil

lemma carriesOut_cons_iff {d : Definition} {ds : List Definition} :
    CarriesOut samplesOf (d :: ds) tables tables' ↔ ∃ table, d.relation.MayHold samplesOf tables table ∧
      CarriesOut samplesOf ds (Function.update tables d.name table) tables' := by
  constructor
  · intro h
    cases h with
    | cons htable hrest => exact ⟨_, htable, hrest⟩
  · rintro ⟨table, htable, hrest⟩
    exact .cons htable hrest

end Inversion

/-! ### Runs -/

lemma card_filter_getElem (l : List TimelinePoint) (P : TimelinePoint → Bool) :
    Finset.card {j : Fin l.length | P l[j] = true} = l.countP P := by
  induction l with
  | nil => rfl
  | cons p l ih =>
    have hsucc := Fin.card_filter_univ_succ fun j : Fin (p :: l).length => P (p :: l)[j] = true
    have hrest : Finset.card {j : Fin l.length | P (p :: l)[j.succ] = true} = l.countP P := ih
    refine hsucc.trans ?_
    rw [hrest, List.countP_cons]
    cases hp : P p <;> simp [hp]

/-- The difference of the two numbers of a true point counts the false points until it. -/
lemma mem_ranked_iff {ranked : List (TimelinePoint × Int)} (h : IsRanking rows ranked)
    {r : TimelinePoint × Int} : r ∈ ranked.filter (·.1.result) ↔ r ∈ countedTrues rows rows := by
  obtain ⟨number, numberWithin, hnumber, hwithin, hsame, rfl⟩ := h
  have hcount : ∀ i, rows[i].result = true →
      (number i : Int) - numberWithin i = falsesUntil rows rows[i] := by
    intro i hi
    have hcard := hnumber.eq_add_card hwithin (fun i j he ht hr => hsame i j ?_) hi
    · rw [hcard, falsesUntil, ← card_filter_getElem]
      simp only [Bool.and_eq_true, decide_eq_true_eq, Bool.not_eq_true', and_assoc]
      omega
    · cases hpi : rows[i]
      cases hpj : rows[j]
      simp_all
  rw [mem_countedTrues, List.mem_filter, List.mem_map]
  constructor
  · rintro ⟨⟨i, -, rfl⟩, hr⟩
    exact ⟨List.getElem_mem _, hr, hcount i hr⟩
  · rintro ⟨hmem, hr, hnumbers⟩
    obtain ⟨i, hi, hri⟩ := List.getElem_of_mem hmem
    have hresult : rows[(⟨i, hi⟩ : Fin rows.length)].result = true := by
      rw [← hri] at hr
      exact hr
    refine ⟨⟨⟨i, hi⟩, List.mem_finRange _, Prod.ext hri ?_⟩, hr⟩
    rw [hnumbers, ← hri]
    exact hcount ⟨i, hi⟩ hresult

/-- The groups of ranked points are the runs of the points. -/
theorem perm_collapse {ranked : List (TimelinePoint × Int)} {out : List EntityInterval}
    (hranked : IsRanking rows ranked)
    (hout : IsGroupBy groupKey (IsGroupRow (ranked.filter (·.1.result))) (ranked.filter (·.1.result)) out) :
    out.Perm (collapse rows) := by
  rw [isGroupRow_congr fun r => mem_ranked_iff hranked] at hout
  refine perm_of_isGroupBy (rightUnique_isGroupRow _) hout (isGroupBy_collapse rows) fun r => ?_
  rw [mem_ranked_iff hranked, mem_countedTrues, mem_countedTrues, mem_sort]

/-- Points can be ranked and grouped. -/
lemma exists_runs (rows : List TimelinePoint) : ∃ ranked out, IsRanking rows ranked ∧
    IsGroupBy groupKey (IsGroupRow (ranked.filter (·.1.result))) (ranked.filter (·.1.result)) out := by
  obtain ⟨number, hnumber, hlevel⟩ := exists_isRowNumber (fun i : Fin rows.length => rows[i].entityId)
    fun i => toLex (rows[i].time, rows[i].result)
  obtain ⟨numberWithin, hwithin, hlevelWithin⟩ := exists_isRowNumber
    (fun i : Fin rows.length => (rows[i].entityId, rows[i].result)) fun i => rows[i].time
  have hranked : IsRanking rows _ := ⟨number, numberWithin, hnumber, hwithin, fun i j hij => by
    rw [hlevel i j (by rw [hij]) (by rw [hij]), hlevelWithin i j (by rw [hij]) (by rw [hij])], rfl⟩
  refine ⟨_, collapse rows, hranked, ?_⟩
  rw [isGroupRow_congr fun r => mem_ranked_iff hranked]
  obtain ⟨keys, hnodup, hkeys, hrows⟩ := isGroupBy_collapse rows
  refine ⟨keys, hnodup, fun k => ?_, hrows⟩
  simp only [hkeys, mem_ranked_iff hranked, mem_countedTrues, mem_sort]

/-! ### The extended timeline -/

/-- The accepted points in their order. -/
abbrev acceptedIn (points : List TimelinePoint) (q : TimeQuery) : List TimelinePoint :=
  (sort points).filter fun p => q.accepts p.time

/-- The points from before the window in their order. -/
abbrev earlierIn (points : List TimelinePoint) (q : TimeQuery) : List TimelinePoint :=
  (sort points).filter fun p => !q.accepts p.time && p.time ≤ q.window.start

/-- The points in memory that are added at a time, one for each entity that has a result. -/
lemma mem_added {entities : List String} {g : String → Option Bool}
    (hg : ∀ e result, g e = some result → e ∈ entities) :
    p ∈ (entities.filterMap fun e => (g e).map fun result => (⟨e, t, result⟩ : TimelinePoint)) ↔
      p.time = t ∧ g p.entityId = some p.result := by
  simp only [List.mem_filterMap, Option.map_eq_some_iff]
  constructor
  · rintro ⟨e, -, result, hresult, rfl⟩
    exact ⟨rfl, hresult⟩
  · rintro ⟨rfl, hresult⟩
    exact ⟨p.entityId, hg _ _ hresult, p.result, hresult, rfl⟩

lemma nodup_added {entities : List String} (hnodup : entities.Nodup) (g : String → Option Bool)
    (t : Instant) :
    (entities.filterMap fun e => (g e).map fun result => (⟨e, t, result⟩ : TimelinePoint)).Nodup := by
  refine hnodup.filterMap fun e e' p hp hp' => ?_
  obtain ⟨result, -, rfl⟩ := Option.map_eq_some_iff.1 hp
  obtain ⟨result', -, heq⟩ := Option.map_eq_some_iff.1 hp'
  exact (congrArg TimelinePoint.entityId heq).symm

lemma exists_mem_of_lastResult {l : List TimelinePoint} (h : lastResult l e = some result) :
    ∃ p ∈ l, p.entityId = e := by
  obtain ⟨p, hp, -⟩ := Option.map_eq_some_iff.1 h
  obtain ⟨hp, he⟩ := List.mem_filter.1 (List.mem_of_getLast? hp)
  exact ⟨p, hp, by simpa using he⟩

lemma mem_map_moved {α : Type} {l : List α} (f : α → TimelinePoint) :
    (p ∈ l.map fun r => moved t (f r)) ↔
      p.time = t ∧ ∃ r ∈ l, (f r).entityId = p.entityId ∧ (f r).result = p.result := by
  rw [List.mem_map]
  constructor
  · rintro ⟨r, hr, rfl⟩
    exact ⟨rfl, r, hr, rfl, rfl⟩
  · rintro ⟨rfl, r, hr, he, hresult⟩
    exact ⟨r, hr, by rw [moved, he, hresult]⟩

section Extended

variable (h : OnePerTime points)
  (hlate : ∀ p ∈ points, ∀ r ∈ points, q.accepts p.time = true → IsEarlier q r → q.window.start ≤ p.time)

include h in
/-- The first points of the window, one for each entity that has a result from before. -/
lemma mem_firstRows (hrows : rows.Perm points)
    (hchosen : IsDistinctOn (·.entityId) (fun p => toDual p.time) (rows.filter (isEarlier q)) chosen) :
    p ∈ chosen.map (moved q.window.start) ↔ p.time = q.window.start ∧
      lastResult (earlierIn points q) p.entityId =
        some p.result := by
  have hmem : ∀ r, r ∈ rows.filter (isEarlier q) ↔ r ∈ points ∧ IsEarlier q r := by
    intro r
    simp [isEarlier, IsEarlier, hrows.mem_iff, and_comm]
  have hlast : ∀ r, r ∈ chosen ↔ IsLast (IsEarlier q) points r.entityId r := by
    intro r
    rw [hchosen.mem_iff fun a ha b hb he ht => h a ((hmem a).1 ha).1 b ((hmem b).1 hb).1 he ht, hmem]
    constructor
    · rintro ⟨⟨hr, hearlier⟩, hleast⟩
      exact ⟨hr, rfl, hearlier, fun a ha hae hP => hleast a ((hmem a).2 ⟨ha, hP⟩) hae⟩
    · rintro ⟨hr, -, hearlier, hlatest⟩
      refine ⟨⟨hr, hearlier⟩, fun a ha hae => ?_⟩
      exact hlatest a ((hmem a).1 ha).1 hae ((hmem a).1 ha).2
  rw [lastResult_earlier_eq_some_iff h]
  refine (mem_map_moved id).trans (and_congr_right fun _ => ⟨?_, ?_⟩)
  · rintro ⟨r, hr, he, hresult⟩
    exact ⟨r, he ▸ (hlast r).1 hr, hresult⟩
  · rintro ⟨r, hr, hresult⟩
    have hre : r.entityId = p.entityId := hr.entity
    exact ⟨r, (hlast r).2 (hre ▸ hr), hre, hresult⟩

lemma mem_marked {r : TimelinePoint × Nat} : r ∈ marked q rows first ↔
    (r.1 ∈ rows ∧ q.accepts r.1.time = true) ∧ r.2 = 0 ∨ r.1 ∈ first ∧ r.2 = 1 := by
  obtain ⟨p, o⟩ := r
  simp only [marked, List.mem_append, List.mem_map, List.mem_filter, Prod.mk.injEq]
  constructor
  · rintro (⟨p, hp, rfl, rfl⟩ | ⟨p, hp, rfl, rfl⟩)
    · exact Or.inl ⟨hp, rfl⟩
    · exact Or.inr ⟨hp, rfl⟩
  · rintro (⟨hp, rfl⟩ | ⟨hp, rfl⟩)
    · exact Or.inl ⟨p, hp, rfl, rfl⟩
    · exact Or.inr ⟨p, hp, rfl, rfl⟩

section LastRows

variable {chosen : List (TimelinePoint × Nat)} (hrows : rows.Perm points)
  (hfirst : ∀ p, p ∈ first ↔ p.time = q.window.start ∧ lastResult (earlierIn points q) p.entityId = some p.result)

include h hrows hfirst in
/-- No two of the marked points of an entity are level. -/
lemma eq_of_latestFirst_eq {r r' : TimelinePoint × Nat} (hr : r ∈ marked q rows first)
    (hr' : r' ∈ marked q rows first) (he : r.1.entityId = r'.1.entityId)
    (horder : latestFirst r = latestFirst r') : r = r' := by
  obtain ⟨ht, ho⟩ : r.1.time = r'.1.time ∧ r.2 = r'.2 := by simpa [latestFirst] using horder
  refine Prod.ext ?_ ho
  rcases mem_marked.1 hr with ⟨⟨hp, -⟩, h0⟩ | ⟨hp, h1⟩ <;>
    rcases mem_marked.1 hr' with ⟨⟨hp', -⟩, h0'⟩ | ⟨hp', h1'⟩
  · exact h _ (hrows.mem_iff.1 hp) _ (hrows.mem_iff.1 hp') he ht
  · omega
  · omega
  · have hresult := ((hfirst _).1 hp).2
    rw [he, ((hfirst _).1 hp').2, Option.some.injEq] at hresult
    cases hr1 : r.1
    cases hr1' : r'.1
    simp_all

include h hlate hrows hfirst in
/-- The last points of the window, one for each entity that has a result, accepted or from before. -/
lemma mem_lastRows (hchosen : IsDistinctOn (·.1.entityId) latestFirst (marked q rows first) chosen) :
    p ∈ chosen.map (fun r => moved q.window.stop r.1) ↔ p.time = q.window.stop ∧
      (lastResult (acceptedIn points q) p.entityId).or (lastResult (earlierIn points q) p.entityId) =
        some p.result := by
  have hmarked : ∀ r : TimelinePoint × Nat, r ∈ marked q rows first ↔
      (r.1 ∈ points ∧ q.accepts r.1.time = true) ∧ r.2 = 0 ∨ r.1 ∈ first ∧ r.2 = 1 := by
    intro r
    rw [mem_marked, hrows.mem_iff]
  -- the one row that is kept of an entity has the result in question
  have hone : ∀ c ∈ marked q rows first, c.1.entityId = p.entityId →
      (∀ r ∈ marked q rows first, r.1.entityId = c.1.entityId → latestFirst c ≤ latestFirst r) →
      ((∃ c' ∈ chosen, c'.1.entityId = p.entityId ∧ c'.1.result = p.result) ↔ c.1.result = p.result) := by
    intro c hc he hleast
    rw [← he]
    exact hchosen.exists_iff (fun r hr r' hr' => eq_of_latestFirst_eq h hrows hfirst hr hr') hc hleast
  refine (mem_map_moved Prod.fst).trans (and_congr_right fun _ => ?_)
  cases haccepted : lastResult (acceptedIn points q) p.entityId with
  | some last =>
    obtain ⟨a, ⟨ha, hae, haa, halatest⟩, rfl⟩ := (lastResult_accepted_eq_some_iff h).1 haccepted
    rw [Option.some_or, Option.some.injEq]
    refine hone (a, 0) ((hmarked _).2 (Or.inl ⟨⟨ha, haa⟩, rfl⟩)) hae fun r hr hre => ?_
    rcases (hmarked r).1 hr with ⟨⟨hp, hpa⟩, hmark⟩ | ⟨hp, hmark⟩
    · rcases (halatest _ hp (hre.trans hae) hpa).lt_or_eq with hlt | heq
      · exact Prod.Lex.toLex_le_toLex.2 (Or.inl (toDual_lt_toDual.2 hlt))
      · exact Prod.Lex.toLex_le_toLex.2 (Or.inr ⟨by rw [heq], hmark.ge⟩)
    · obtain ⟨htime, hresult⟩ := (hfirst _).1 hp
      obtain ⟨b, hb, -⟩ := (lastResult_earlier_eq_some_iff h).1 hresult
      have hle : r.1.time ≤ a.time := htime.trans_le (hlate a ha b hb.mem haa hb.property)
      rcases hle.lt_or_eq with hlt | heq
      · exact Prod.Lex.toLex_le_toLex.2 (Or.inl (toDual_lt_toDual.2 hlt))
      · exact Prod.Lex.toLex_le_toLex.2 (Or.inr ⟨by rw [heq], by rw [hmark]; exact Nat.zero_le 1⟩)
  | none =>
    have hnone := (lastResult_eq_none_iff fun p => q.accepts p.time).1 haccepted
    have honly : ∀ r ∈ marked q rows first, r.1.entityId = p.entityId → r.1 ∈ first ∧ r.2 = 1 := by
      intro r hr hre
      refine ((hmarked r).1 hr).resolve_left fun hr => ?_
      rw [hnone r.1 hr.1.1 hre] at hr
      exact absurd hr.1.2 (by simp)
    rw [Option.none_or]
    cases hearlier : lastResult (earlierIn points q) p.entityId with
    | some last =>
      rw [Option.some.injEq]
      refine hone (⟨p.entityId, q.window.start, last⟩, 1)
        ((hmarked _).2 (Or.inr ⟨(hfirst _).2 ⟨rfl, hearlier⟩, rfl⟩)) rfl fun r hr hre => ?_
      obtain ⟨hrf, hmark⟩ := honly r hr hre
      exact Prod.Lex.toLex_le_toLex.2 (Or.inr ⟨by rw [((hfirst _).1 hrf).1], hmark.ge⟩)
    | none =>
      refine iff_of_false ?_ (by simp)
      rintro ⟨c, hc, hce, -⟩
      have hcf := ((hfirst _).1 (honly c (hchosen.mem c hc) hce).1).2
      rw [hce, hearlier] at hcf
      exact absurd hcf (by simp)

end LastRows

include h hlate in
/-- The third relation of a leaf holds the extended timeline. -/
theorem perm_carryState {out firstChosen : List TimelinePoint} {chosen : List (TimelinePoint × Nat)}
    (hrows : rows.Perm points)
    (hfirst : IsDistinctOn (·.entityId) (fun p => toDual p.time) (rows.filter (isEarlier q)) firstChosen)
    (hchosen : IsDistinctOn (·.1.entityId) latestFirst
      (marked q rows (firstChosen.map (moved q.window.start))) chosen)
    (hout : out.Perm ((marked q rows (firstChosen.map (moved q.window.start))).map (·.1) ++
      chosen.map fun r => moved q.window.stop r.1)) : out.Perm (carryState points q) := by
  let entities := nameSet ((earlierIn points q ++ acceptedIn points q).map (·.entityId))
  have hnodup : entities.Nodup := (pairwise_nameSet _).imp ne_of_lt
  have hentities : ∀ {l : List TimelinePoint}, (∀ p ∈ l, p ∈ earlierIn points q ++ acceptedIn points q) →
      ∀ e result, lastResult l e = some result → e ∈ entities := by
    intro l hl e result hresult
    obtain ⟨p, hp, rfl⟩ := exists_mem_of_lastResult hresult
    exact mem_nameSet.2 (List.mem_map_of_mem (hl p hp))
  have hearlier := hentities fun p hp => List.mem_append_left (acceptedIn points q) hp
  have haccepted := hentities fun p hp => List.mem_append_right (earlierIn points q) hp
  have hmoved : ∀ t, ((firstChosen.map (moved t)).map (·.entityId)).Nodup := by
    intro t
    rw [List.map_map]
    exact hfirst.nodup
  have hfirstRows := fun p => mem_firstRows h hrows hfirst (p := p)
  have hstarts : (firstChosen.map (moved q.window.start)).Perm
      (entities.filterMap fun e => (lastResult (earlierIn points q) e).map fun result =>
        ⟨e, q.window.start, result⟩) := by
    refine (List.perm_ext_iff_of_nodup (hmoved _).of_map (nodup_added hnodup _ _)).2 fun p => ?_
    rw [hfirstRows, mem_added hearlier]
  have hstops : (chosen.map fun r => moved q.window.stop r.1).Perm
      (entities.filterMap fun e =>
        ((lastResult (acceptedIn points q) e).or (lastResult (earlierIn points q) e)).map fun result =>
          ⟨e, q.window.stop, result⟩) := by
    have hchosenNodup : ((chosen.map fun r => moved q.window.stop r.1).map (·.entityId)).Nodup := by
      rw [List.map_map]
      exact hchosen.nodup
    refine (List.perm_ext_iff_of_nodup hchosenNodup.of_map (nodup_added hnodup _ _)).2 fun p => ?_
    rw [mem_lastRows h hlate hrows hfirstRows hchosen, mem_added fun e result hresult => ?_]
    rcases Option.or_eq_some_iff.1 hresult with hresult | ⟨-, hresult⟩
    · exact haccepted e result hresult
    · exact hearlier e result hresult
  have hmarkedRows : ∀ first : List TimelinePoint,
      (marked q rows first).map (·.1) = (rows.filter fun p => q.accepts p.time) ++ first := by
    intro first
    simp [marked, Function.comp_def]
  rw [hmarkedRows] at hout
  have hpoints : (rows.filter fun p => q.accepts p.time).Perm (acceptedIn points q) :=
    (hrows.trans (List.mergeSort_perm _ _).symm).filter _
  exact hout.trans ((hpoints.append hstarts).append hstops)

end Extended

/-! ### The rows of a leaf -/

variable {leaf : PlanLeaf} {n : Nat}

/-- Accepted points are not before the window, if there are points from before it at all. -/
lemma start_le_of_accepts (hcarries : q.carriesState = true)
    (hbound : ∀ bound, q.bounds = .before bound → lowWaterMark < bound) (hp : q.accepts p.time = true)
    (hr : IsEarlier q r) : q.window.start ≤ p.time := by
  obtain ⟨bounds, property, inclusive⟩ := q
  cases bounds with
  | unbounded | between => contradiction
  | before bound =>
    -- what is not after the low water mark is before the bound
    obtain ⟨haccepts, hle⟩ := hr
    have hlt : r.time < bound := lt_of_le_of_lt hle (hbound bound rfl)
    cases inclusive <;> simp [TimeQuery.accepts, hlt, hlt.le] at haccepts
  | after bound =>
    cases inclusive
    · exact (of_decide_eq_true hp : bound < p.time).le
    · exact of_decide_eq_true hp

/-- The definitions of a leaf that does not carry states on: its samples and their runs. -/
lemma carriesOut_plain_iff (hcarries : q.carriesState = false) :
    CarriesOut samplesOf (leafDefinitions q leaf n) tables tables' ↔
      ∃ rows ranked out, rows.Perm ((samplesOf leaf).filter fun p => q.accepts p.time) ∧
        IsRanking rows ranked ∧
        IsGroupBy groupKey (IsGroupRow (ranked.filter (·.1.result))) (ranked.filter (·.1.result)) out ∧
        tables' = Function.update (Function.update tables (.samples n) (.points rows)) (.node n)
          (.intervals out) := by
  have hsampled : isSampled q = fun p => q.accepts p.time := by
    funext p
    rw [isSampled, hcarries, Bool.false_or]
  have hdefinitions : leafDefinitions q leaf n =
      [⟨.samples n, .samples q leaf⟩, ⟨.node n, .runs (.samples n)⟩] := by
    simp [leafDefinitions, hcarries]
  simp only [hdefinitions, ← hsampled, carriesOut_cons_iff, carriesOut_nil_iff]
  constructor
  · rintro ⟨_, hsamples, _, hruns, rfl⟩
    obtain ⟨rows, hrows, rfl⟩ := mayHold_samples_iff.1 hsamples
    obtain ⟨ranked, out, hranked, hout, rfl⟩ := (mayHold_runs_iff (Function.update_self ..)).1 hruns
    exact ⟨rows, ranked, out, hrows, hranked, hout, rfl⟩
  · rintro ⟨rows, ranked, out, hrows, hranked, hout, rfl⟩
    exact ⟨_, .samples hrows, _, .runs (Function.update_self ..) hranked hout, rfl⟩

/-- The definitions of a leaf that carries states on: its samples, the first points of the window, all points
of the window, and their runs. -/
lemma carriesOut_carrying_iff (hcarries : q.carriesState = true) :
    CarriesOut samplesOf (leafDefinitions q leaf n) tables tables' ↔
      ∃ rows firstChosen chosen points ranked out, rows.Perm (samplesOf leaf) ∧
        IsDistinctOn (·.entityId) (fun p => toDual p.time) (rows.filter (isEarlier q)) firstChosen ∧
        IsDistinctOn (·.1.entityId) latestFirst (marked q rows (firstChosen.map (moved q.window.start)))
          chosen ∧
        points.Perm ((marked q rows (firstChosen.map (moved q.window.start))).map (·.1) ++
          chosen.map fun r => moved q.window.stop r.1) ∧
        IsRanking points ranked ∧
        IsGroupBy groupKey (IsGroupRow (ranked.filter (·.1.result))) (ranked.filter (·.1.result)) out ∧
        tables' = Function.update (Function.update (Function.update (Function.update tables
          (.samples n) (.points rows)) (.starts n) (.points (firstChosen.map (moved q.window.start))))
          (.timeline n) (.points points)) (.node n) (.intervals out) := by
  have hsampled : (samplesOf leaf).filter (isSampled q) = samplesOf leaf :=
    List.filter_eq_self.2 fun p _ => by rw [isSampled, hcarries, Bool.true_or]
  have hdefinitions : leafDefinitions q leaf n = [⟨.samples n, .samples q leaf⟩,
      ⟨.starts n, .starts q (.samples n)⟩, ⟨.timeline n, .timeline q (.samples n) (.starts n)⟩,
      ⟨.node n, .runs (.timeline n)⟩] := by
    simp [leafDefinitions, hcarries]
  simp only [hdefinitions, carriesOut_cons_iff, carriesOut_nil_iff, mayHold_samples_iff, hsampled]
  constructor
  · rintro ⟨_, ⟨rows, hrows, rfl⟩, _, hstarts, _, htimeline, _, hruns, rfl⟩
    obtain ⟨firstChosen, hfirst, rfl⟩ := (mayHold_starts_iff (Function.update_self ..)).1 hstarts
    obtain ⟨chosen, points, hchosen, hpoints, rfl⟩ :=
      (mayHold_timeline_iff (by simp : _ = LeafTable.points rows) (Function.update_self ..)).1 htimeline
    obtain ⟨ranked, out, hranked, hout, rfl⟩ := (mayHold_runs_iff (Function.update_self ..)).1 hruns
    exact ⟨rows, firstChosen, chosen, points, ranked, out, hrows, hfirst, hchosen, hpoints, hranked, hout, rfl⟩
  · rintro ⟨rows, firstChosen, chosen, points, ranked, out, hrows, hfirst, hchosen, hpoints, hranked, hout, rfl⟩
    exact ⟨_, ⟨rows, hrows, rfl⟩, _, .starts (Function.update_self ..) hfirst, _,
      .timeline (by simp) (Function.update_self ..) hchosen hpoints, _,
      .runs (Function.update_self ..) hranked hout, rfl⟩

/-- **The relations of a leaf agree with its timeline.**  If no entity has two different samples at one time,
and the bound of a query for what is before it comes after the low water mark, then the relations of a leaf can
be carried out, and however that is done, the rows of the last are the intervals that its samples give in
memory, each as often. -/
theorem leaf_rows_perm_intervals (samplesOf : PlanLeaf → List TimelinePoint) (time : TimeQuery)
    (leaf : PlanLeaf) (n : Nat) (tables : RelationName → LeafTable) (h : OnePerTime (samplesOf leaf))
    (hbound : ∀ bound, time.bounds = .before bound → lowWaterMark < bound) :
    (∃ tables', CarriesOut samplesOf (leafDefinitions time leaf n) tables tables') ∧
      ∀ tables', CarriesOut samplesOf (leafDefinitions time leaf n) tables tables' →
        ∃ rows, tables' (.node n) = .intervals rows ∧
          rows.Perm (TimelinePoint.intervals (samplesOf leaf) time) := by
  cases hcarries : time.carriesState with
  | false =>
    have hintervals : TimelinePoint.intervals (samplesOf leaf) time =
        collapse ((samplesOf leaf).filter fun p => time.accepts p.time) := by
      rw [TimelinePoint.intervals, if_neg (by simp [hcarries])]
    simp only [carriesOut_plain_iff hcarries, hintervals]
    constructor
    · obtain ⟨ranked, out, hranked, hout⟩ := exists_runs ((samplesOf leaf).filter fun p => time.accepts p.time)
      exact ⟨_, _, ranked, out, List.Perm.refl _, hranked, hout, rfl⟩
    · rintro tables' ⟨rows, ranked, out, hrows, hranked, hout, rfl⟩
      refine ⟨out, Function.update_self .., ?_⟩
      rw [← collapse_eq_of_perm hrows]
      exact perm_collapse hranked hout
  | true =>
    have hintervals : TimelinePoint.intervals (samplesOf leaf) time =
        collapse (carryState (samplesOf leaf) time) := by
      rw [TimelinePoint.intervals, if_pos hcarries]
    have hlate : ∀ p ∈ samplesOf leaf, ∀ r ∈ samplesOf leaf, time.accepts p.time = true →
        IsEarlier time r → time.window.start ≤ p.time :=
      fun p _ r _ hp hr => start_le_of_accepts hcarries hbound hp hr
    simp only [carriesOut_carrying_iff hcarries, hintervals]
    constructor
    · obtain ⟨firstChosen, hfirst⟩ := exists_isDistinctOn (fun p : TimelinePoint => p.entityId)
        (fun p => toDual p.time) ((samplesOf leaf).filter (isEarlier time))
      obtain ⟨chosen, hchosen⟩ := exists_isDistinctOn (fun r : TimelinePoint × Nat => r.1.entityId)
        latestFirst (marked time (samplesOf leaf) (firstChosen.map (moved time.window.start)))
      obtain ⟨ranked, out, hranked, hout⟩ := exists_runs
        ((marked time (samplesOf leaf) (firstChosen.map (moved time.window.start))).map (·.1) ++
          chosen.map fun r => moved time.window.stop r.1)
      exact ⟨_, _, firstChosen, chosen, _, ranked, out, List.Perm.refl _, hfirst, hchosen, List.Perm.refl _,
        hranked, hout, rfl⟩
    · rintro tables' ⟨rows, firstChosen, chosen, points, ranked, out, hrows, hfirst, hchosen, hout, hranked,
        hgroups, rfl⟩
      refine ⟨out, Function.update_self .., ?_⟩
      rw [← collapse_eq_of_perm (perm_carryState h hlate hrows hfirst hchosen hout)]
      exact perm_collapse hranked hgroups

/-- Samples of two entities. One of them has no sample after five seconds. -/
def twoEntities : List TimelinePoint :=
  [⟨"urn:a", .ofSecond 1, true⟩, ⟨"urn:a", .ofSecond 5, false⟩, ⟨"urn:a", .ofSecond 7, true⟩,
    ⟨"urn:b", .ofSecond 2, true⟩]

/-- The query for what is five seconds after the beginning or later. -/
def fromFive : TimeQuery := ⟨.after (.ofSecond 5), .observedAt, true⟩

lemma intervals_twoEntities : TimelinePoint.intervals twoEntities fromFive =
    [⟨"urn:a", .ofSecond 5, highWaterMark⟩, ⟨"urn:b", .ofSecond 5, highWaterMark⟩] := by
  have hsamples : sort twoEntities = twoEntities := sort_eq_of_perm (List.Perm.refl _) (by decide)
  have hcarried : carryState twoEntities fromFive =
      [⟨"urn:a", .ofSecond 5, false⟩, ⟨"urn:a", .ofSecond 7, true⟩, ⟨"urn:a", .ofSecond 5, true⟩,
        ⟨"urn:b", .ofSecond 5, true⟩, ⟨"urn:a", highWaterMark, true⟩, ⟨"urn:b", highWaterMark, true⟩] := by
    rw [carryState, hsamples]
    decide
  have hsorted : sort (carryState twoEntities fromFive) =
      [⟨"urn:a", .ofSecond 5, false⟩, ⟨"urn:a", .ofSecond 5, true⟩, ⟨"urn:a", .ofSecond 7, true⟩,
        ⟨"urn:a", highWaterMark, true⟩, ⟨"urn:b", .ofSecond 5, true⟩, ⟨"urn:b", highWaterMark, true⟩] := by
    rw [hcarried]
    exact sort_eq_of_perm (by decide) (by decide)
  rw [TimelinePoint.intervals, if_pos (by decide), collapse, hsorted]
  decide

/-- A sample on the bound, a state that is carried in over it, and an entity without accepted samples. -/
theorem leaf_rows_perm_intervals_twoEntities :
    let leaf : PlanLeaf := .comparison ⟨"temperature", none, .value, .equal, .boolean true⟩
    let tables : RelationName → LeafTable := fun _ => .points []
    OnePerTime twoEntities ∧ (∀ bound, fromFive.bounds = .before bound → lowWaterMark < bound) ∧
      (∃ tables', CarriesOut (fun _ => twoEntities) (leafDefinitions fromFive leaf 0) tables tables') ∧
      ∀ tables', CarriesOut (fun _ => twoEntities) (leafDefinitions fromFive leaf 0) tables tables' →
        ∃ rows, tables' (.node 0) = .intervals rows ∧
          rows.Perm [⟨"urn:a", .ofSecond 5, highWaterMark⟩, ⟨"urn:b", .ofSecond 5, highWaterMark⟩] := by
  intro leaf tables
  have hone : OnePerTime twoEntities := by decide
  have hbound : ∀ bound, fromFive.bounds = .before bound → lowWaterMark < bound := by
    intro bound hbefore
    cases hbefore
  have hrows := leaf_rows_perm_intervals (fun _ => twoEntities) fromFive leaf 0 tables hone hbound
  rw [intervals_twoEntities] at hrows
  exact ⟨hone, hbound, hrows⟩

end EntityHistory.Sql
