/-
Pages that a database cuts.

The statements for a page number the entities of the intervals from one on, look up the number of the anchor,
and select by comparing numbers: those within a page from the anchor on, the one that is a page later, the one
that is a page earlier or else the first, and all of them. In memory the entities stand at positions from zero
on and a page is cut out of them. Both come to the same for all intervals, anchors and sizes.

* `Sql.addsSame_selectIntervals`, `Sql.addsSame_selectNext`, `Sql.addsSame_selectPrev`: what the statements are
  written from;
* `Sql.IsIds.perm`, `Sql.IsIds.isAnchor_iff`: the numbers are the positions and one more;
* `Sql.selections_agree_paginate`: what the statements select is the page in memory.
-/
import EntityHistory.Proofs.Interval.Page
import EntityHistory.Proofs.Sql.Ranking
import EntityHistory.Proofs.Sql.Tables
import EntityHistory.Proofs.Sql.Truth
import EntityHistory.Sql.Statements

namespace EntityHistory.Sql

open Fragment EntityInterval

/-! ### Selections by number -/

/-- A number that is compared. -/
inductive NumberTerm where
  /-- The number of an entity. -/
  | own
  /-- The number of the anchor. -/
  | anchor
  | parameter (n : Nat)
  | literal (n : Nat)
  | plus (a b : NumberTerm)
  | minus (a b : NumberTerm)
  | greatest (a b : NumberTerm)

/-- The written form of a number. -/
def NumberTerm.fragment : NumberTerm → Fragment
  | .own => text "ids.rn"
  | .anchor => text "anchor.rn"
  | .parameter n => bind (.ofNat n)
  | .literal n => text (toString n)
  | .plus a b => a.fragment ++ text " + " ++ b.fragment
  | .minus a b => a.fragment ++ text " - " ++ b.fragment
  | .greatest a b => text "greatest(" ++ a.fragment ++ text ", " ++ b.fragment ++ text ")"

/-- The value of a number when those of an entity and of the anchor are known. -/
def NumberTerm.eval (own anchor : Nat) : NumberTerm → Int
  | .own => own
  | .anchor => anchor
  | .parameter n => n
  | .literal n => n
  | .plus a b => a.eval own anchor + b.eval own anchor
  | .minus a b => a.eval own anchor - b.eval own anchor
  | .greatest a b => max (a.eval own anchor) (b.eval own anchor)

/-- A comparison of numbers. -/
structure NumberTest where
  operator : Operator
  left : NumberTerm
  right : NumberTerm

/-- The written form of a comparison. -/
def NumberTest.fragment (t : NumberTest) : Fragment :=
  t.left.fragment ++ text (operatorText t.operator) ++ t.right.fragment

/-- Whether a comparison holds. -/
def NumberTest.holds (t : NumberTest) (own anchor : Nat) : Bool :=
  meets t.operator (compare (t.left.eval own anchor) (t.right.eval own anchor))

/-- What is selected of the tables for pages. -/
inductive PageSelection where
  /-- The intervals of the entities whose numbers pass some tests. -/
  | intervals (tests : List NumberTest)
  /-- The entities whose numbers pass some tests. -/
  | entities (tests : List NumberTest)
  | count

namespace PageSelection

/-- Tests as a condition. -/
def condition (tests : List NumberTest) : Fragment :=
  text " WHERE " ++ Fragment.separated " AND " (tests.map NumberTest.fragment)

/-- The written form of a selection. -/
def fragment : PageSelection → Fragment
  | .intervals tests =>
    text ("SELECT i.entity_id, i.start_time, i.end_time FROM intervals i JOIN ids ON ids.entity_id = " ++
        "i.entity_id CROSS JOIN anchor") ++
      condition tests ++ text " ORDER BY i.entity_id, i.start_time"
  | .entities tests => text "SELECT ids.entity_id FROM ids CROSS JOIN anchor" ++ condition tests
  | .count => text "SELECT count(*) AS total FROM ids"

/-- Within a page of a size from the anchor on. -/
def pageTests (size : Nat) : List NumberTest :=
  [⟨.greaterOrEqual, .own, .anchor⟩, ⟨.less, .own, .plus .anchor (.parameter size)⟩]

/-- A page later than the anchor. -/
def nextTests (size : Nat) : List NumberTest := [⟨.equal, .own, .plus .anchor (.parameter size)⟩]

/-- A page earlier than the anchor, or else the first one, but before the anchor. -/
def prevTests (size : Nat) : List NumberTest :=
  [⟨.greater, .anchor, .literal 1⟩,
    ⟨.equal, .own, .greatest (.minus .anchor (.parameter size)) (.literal 1)⟩]

def page (size : Nat) : PageSelection := .intervals (pageTests size)

def next (size : Nat) : PageSelection := .entities (nextTests size)

def prev (size : Nat) : PageSelection := .entities (prevTests size)

/-- The statement for a selection of an interval query. -/
def statement (q : IntervalQuery) (s : PageSelection) : Statement :=
  (withFragment (definitionsOf q) ++ text " " ++ s.fragment).render

end PageSelection

/-! ### The written statements -/

lemma addsSame_selectIntervals (page : PageRequest) :
    AddsSame (selectIntervals (some page)) (text " " ++ (PageSelection.page page.size).fragment) := by
  have hselect : " SELECT i.entity_id, i.start_time, i.end_time FROM intervals i JOIN ids ON ids.entity_id = " =
      " " ++ "SELECT i.entity_id, i.start_time, i.end_time FROM intervals i JOIN ids ON ids.entity_id = " := rfl
  have hwhere : "i.entity_id CROSS JOIN anchor WHERE ids.rn >= anchor.rn AND ids.rn < anchor.rn + " =
      "i.entity_id CROSS JOIN anchor" ++ " WHERE " ++ "ids.rn" ++ " >= " ++ "anchor.rn" ++ " AND " ++
        "ids.rn" ++ " < " ++ "anchor.rn" ++ " + " := rfl
  intro s
  rw [selectIntervals, hselect, hwhere]
  simp only [PageSelection.page, PageSelection.pageTests, PageSelection.fragment, PageSelection.condition,
    List.map_cons, List.map_nil, Fragment.separated, NumberTest.fragment, NumberTerm.fragment, operatorText,
    continuedBy_append, continuedBy_text, String.append_assoc]

lemma addsSame_selectNext (size : Nat) :
    AddsSame (selectNext size) (text " " ++ (PageSelection.next size).fragment) := by
  have htext : " SELECT ids.entity_id FROM ids CROSS JOIN anchor WHERE ids.rn = anchor.rn + " =
      " " ++ "SELECT ids.entity_id FROM ids CROSS JOIN anchor" ++ " WHERE " ++ "ids.rn" ++ " = " ++
        "anchor.rn" ++ " + " := rfl
  intro s
  rw [selectNext, htext]
  simp only [PageSelection.next, PageSelection.nextTests, PageSelection.fragment, PageSelection.condition,
    List.map_cons, List.map_nil, Fragment.separated, NumberTest.fragment, NumberTerm.fragment, operatorText,
    continuedBy_append, continuedBy_text, String.append_assoc]

lemma addsSame_selectPrev (size : Nat) :
    AddsSame (selectPrev size) (text " " ++ (PageSelection.prev size).fragment) := by
  have htext : " SELECT ids.entity_id FROM ids CROSS JOIN anchor WHERE anchor.rn > 1 AND ids.rn = " ++
        "greatest(anchor.rn - " =
      " " ++ "SELECT ids.entity_id FROM ids CROSS JOIN anchor" ++ " WHERE " ++ "anchor.rn" ++ " > " ++
        toString 1 ++ " AND " ++ "ids.rn" ++ " = " ++ "greatest(" ++ "anchor.rn" ++ " - " := rfl
  have hend : ", 1)" = ", " ++ toString 1 ++ ")" := rfl
  intro s
  rw [selectPrev, htext, hend]
  simp only [PageSelection.prev, PageSelection.prevTests, PageSelection.fragment, PageSelection.condition,
    List.map_cons, List.map_nil, Fragment.separated, NumberTest.fragment, NumberTerm.fragment, operatorText,
    continuedBy_append, continuedBy_text, String.append_assoc]

lemma addsSame_selectCount : AddsSame selectCount (text " " ++ PageSelection.count.fragment) := by
  have htext : " SELECT count(*) AS total FROM ids" = " " ++ "SELECT count(*) AS total FROM ids" := rfl
  intro s
  rw [selectCount, htext]
  simp only [PageSelection.fragment, continuedBy_append, continuedBy_text, String.append_assoc]

/-- The statements of a query for a page are written from the selections. -/
theorem intervalStatements_eq {q : IntervalQuery} {page : PageRequest} (hpage : q.page = some page) :
    intervalStatements q = {
      intervals := (PageSelection.page page.size).statement q
      nextAnchor := some ((PageSelection.next page.size).statement q)
      prevAnchor := some ((PageSelection.prev page.size).statement q)
      count := if page.count then some (PageSelection.count.statement q) else none } := by
  have hrender {f : Fragment} {selection : PageSelection} (h : AddsSame f (text " " ++ selection.fragment)) :
      (withFragment (definitionsOf q) ++ f).render = selection.statement q := by
    rw [PageSelection.statement, List.append_assoc]
    exact (AddsSame.refl _).append h ⟨"", []⟩
  rw [intervalStatements, intervalFragments, selects, hpage, ← hrender (addsSame_selectIntervals page),
    ← hrender (addsSame_selectNext page.size), ← hrender (addsSame_selectPrev page.size),
    ← hrender addsSame_selectCount]
  cases hcount : page.count <;> simp [IntervalStatements.map, hcount]

/-! ### The tables -/

/-- The tables that pages are cut by. -/
structure PageTables where
  intervals : List EntityInterval := []
  /-- The entities with their numbers. -/
  ids : List (String × Nat) := []
  /-- The number of the anchor. -/
  anchor : Nat := 0

/-- The value of a selection of at most one row. Without a row it is null, and with several it has none. -/
inductive IsScalar {α : Type} : List α → Option α → Prop
  | null : IsScalar [] none
  | value (a : α) : IsScalar [a] (some a)

/-- The distinct entities of intervals, numbered in their order. -/
def IsIds (rows : List EntityInterval) (ids : List (String × Nat)) : Prop :=
  ∃ (entities : List String) (number : Fin entities.length → Nat), entities.Nodup ∧
    (∀ e, e ∈ entities ↔ ∃ i ∈ rows, i.entityId = e) ∧
    IsRowNumber (fun _ => ()) (fun k => entities[k]) number ∧ ids = numbered entities number

/-- The number of an anchor, or one if it is null or has none. -/
def IsAnchor (ids : List (String × Nat)) (entityId : Option String) (n : Nat) : Prop :=
  ∃ value, IsScalar ((ids.filter fun r => entityId = some r.1).map (·.2)) value ∧ n = value.getD 1

/-- What a definition may make of the tables that pages are cut by. Any rows may be the intervals. -/
inductive Definition.MayMake : Definition → PageTables → PageTables → Prop
  | intervals {relation : Relation} {t : PageTables} {rows : List EntityInterval} :
      MayMake ⟨.intervals, relation⟩ t { t with intervals := rows }
  | ids {t : PageTables} {ids : List (String × Nat)} (hids : IsIds t.intervals ids) :
      MayMake ⟨.ids, .ids⟩ t { t with ids }
  | anchor {t : PageTables} {entityId : Option String} {n : Nat} (hanchor : IsAnchor t.ids entityId n) :
      MayMake ⟨.anchor, .anchor entityId⟩ t { t with anchor := n }
  | other {d : Definition} {t : PageTables} (hd : d.name ∉ [.intervals, .ids, .anchor]) : MayMake d t t

/-- What definitions may make of the tables, one after the other. -/
inductive MayMakeAll : List Definition → PageTables → PageTables → Prop
  | nil {t : PageTables} : MayMakeAll [] t t
  | cons {d : Definition} {ds : List Definition} {t t' t'' : PageTables} (hd : d.MayMake t t')
      (hds : MayMakeAll ds t' t'') : MayMakeAll (d :: ds) t t''

/-- What is answered to a selection. -/
inductive PageAnswer where
  | intervals (rows : List EntityInterval)
  | entities (names : List String)
  | total (n : Nat)

/-- Whether numbers pass some tests. -/
def passes (tests : List NumberTest) (own anchor : Nat) : Bool := tests.all fun test => test.holds own anchor

/-- What may be answered to a selection. -/
inductive PageSelection.MayAnswer (t : PageTables) : PageSelection → PageAnswer → Prop
  | intervals {tests : List NumberTest} {out : List EntityInterval}
      (hout : out.Perm (t.intervals.flatMap fun i =>
        (t.ids.filter fun r => r.1 = i.entityId ∧ passes tests r.2 t.anchor).map fun _ => i))
      (hsorted : out.Pairwise fun i j => toLex (i.entityId, i.start) ≤ toLex (j.entityId, j.start)) :
      MayAnswer t (.intervals tests) (.intervals out)
  | entities {tests : List NumberTest} {out : List String}
      (hout : out.Perm ((t.ids.filter fun r => passes tests r.2 t.anchor).map (·.1))) :
      MayAnswer t (.entities tests) (.entities out)
  | count : MayAnswer t .count (.total t.ids.length)

/-! ### Numbers and positions -/

section Numbering

variable {rows : List EntityInterval} {ids : List (String × Nat)} {anchor : Option String} {e : String}
  {k n : Nat}

/-- The entities are numbered from one on in their order. -/
lemma IsIds.perm (h : IsIds rows ids) : ids.Perm ((pageIds rows).zipIdx 1) := by
  obtain ⟨entities, number, hnodup, hmem, hnumber, rfl⟩ := h
  -- all entities are of one partition
  let partition : String → String := fun _ => ""
  let place : String → String := id
  have hpartition : IsRowNumber (fun k => partition entities[k]) (fun k => place entities[k]) number :=
    ⟨fun k => by simpa [partition] using hnumber.eq_card k, fun k j _ => hnumber.injective k j rfl,
      fun k j _ => hnumber.lt_of_lt k j rfl⟩
  obtain ⟨l, hl⟩ := exists_isSortedPart hpartition ""
  have hperm : l.Perm (numbered entities number) := by simpa [partition] using hl.perm
  have hentities : (l.map (·.1)).Perm entities := by simpa [partition] using hl.map_fst_perm
  have hnames : l.map (·.1) = pageIds rows := by
    have hlt : (l.map (·.1)).Pairwise (· < ·) :=
      ((hl.pairwise_place hpartition).and (hentities.nodup_iff.2 hnodup)).imp fun h => lt_of_le_of_ne h.1 h.2
    refine List.Pairwise.eq_of_mem_iff hlt (pairwise_pageIds rows) fun e => ?_
    rw [hentities.mem_iff, hmem, mem_pageIds]
  have hzip : l = (pageIds rows).zipIdx 1 := by
    refine List.ext_getElem (by rw [List.length_zipIdx, ← hnames, List.length_map]) fun k hk _ => ?_
    rw [List.getElem_zipIdx]
    refine Prod.ext ?_ ?_
    · simp only [← hnames, List.getElem_map]
    · rw [number_getElem hl.sorted (fun r hr => hl.eq_countP hpartition hr) k hk, Nat.add_comm]
  rw [← hzip]
  exact hperm.symm

lemma exists_isIds (rows : List EntityInterval) : ∃ ids, IsIds rows ids := by
  obtain ⟨number, hnumber, -⟩ := exists_isRowNumber (fun _ : Fin (pageIds rows).length => ())
    fun k => (pageIds rows)[k]
  exact ⟨_, pageIds rows, number, nodup_pageIds rows, fun e => mem_pageIds, hnumber, rfl⟩

lemma IsIds.nodup (h : IsIds rows ids) : ids.Nodup := by
  refine h.perm.nodup_iff.2 (List.Nodup.of_map Prod.fst ?_)
  rw [List.zipIdx_map_fst]
  exact nodup_pageIds rows

/-- The number of an entity is its position and one more. -/
lemma IsIds.mem_iff (h : IsIds rows ids) : (e, n) ∈ ids ↔ ∃ k, (pageIds rows)[k]? = some e ∧ n = k + 1 := by
  rw [h.perm.mem_iff, List.mem_zipIdx_iff_le_and_getElem?_sub]
  constructor
  · rintro ⟨hle, hget⟩
    exact ⟨n - 1, hget, by omega⟩
  · rintro ⟨k, hget, rfl⟩
    exact ⟨by omega, hget⟩

/-- The row of an entity is the one with its position. -/
lemma IsIds.filter_eq (h : IsIds rows ids) (hk : (pageIds rows)[k]? = some e) :
    (ids.filter fun r => r.1 = e) = [(e, k + 1)] := by
  refine List.perm_singleton.1 ((List.perm_ext_iff_of_nodup (h.nodup.filter _) (List.nodup_singleton _)).2 ?_)
  rintro ⟨e', n⟩
  rw [List.mem_filter, h.mem_iff, List.mem_singleton, decide_eq_true_eq, Prod.mk.injEq]
  constructor
  · rintro ⟨⟨j, hj, rfl⟩, rfl⟩
    exact ⟨rfl, congrArg (· + 1) ((positionOf_eq hj).symm.trans (positionOf_eq hk))⟩
  · rintro ⟨rfl, rfl⟩
    exact ⟨⟨k, hk, rfl⟩, rfl⟩

lemma isScalar_toList_iff {α : Type} {value value' : Option α} :
    IsScalar value.toList value' ↔ value' = value := by
  constructor
  · intro h
    cases value with
    | none =>
      cases h
      rfl
    | some a =>
      cases h
      rfl
  · rintro rfl
    cases value' with
    | none => exact .null
    | some a => exact .value a

/-- The number of an anchor that has at most one row. -/
lemma isAnchor_iff_of_eq {value : Option Nat}
    (h : (ids.filter fun r => anchor = some r.1).map (·.2) = value.toList) :
    IsAnchor ids anchor n ↔ n = value.getD 1 := by
  simp only [IsAnchor, h, isScalar_toList_iff, exists_eq_left]

/-- The row of an anchor is the one with its position. -/
lemma IsIds.isAnchor_iff (h : IsIds rows ids) : IsAnchor ids anchor n ↔ n = positionOf rows anchor + 1 := by
  by_cases hpresent : ∃ e, anchor = some e ∧ e ∈ pageIds rows
  · obtain ⟨e, rfl, he⟩ := hpresent
    obtain ⟨k, hlt, hget⟩ := List.getElem_of_mem he
    have hk : (pageIds rows)[k]? = some e := List.getElem?_eq_some_iff.2 ⟨hlt, hget⟩
    have hrow : ((ids.filter fun r => some e = some r.1).map (·.2)) = (some (k + 1)).toList := by
      simp only [Option.some.injEq, eq_comm (a := e), h.filter_eq hk, List.map_cons, List.map_nil,
        Option.toList_some]
    rw [isAnchor_iff_of_eq hrow, positionOf_eq hk]
    rfl
  · push Not at hpresent
    have hnone : ((ids.filter fun r => anchor = some r.1).map (·.2)) = (none : Option Nat).toList := by
      rw [Option.toList_none, List.map_eq_nil_iff, List.filter_eq_nil_iff]
      rintro ⟨e, n⟩ hr hanchor
      obtain ⟨k, hk, -⟩ := h.mem_iff.1 hr
      exact hpresent e (of_decide_eq_true hanchor) (List.mem_of_getElem? hk)
    rw [isAnchor_iff_of_eq hnone, positionOf_of_not_mem hpresent]
    rfl

/-- Of numbered elements the one with a number is that at a position. -/
lemma map_filter_zipIdx {α : Type} (l : List α) (k m : Nat) :
    ((l.zipIdx m).filter fun r => r.2 = k + m).map (·.1) = l[k]?.toList := by
  induction l generalizing k m with
  | nil => rfl
  | cons a l ih =>
    rw [List.zipIdx_cons]
    cases k with
    | zero =>
      have hrest : ((l.zipIdx (m + 1)).filter fun r => r.2 = 0 + m) = [] := by
        refine List.filter_eq_nil_iff.2 fun r hr heq => ?_
        have hle := (List.mem_zipIdx_iff_le_and_getElem?_sub.1 hr).1
        have heq := of_decide_eq_true heq
        omega
      rw [List.filter_cons_of_pos (by simp), hrest]
      rfl
    | succ k =>
      rw [List.filter_cons_of_neg (by simp), ← Nat.add_right_comm, Nat.add_assoc, ih]
      rfl

/-- The entity with a number is the one at its position. -/
lemma IsIds.perm_toList_iff {out : List String} (h : IsIds rows ids) {p : Nat → Bool}
    (hp : ∀ n, p n = true ↔ n = k + 1) :
    out.Perm ((ids.filter fun r => p r.2).map (·.1)) ↔ out = (pageIds rows)[k]?.toList := by
  have hfilter : ((ids.filter fun r => p r.2).map (·.1)).Perm (pageIds rows)[k]?.toList := by
    rw [← map_filter_zipIdx _ k 1]
    refine ((h.perm.filter _).trans (List.Perm.of_eq (List.filter_congr fun r _ => ?_))).map _
    rw [Bool.eq_iff_iff, hp, decide_eq_true_eq]
  rw [(hfilter.symm.congr_right _).symm]
  cases (pageIds rows)[k]? with
  | none => exact List.perm_nil
  | some e => exact List.perm_singleton

/-- Elements that are each given once or not at all are picked. -/
lemma flatMap_eq_filter {α : Type} {l : List α} {f : α → List α} {p : α → Bool}
    (h : ∀ a ∈ l, f a = if p a then [a] else []) : l.flatMap f = l.filter p := by
  induction l with
  | nil => rfl
  | cons a l ih =>
    rw [List.forall_mem_cons] at h
    rw [List.flatMap_cons, h.1, ih h.2, List.filter_cons]
    split <;> rfl

/-- The intervals of the entities with numbers from one on and below another are those of a page. -/
lemma IsIds.flatMap_eq (h : IsIds rows ids) {position size : Nat} {p : Nat → Bool}
    (hp : ∀ n, p n = true ↔ position + 1 ≤ n ∧ n < position + 1 + size) :
    (rows.flatMap fun i => (ids.filter fun r => r.1 = i.entityId ∧ p r.2).map fun _ => i) =
      rows.filter fun i => (((pageIds rows).drop position).take size).contains i.entityId := by
  refine flatMap_eq_filter fun i hi => ?_
  obtain ⟨k, hlt, hget⟩ := List.getElem_of_mem (mem_pageIds.2 ⟨i, hi, rfl⟩)
  have hk : (pageIds rows)[k]? = some i.entityId := List.getElem?_eq_some_iff.2 ⟨hlt, hget⟩
  have hfilter : (ids.filter fun r => r.1 = i.entityId ∧ p r.2) = [(i.entityId, k + 1)].filter fun r => p r.2 := by
    rw [← h.filter_eq hk, List.filter_filter]
    exact List.filter_congr fun r _ => by simp [Bool.and_comm]
  have hpage : (((pageIds rows).drop position).take size).contains i.entityId = p (k + 1) := by
    rw [Bool.eq_iff_iff, List.contains_iff_mem, mem_take_drop_pageIds hk, hp]
    omega
  rw [hfilter, hpage]
  cases hpk : p (k + 1) <;> simp [hpk]

end Numbering

/-! ### Carrying out the definitions -/

section Definitions

variable {q : IntervalQuery} {page : PageRequest} {ds es : List Definition} {t t' : PageTables}

lemma RelationName.Within.not_mem {name : RelationName} {low high : Nat} (h : name.Within low high) :
    name ∉ [.intervals, .ids, .anchor] := by
  cases name with
  | node n | samples n | starts n | timeline n => simp
  | candidates | intervals | ids | anchor => exact h.elim

/-- The last definitions of a query for a page are those that the page is cut by. -/
lemma exists_definitionsOf_eq (hpage : q.page = some page) : ∃ ds relation,
    (∀ d ∈ ds, d.name ∉ [.intervals, .ids, .anchor]) ∧
      definitionsOf q = ds ++ [⟨.intervals, relation⟩, ⟨.ids, .ids⟩, ⟨.anchor, .anchor page.anchor⟩] := by
  have hcandidates : RelationName.candidates ∉ [RelationName.intervals, .ids, .anchor] := by simp
  cases hplan : q.plan with
  | none =>
    refine ⟨[⟨.candidates, .candidates q.filter⟩], .wholeWindow q.time.window,
      List.forall_mem_singleton.2 hcandidates, ?_⟩
    simp only [definitionsOf, hplan, hpage]
    rfl
  | some plan =>
    refine ⟨⟨.candidates, .candidates q.filter⟩ :: (compile q.time 0 plan).definitions,
      .copy (.node (compile q.time 0 plan).root), ?_, ?_⟩
    · have hcompiles := compiles_compile (p := plan) (fun _ _ => canonical_nil) q.time 0
      exact List.forall_mem_cons.2 ⟨hcandidates, fun d hd => (hcompiles.within d hd).not_mem⟩
    · simp only [definitionsOf, hplan, hpage, List.append_assoc]
      rfl

lemma mayMakeAll_cons_iff {d : Definition} :
    MayMakeAll (d :: ds) t t' ↔ ∃ u, d.MayMake t u ∧ MayMakeAll ds u t' := by
  constructor
  · intro h
    cases h with
    | cons hd hds => exact ⟨_, hd, hds⟩
  · rintro ⟨u, hd, hds⟩
    exact .cons hd hds

lemma mayMakeAll_nil_iff : MayMakeAll [] t t' ↔ t' = t := by
  constructor
  · intro h
    cases h
    rfl
  · rintro rfl
    exact .nil

lemma mayMake_other_iff {d : Definition} (hd : d.name ∉ [.intervals, .ids, .anchor]) :
    d.MayMake t t' ↔ t' = t := by
  constructor
  · intro h
    cases h with
    | intervals | ids | anchor => simp at hd
    | other => rfl
  · rintro rfl
    exact .other hd

lemma mayMake_intervals_iff {relation : Relation} :
    Definition.MayMake ⟨.intervals, relation⟩ t t' ↔ ∃ rows, t' = { t with intervals := rows } := by
  constructor
  · intro h
    cases h with
    | intervals => exact ⟨_, rfl⟩
    | other hd => simp at hd
  · rintro ⟨rows, rfl⟩
    exact .intervals

lemma mayMake_ids_iff :
    Definition.MayMake ⟨.ids, .ids⟩ t t' ↔ ∃ ids, IsIds t.intervals ids ∧ t' = { t with ids } := by
  constructor
  · intro h
    cases h with
    | ids hids => exact ⟨_, hids, rfl⟩
    | other hd => simp at hd
  · rintro ⟨ids, hids, rfl⟩
    exact .ids hids

lemma mayMake_anchor_iff {entityId : Option String} : Definition.MayMake ⟨.anchor, .anchor entityId⟩ t t' ↔
    ∃ n, IsAnchor t.ids entityId n ∧ t' = { t with anchor := n } := by
  constructor
  · intro h
    cases h with
    | anchor hanchor => exact ⟨_, hanchor, rfl⟩
    | other hd => simp at hd
  · rintro ⟨n, hanchor, rfl⟩
    exact .anchor hanchor

lemma mayMakeAll_append_iff (hds : ∀ d ∈ ds, d.name ∉ [.intervals, .ids, .anchor]) :
    MayMakeAll (ds ++ es) t t' ↔ MayMakeAll es t t' := by
  induction ds with
  | nil => rfl
  | cons d ds ih =>
    rw [List.forall_mem_cons] at hds
    rw [List.cons_append, mayMakeAll_cons_iff]
    simp only [mayMake_other_iff hds.1, exists_eq_left, ih hds.2]

/-- After the definitions of a query, the entities of some intervals are numbered, and the anchor among them. -/
lemma mayMakeAll_definitionsOf_iff (hpage : q.page = some page) :
    MayMakeAll (definitionsOf q) {} t ↔ IsIds t.intervals t.ids ∧ IsAnchor t.ids page.anchor t.anchor := by
  obtain ⟨ds, relation, hds, heq⟩ := exists_definitionsOf_eq hpage
  rw [heq, mayMakeAll_append_iff hds]
  simp only [mayMakeAll_cons_iff, mayMake_intervals_iff, mayMake_ids_iff, mayMake_anchor_iff,
    mayMakeAll_nil_iff]
  constructor
  · rintro ⟨_, ⟨rows, rfl⟩, _, ⟨ids, hids, rfl⟩, _, ⟨n, hn, rfl⟩, rfl⟩
    exact ⟨hids, hn⟩
  · rintro ⟨hids, hn⟩
    exact ⟨_, ⟨t.intervals, rfl⟩, _, ⟨t.ids, hids, rfl⟩, _, ⟨t.anchor, hn, rfl⟩, rfl⟩

end Definitions

/-! ### The selections -/

section Selections

open PageSelection

variable {size own anchor position : Nat} {t : PageTables} {answer : PageAnswer}

lemma passes_pageTests_iff :
    passes (pageTests size) own anchor = true ↔ anchor ≤ own ∧ own < anchor + size := by
  simp only [passes, pageTests, NumberTest.holds, meets, List.all_cons, List.all_nil, NumberTerm.eval,
    Bool.and_true, Bool.and_eq_true, Ordering.isGE_iff_ne_lt, Ordering.isLT_iff_eq_lt, compare_lt_iff_lt]
  omega

lemma passes_nextTests_iff :
    passes (nextTests size) own (position + 1) = true ↔ own = position + size + 1 := by
  simp only [passes, nextTests, NumberTest.holds, meets, List.all_cons, List.all_nil, NumberTerm.eval,
    Bool.and_true, Ordering.isEq_iff_eq_eq, compare_eq_iff_eq]
  omega

/-- Numbers below one are raised to one, as positions are cut off at zero. -/
lemma passes_prevTests_iff :
    passes (prevTests size) own (position + 1) = true ↔ 0 < position ∧ own = position - size + 1 := by
  simp only [passes, prevTests, NumberTest.holds, meets, List.all_cons, List.all_nil, NumberTerm.eval,
    Bool.and_true, Bool.and_eq_true, Ordering.isGT_iff_eq_gt, Ordering.isEq_iff_eq_eq, compare_gt_iff_gt,
    compare_eq_iff_eq]
  omega

lemma mayAnswer_intervals_iff {tests : List NumberTest} {is : List EntityInterval} :
    MayAnswer t (.intervals tests) (.intervals is) ↔
      is.Perm (t.intervals.flatMap fun i =>
        (t.ids.filter fun r => r.1 = i.entityId ∧ passes tests r.2 t.anchor).map fun _ => i) ∧
      is.Pairwise fun i j => toLex (i.entityId, i.start) ≤ toLex (j.entityId, j.start) := by
  constructor
  · intro h
    cases h with
    | intervals hout hsorted => exact ⟨hout, hsorted⟩
  · rintro ⟨hout, hsorted⟩
    exact .intervals hout hsorted

lemma mayAnswer_entities_iff {tests : List NumberTest} :
    MayAnswer t (.entities tests) answer ↔ ∃ names : List String,
      names.Perm ((t.ids.filter fun r => passes tests r.2 t.anchor).map (·.1)) ∧ answer = .entities names := by
  constructor
  · intro h
    cases h with
    | entities hout => exact ⟨_, hout, rfl⟩
  · rintro ⟨names, hout, rfl⟩
    exact .entities hout

lemma mayAnswer_page_iff {is : List EntityInterval} (hids : IsIds t.intervals t.ids)
    (hanchor : t.anchor = position + 1) :
    (page size).MayAnswer t (.intervals is) ↔
      is.Perm (pageAt t.intervals size position).intervals ∧
        is.Pairwise fun i j => toLex (i.entityId, i.start) ≤ toLex (j.entityId, j.start) := by
  have hpasses : ∀ n, passes (pageTests size) n t.anchor = true ↔ position + 1 ≤ n ∧ n < position + 1 + size := by
    intro n
    rw [hanchor, passes_pageTests_iff]
  have hpage : (t.intervals.filter fun i => (((pageIds t.intervals).drop position).take size).contains
      i.entityId).Perm (pageAt t.intervals size position).intervals := (List.mergeSort_perm _ _).symm.filter _
  rw [page, mayAnswer_intervals_iff, hids.flatMap_eq hpasses, hpage.congr_right]

lemma mayAnswer_next_iff (hids : IsIds t.intervals t.ids) (hanchor : t.anchor = position + 1) :
    (next size).MayAnswer t answer ↔
      answer = .entities (pageAt t.intervals size position).nextAnchor.toList := by
  have hpasses : ∀ n, passes (nextTests size) n t.anchor = true ↔ n = position + size + 1 := by
    intro n
    rw [hanchor, passes_nextTests_iff]
  simp only [next, mayAnswer_entities_iff, hids.perm_toList_iff hpasses, exists_eq_left]
  rfl

lemma mayAnswer_prev_iff (hids : IsIds t.intervals t.ids) (hanchor : t.anchor = position + 1) :
    (prev size).MayAnswer t answer ↔
      answer = .entities (pageAt t.intervals size position).prevAnchor.toList := by
  rw [prev, mayAnswer_entities_iff]
  rcases Nat.eq_zero_or_pos position with rfl | hpos
  · -- at the first entity no number passes
    have hnone : (t.ids.filter fun r => passes (prevTests size) r.2 t.anchor) = [] := by
      refine List.filter_eq_nil_iff.2 fun r _ hr => ?_
      rw [hanchor, passes_prevTests_iff] at hr
      exact absurd hr.1 (lt_irrefl 0)
    simp only [hnone, List.map_nil, List.perm_nil, exists_eq_left]
    rfl
  · have hpasses : ∀ n, passes (prevTests size) n t.anchor = true ↔ n = position - size + 1 := by
      intro n
      rw [hanchor, passes_prevTests_iff]
      exact and_iff_right hpos
    simp only [hids.perm_toList_iff hpasses, exists_eq_left, pageAt, if_pos hpos]

lemma mayAnswer_count_iff (hids : IsIds t.intervals t.ids) :
    count.MayAnswer t answer ↔
      ∃ n, (pageAt t.intervals size position).totalEntities = some n ∧ answer = .total n := by
  have hlength : t.ids.length = (pageIds t.intervals).length := by
    rw [hids.perm.length_eq, List.length_zipIdx]
  constructor
  · intro h
    cases h with
    | count => exact ⟨_, rfl, by rw [hlength]⟩
  · rintro ⟨n, hn, rfl⟩
    obtain rfl := Option.some.inj hn
    rw [← hlength]
    exact .count

end Selections

/-! ### Agreement -/

/-- The order of intervals is that of their entities and beginnings. -/
lemma toLex_le_of_isBefore {i j : EntityInterval} (h : i.isBefore j = true) :
    toLex (i.entityId, i.start) ≤ toLex (j.entityId, j.start) := by
  rcases isBefore_iff.1 h with hlt | ⟨heq, hlt | ⟨hstart, -⟩⟩
  · exact Prod.Lex.toLex_le_toLex.2 (Or.inl hlt)
  · exact Prod.Lex.toLex_le_toLex.2 (Or.inr ⟨heq, hlt.le⟩)
  · exact Prod.Lex.toLex_le_toLex.2 (Or.inr ⟨heq, hstart.le⟩)

/-- **The statements for a page agree with the page in memory.**  Whatever intervals the definitions of a query
leave, present or not as the anchor may be: the selected intervals are those of the page with the entities of
the page, the anchors are those before and after it, and the entities are as many. -/
theorem selections_agree_paginate (q : IntervalQuery) (page : PageRequest) (hpage : q.page = some page)
    (hsize : 1 ≤ page.size) :
    intervalStatements q = {
      intervals := (PageSelection.page page.size).statement q
      nextAnchor := some ((PageSelection.next page.size).statement q)
      prevAnchor := some ((PageSelection.prev page.size).statement q)
      count := if page.count then some (PageSelection.count.statement q) else none } ∧
    (∀ rows, ∃ t, MayMakeAll (definitionsOf q) {} t ∧ t.intervals = rows) ∧
    ∀ t, MayMakeAll (definitionsOf q) {} t →
      (∃ is, (PageSelection.page page.size).MayAnswer t (.intervals is)) ∧
      (∀ is, (PageSelection.page page.size).MayAnswer t (.intervals is) →
        is.Perm (paginate t.intervals page.anchor page.size).intervals ∧
        entityIds is = (paginate t.intervals page.anchor page.size).entityIds) ∧
      (∀ answer, (PageSelection.next page.size).MayAnswer t answer ↔
        answer = .entities (paginate t.intervals page.anchor page.size).nextAnchor.toList) ∧
      (∀ answer, (PageSelection.prev page.size).MayAnswer t answer ↔
        answer = .entities (paginate t.intervals page.anchor page.size).prevAnchor.toList) ∧
      ∀ answer, PageSelection.count.MayAnswer t answer ↔
        ∃ n, (paginate t.intervals page.anchor page.size).totalEntities = some n ∧ answer = .total n := by
  refine ⟨intervalStatements_eq hpage, fun rows => ?_, fun t ht => ?_⟩
  · obtain ⟨ids, hids⟩ := exists_isIds rows
    exact ⟨⟨rows, ids, positionOf rows page.anchor + 1⟩,
      (mayMakeAll_definitionsOf_iff hpage).2 ⟨hids, hids.isAnchor_iff.2 rfl⟩, rfl⟩
  · obtain ⟨hids, hanchor⟩ := (mayMakeAll_definitionsOf_iff hpage).1 ht
    have hanchor := hids.isAnchor_iff.1 hanchor
    simp only [paginate_eq_pageAt hsize]
    refine ⟨⟨_, (mayAnswer_page_iff hids hanchor).2 ⟨List.Perm.refl _, ?_⟩⟩, fun is his => ?_,
      fun answer => mayAnswer_next_iff hids hanchor, fun answer => mayAnswer_prev_iff hids hanchor,
      fun answer => mayAnswer_count_iff hids⟩
    · exact ((pairwise_sort _).imp toLex_le_of_isBefore).filter _
    · obtain ⟨hperm, hsorted⟩ := (mayAnswer_page_iff hids hanchor).1 his
      refine ⟨hperm, ?_⟩
      rw [entityIds_pageAt]
      refine entityIds_eq_take_drop (hsorted.imp fun h => ?_) fun i => hperm.mem_iff
      rcases Prod.Lex.toLex_le_toLex.1 h with hlt | ⟨heq, -⟩
      · exact hlt.le
      · exact heq.le

/-- A query for the page of one entity at the second of three. -/
def secondOfThree : IntervalQuery where
  filter := {}
  time := .unbounded .observedAt
  plan := none
  page := some ⟨some "urn:b", 1, true⟩

/-- Intervals of three entities, two of them of one. -/
def ofThree : List EntityInterval :=
  [⟨"urn:a", ⟨4⟩, ⟨5⟩⟩, ⟨"urn:b", ⟨0⟩, ⟨1⟩⟩, ⟨"urn:b", ⟨7⟩, ⟨9⟩⟩, ⟨"urn:c", ⟨0⟩, ⟨1⟩⟩]

lemma paginate_ofThree : paginate ofThree (some "urn:b") 1 =
    ⟨[⟨"urn:b", ⟨0⟩, ⟨1⟩⟩, ⟨"urn:b", ⟨7⟩, ⟨9⟩⟩], some "urn:c", some "urn:a", some 3⟩ := by
  rw [paginate, (show Canonical ofThree by decide).sort_eq]
  decide

theorem selections_agree_paginate_secondOfThree :
    secondOfThree.page = some ⟨some "urn:b", 1, true⟩ ∧
    ∃ t, MayMakeAll (definitionsOf secondOfThree) {} t ∧ t.intervals = ofThree ∧
      (∀ is, (PageSelection.page 1).MayAnswer t (.intervals is) → entityIds is = ["urn:b"]) ∧
      (PageSelection.next 1).MayAnswer t (.entities ["urn:c"]) ∧
      (PageSelection.prev 1).MayAnswer t (.entities ["urn:a"]) ∧
      PageSelection.count.MayAnswer t (.total 3) := by
  obtain ⟨-, hrows, hanswers⟩ := selections_agree_paginate secondOfThree ⟨some "urn:b", 1, true⟩ rfl (by decide)
  obtain ⟨t, ht, hintervals⟩ := hrows ofThree
  obtain ⟨-, hpage, hnext, hprev, hcount⟩ := hanswers t ht
  simp only [hintervals, paginate_ofThree] at hpage hnext hprev hcount
  exact ⟨rfl, t, ht, hintervals, fun is his => (hpage is his).2, (hnext _).2 rfl, (hprev _).2 rfl,
    (hcount _).2 ⟨3, rfl, rfl⟩⟩

end EntityHistory.Sql
