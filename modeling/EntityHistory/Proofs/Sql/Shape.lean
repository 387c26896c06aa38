/-
The texts of statements.

The text of a statement is made from the shape of its query alone. Two queries have one shape when they agree
in their plan trees, relations, operators and kinds of values and in the numbers of their lists; the texts,
numbers, times, names, patterns and geometries that they bring may be any. Whatever is brought is bound as a
value, so what is left of a fragment when its values are blanked depends on the shape, and it determines the
text.

When two values have one shape is left open in `Comparison.SameShape`. `QueryValue.SameKinds` looks at the
kinds of all elements of a list or range. `QueryValue.SameFirst` looks at the first one only, which is not
enough for a list of several kinds.

* `blanked_samples`, `blanked_compile`: the relations of a leaf and of a plan
* `textFrom_eq_of_blanked`: what is left of a fragment determines its text
* `sql_eq_of_sameShape`: queries of one shape have the same texts
* `exists_sameFirst_and_texts_ne`: the kinds of the first elements are not enough
-/
import EntityHistory.Proofs.Sql.Placeholders

namespace EntityHistory

/-! ### Shapes -/

/-- The kinds of the elements of a list or range. -/
def QueryValue.elementKinds : QueryValue → List ValueKind
  | .list items => items.map kind
  | .range low high => [low.kind, high.kind]
  | _ => []

/-- Values of one kind that agree in the kinds of all their elements. -/
structure QueryValue.SameKinds (v v' : QueryValue) : Prop where
  kind : v.kind = v'.kind
  elements : v.elementKinds = v'.elementKinds

lemma QueryValue.SameKinds.elementKind {v v' : QueryValue} (h : v.SameKinds v') :
    v.elementKind = v'.elementKind := by
  obtain ⟨hkind, helements⟩ := h
  cases v <;> cases v' <;> simp only [QueryValue.kind, reduceCtorEq] at hkind
  case list.list items items' =>
    rcases items with _ | ⟨item, items⟩ <;> rcases items' with _ | ⟨item', items'⟩ <;>
      simp_all [elementKinds, QueryValue.elementKind]
  case range.range => simp_all [elementKinds, QueryValue.elementKind]
  all_goals rfl

/-- Values of one kind that agree in the number of their elements and in the kind of the first. -/
structure QueryValue.SameFirst (v v' : QueryValue) : Prop where
  kind : v.kind = v'.kind
  first : v.elementKind = v'.elementKind
  length : v.elementKinds.length = v'.elementKinds.length

/-- Targets that differ at most in the keys they name. -/
def ValueTarget.SameShape : ValueTarget → ValueTarget → Prop
  | .compoundKey keys, .compoundKey keys' => keys.length = keys'.length
  | target, target' => target = target'

/-- Relations that differ at most in their distance. -/
def GeoRelation.SameShape : GeoRelation → GeoRelation → Prop
  | .nearerThan _, .nearerThan _ => True
  | .fartherThan _, .fartherThan _ => True
  | relation, relation' => relation = relation'

/-- Time queries that differ at most in their times. -/
structure TimeQuery.SameShape (t t' : TimeQuery) : Prop where
  relation : t.bounds.relation? = t'.bounds.relation?
  inclusive : t.inclusive = t'.inclusive
  property : t.property = t'.property

section

variable (sameValues : QueryValue → QueryValue → Prop)

/-- Comparisons of one shape, given when two values have one. -/
structure Comparison.SameShape (c c' : Comparison) : Prop where
  subAttribute : c.subAttribute.isSome = c'.subAttribute.isSome
  target : c.target.SameShape c'.target
  operator : c.operator = c'.operator
  value : sameValues c.value c'.value

def PlanLeaf.SameShape : PlanLeaf → PlanLeaf → Prop
  | .comparison c, .comparison c' => c.SameShape sameValues c'
  | .geo g, .geo g' => g.relation.SameShape g'.relation
  | _, _ => False

namespace Plan

mutual

/-- Plans with one tree and leaves of one shape. -/
def SameShape : Plan → Plan → Prop
  | .leaf l, .leaf l' => l.SameShape sameValues l'
  | .all children, .all children' => SameShapes children children'
  | .any children, .any children' => SameShapes children children'
  | _, _ => False

/-- As many plans, each with the shape of its partner. -/
def SameShapes : List Plan → List Plan → Prop
  | [], [] => True
  | child :: children, child' :: children' => SameShape child child' ∧ SameShapes children children'
  | _, _ => False

end

end Plan

/-- Interval queries of one shape. -/
structure IntervalQuery.SameShape (q q' : IntervalQuery) : Prop where
  ids : q.filter.ids.length = q'.filter.ids.length
  types : q.filter.types.length = q'.filter.types.length
  idPattern : q.filter.idPattern.isSome = q'.filter.idPattern.isSome
  time : q.time.SameShape q'.time
  plan : Option.Rel (Plan.SameShape sameValues) q.plan q'.plan
  /-- Both ask for a page or neither does, and both count the entities or neither does. -/
  page : q.page.map (·.count) = q'.page.map (·.count)

end

/-- Instance queries of one shape. -/
structure InstanceQuery.SameShape (q q' : InstanceQuery) : Prop where
  attributeIds : q.attributeIds.length = q'.attributeIds.length
  time : q.time.SameShape q'.time
  order : q.order = q'.order

namespace Sql

/-! ### Blanked fragments -/

namespace Fragment

/-- A fragment with its values blanked. -/
def blanked (f : Fragment) : List (Option String) :=
  f.map fun
    | .text s => some s
    | .bind _ => none

@[simp] lemma blanked_text (s : String) : blanked (text s) = [some s] := rfl

@[simp] lemma blanked_bind (v : Value) : blanked (bind v) = [none] := rfl

@[simp] lemma blanked_append (f g : Fragment) : blanked (f ++ g) = blanked f ++ blanked g := List.map_append

lemma blanked_separated_congr (separator : String) {fs gs : List Fragment}
    (h : fs.map blanked = gs.map blanked) :
    blanked (separated separator fs) = blanked (separated separator gs) := by
  induction fs generalizing gs with
  | nil => rw [List.map_eq_nil_iff.mp h.symm]
  | cons f fs ih =>
    obtain ⟨g, gs, rfl, hg, hgs⟩ := List.map_eq_cons_iff.mp h.symm
    have hrest := ih hgs.symm
    rcases fs with _ | ⟨f', fs⟩ <;> rcases gs with _ | ⟨g', gs⟩
    · exact hg.symm
    · simp at hgs
    · simp at hgs
    · simp only [separated, blanked_append, hg, hrest]

/-- Lists of one length are bound in one way. -/
lemma blanked_bindList {vs ws : List Value} (h : vs.length = ws.length) :
    blanked (bindList vs) = blanked (bindList ws) := by
  refine blanked_separated_congr ", " ?_
  simp only [List.map_map, Function.comp_def, blanked_bind, List.map_const', h]

/-- What is left of a fragment determines its text. -/
theorem textFrom_eq_of_blanked {f g : Fragment} (h : blanked f = blanked g) (n : Nat) :
    textFrom n f = textFrom n g := by
  induction f generalizing g n with
  | nil => rw [List.map_eq_nil_iff.mp h.symm]
  | cons p f ih =>
    obtain ⟨p', g, rfl, hp, hg⟩ := List.map_eq_cons_iff.mp h.symm
    have hrest (n : Nat) := ih hg.symm n
    cases p <;> cases p' <;> simp only [reduceCtorEq, Option.some.injEq] at hp
    · rw [hp, textFrom, textFrom, hrest]
    · rw [textFrom, textFrom, hrest]

lemma blanked_prependText_congr (s : String) {f g : Fragment} (h : blanked f = blanked g) :
    blanked (f.prependText s) = blanked (g.prependText s) := by
  rcases f with _ | ⟨p, f⟩ <;> rcases g with _ | ⟨p', g⟩
  · rfl
  · simp [blanked] at h
  · simp [blanked] at h
  · cases p <;> cases p' <;> simp_all [blanked, prependText]

lemma blanked_merged_congr {f g : Fragment} (h : blanked f = blanked g) :
    blanked f.merged = blanked g.merged := by
  induction f generalizing g with
  | nil => rw [List.map_eq_nil_iff.mp h.symm]
  | cons p f ih =>
    obtain ⟨p', g, rfl, hp, hg⟩ := List.map_eq_cons_iff.mp h.symm
    have hrest := ih hg.symm
    cases p <;> cases p' <;> simp only [reduceCtorEq, Option.some.injEq] at hp
    · subst hp
      rw [merged, merged]
      split
      · exact hrest
      · exact blanked_prependText_congr _ hrest
    · exact congrArg (none :: ·) hrest

lemma blanked_respliced_congr {f g : Fragment} (hf : IsClear f) (hg : IsClear g) (h : blanked f = blanked g) :
    blanked f.respliced = blanked g.respliced := by
  rw [respliced, respliced, hf.fragment_render, hg.fragment_render]
  exact blanked_merged_congr h

end Fragment

open Fragment

/-! ### Conditions -/

lemma blanked_timeCondition (column : String) {t t' : TimeQuery} (h : t.SameShape t') :
    blanked (timeCondition column t) = blanked (timeCondition column t') := by
  obtain ⟨bounds, property, inclusive⟩ := t
  obtain ⟨bounds', property', inclusive'⟩ := t'
  obtain ⟨hrelation, rfl, rfl⟩ := h
  cases bounds <;> cases bounds' <;> simp [TimeBounds.relation?] at hrelation <;> simp [timeCondition]

lemma carriesState_eq {t t' : TimeQuery} (h : t.SameShape t') : t.carriesState = t'.carriesState := by
  obtain ⟨bounds, property, inclusive⟩ := t
  obtain ⟨bounds', property', inclusive'⟩ := t'
  have hrelation := h.relation
  cases bounds <;> cases bounds' <;> simp_all [TimeBounds.relation?, TimeQuery.carriesState]

lemma blanked_memberPath (row : String) {keys keys' : List String} (h : keys.length = keys'.length) :
    blanked (memberPath row keys) = blanked (memberPath row keys') := by
  have hsteps : ∀ keys : List String, blanked (keys.flatMap fun key => text " -> " ++ bind (.ofString key)) =
      (List.replicate keys.length [some " -> ", none]).flatten := by
    intro keys
    induction keys with
    | nil => rfl
    | cons key keys ih => simp [List.replicate_succ, ih]
  simp only [memberPath, blanked_append, hsteps, h]

lemma blanked_operand (row : String) {c c' : Comparison} (h : c.SameShape QueryValue.SameKinds c') :
    blanked ((Operand.ofComparison c).fragment row) = blanked ((Operand.ofComparison c').fragment row) := by
  obtain ⟨attributeId, subAttribute, target, operator, value⟩ := c
  obtain ⟨attributeId', subAttribute', target', operator', value'⟩ := c'
  obtain ⟨hsub, htarget, -, hvalue⟩ := h
  have hkind := hvalue.elementKind
  simp only at hsub htarget hkind
  cases target <;> cases target' <;> simp only [ValueTarget.SameShape, reduceCtorEq] at htarget
  case compoundKey.compoundKey keys keys' =>
    simp only [Operand.ofComparison, hkind, Operand.fragment, blanked_append, blanked_text,
      blanked_memberPath row htarget]
  all_goals simp only [Operand.ofComparison, hkind, hsub]

lemma blanked_literal {v v' : QueryValue} (h : v.kind = v'.kind) :
    blanked (literal v) = blanked (literal v') := by
  cases v <;> cases v' <;> simp only [QueryValue.kind, reduceCtorEq] at h <;> rfl

lemma map_blanked_literal {items items' : List QueryValue}
    (h : items.map QueryValue.kind = items'.map QueryValue.kind) :
    (items.map literal).map blanked = (items'.map literal).map blanked := by
  induction items generalizing items' with
  | nil => rw [List.map_eq_nil_iff.mp h.symm]
  | cons item items ih =>
    obtain ⟨item', items', rfl, hitem, hitems⟩ := List.map_eq_cons_iff.mp h.symm
    simp only [List.map_cons, blanked_literal hitem, ih hitems.symm]

lemma blanked_test {c c' : Comparison} (h : c.SameShape QueryValue.SameKinds c') :
    blanked (Test.ofComparison c).fragment = blanked (Test.ofComparison c').fragment := by
  obtain ⟨attributeId, subAttribute, target, operator, value⟩ := c
  obtain ⟨attributeId', subAttribute', target', operator', value'⟩ := c'
  obtain ⟨-, -, rfl, ⟨hkind, helements⟩⟩ := h
  simp only at hkind helements
  have hliteral := blanked_literal hkind
  cases value <;> cases value' <;> simp only [QueryValue.kind, reduceCtorEq] at hkind
  case list.list items items' =>
    have hitems := blanked_separated_congr ", " (map_blanked_literal helements)
    simp only [Test.ofComparison, Test.fragment, blanked_append, blanked_text, hitems]
  case range.range low high low' high' =>
    simp only [QueryValue.elementKinds, List.cons.injEq, and_true] at helements
    simp only [Test.ofComparison, Test.fragment, blanked_append, blanked_text, blanked_literal helements.1,
      blanked_literal helements.2]
  case text.text s s' =>
    cases hpattern : operator.isPattern <;> simp [Test.ofComparison, hpattern, Test.fragment, hliteral]
  all_goals simp only [Test.ofComparison, Test.fragment, blanked_append, hliteral]

lemma blanked_condition {c c' : Comparison} (h : c.SameShape QueryValue.SameKinds c') :
    blanked ((Condition.ofComparison c).fragment "ai") =
      blanked ((Condition.ofComparison c').fragment "ai") := by
  have hoperand (row : String) (hrow : IsClearText row) :=
    blanked_respliced_congr (isClear_operand hrow _) (isClear_operand hrow _) (blanked_operand row h)
  have hsub := h.subAttribute
  rw [Condition.ofComparison, Condition.ofComparison]
  cases hc : c.subAttribute <;> cases hc' : c'.subAttribute <;>
    simp only [hc, hc', Option.isSome_none, Option.isSome_some, reduceCtorEq] at hsub
  · simp only [Condition.fragment, blanked_append, hoperand "ai" (isClearText_ofList rfl), blanked_test h]
  · simp only [Condition.fragment, blanked_append, blanked_bind, hoperand "s" (isClearText_ofList rfl),
      blanked_test h]

/-! ### Geographic queries -/

lemma blanked_geoCondition (column : String) {g g' : GeoQuery} (h : g.relation.SameShape g'.relation) :
    blanked (geoCondition column g) = blanked (geoCondition column g') := by
  obtain ⟨relation, geometry, geoproperty⟩ := g
  obtain ⟨relation', geometry', geoproperty'⟩ := g'
  cases relation <;> cases relation' <;> simp only [GeoRelation.SameShape, reduceCtorEq] at h <;>
    simp only [geoCondition, blanked_append, blanked_bind]

lemma blanked_geoFragment (row : String) {g g' : GeoQuery} (h : g.relation.SameShape g'.relation) :
    blanked (geoFragment row g) = blanked (geoFragment row g') := by
  have hcolumns :
      (GeometryKind.all.map fun kind => geoCondition (row ++ "." ++ kind.column) g).map blanked =
        (GeometryKind.all.map fun kind => geoCondition (row ++ "." ++ kind.column) g').map blanked := by
    simp only [List.map_map, Function.comp_def, blanked_geoCondition _ h]
  simp only [geoFragment, blanked_append, blanked_separated_congr " OR " hcolumns]

/-! ### Relations -/

lemma blanked_leafCondition {l l' : PlanLeaf} (h : l.SameShape QueryValue.SameKinds l') :
    blanked (leafCondition l) = blanked (leafCondition l') := by
  cases l <;> cases l' <;> simp only [PlanLeaf.SameShape] at h
  · exact blanked_condition h
  · exact blanked_geoFragment "ai" h

lemma blanked_restriction (column : String) {texts texts' : List String} (h : texts.length = texts'.length) :
    blanked (restriction column texts) = blanked (restriction column texts') := by
  have hlist : blanked (bindList (texts.map .ofString)) = blanked (bindList (texts'.map .ofString)) :=
    blanked_bindList (by simpa using h)
  have hnil : texts = [] ↔ texts' = [] := by rw [← List.length_eq_zero_iff, h, List.length_eq_zero_iff]
  by_cases hempty : texts = []
  · simp only [restriction, hempty, hnil.mp hempty]
  · simp only [restriction, hempty, mt hnil.mpr hempty, if_false, blanked_append, hlist]

lemma blanked_windowRows {t t' : TimeQuery} (h : t.SameShape t') (samples starts : RelationName) :
    blanked (windowRows t samples starts) = blanked (windowRows t' samples starts) := by
  simp only [windowRows, blanked_append, blanked_timeCondition "t" h]

lemma blanked_candidates {f f' : EntityFilter} (hids : f.ids.length = f'.ids.length)
    (htypes : f.types.length = f'.types.length) (hpattern : f.idPattern.isSome = f'.idPattern.isSome) :
    blanked (Relation.candidates f).fragment = blanked (Relation.candidates f').fragment := by
  obtain ⟨ids, idPattern, types⟩ := f
  obtain ⟨ids', idPattern', types'⟩ := f'
  cases idPattern <;> cases idPattern' <;>
    simp only [Option.isSome_none, Option.isSome_some, reduceCtorEq] at hpattern <;>
    simp only [Relation.fragment, blanked_append, blanked_bind, blanked_restriction _ hids,
      blanked_restriction _ htypes]

section

variable {t t' : TimeQuery} (ht : t.SameShape t')

include ht

lemma blanked_samples {l l' : PlanLeaf} (hl : l.SameShape QueryValue.SameKinds l') :
    blanked (Relation.samples t l).fragment = blanked (Relation.samples t' l').fragment := by
  have htime := blanked_timeCondition (timeColumn "ai" t'.property) ht
  simp only [Relation.fragment, blanked_append, blanked_bind, blanked_leafCondition hl, ht.property,
    carriesState_eq ht]
  cases t'.carriesState <;> simp only [if_true, if_false, Bool.false_eq_true, htime]

lemma blanked_starts (points : RelationName) :
    blanked (Relation.starts t points).fragment = blanked (Relation.starts t' points).fragment := by
  simp only [Relation.fragment, blanked_append, blanked_bind, blanked_timeCondition "r.t" ht]

lemma blanked_timeline (points first : RelationName) :
    blanked (Relation.timeline t points first).fragment =
      blanked (Relation.timeline t' points first).fragment := by
  simp only [Relation.fragment, blanked_append, blanked_bind, blanked_windowRows ht]

end

/-! ### Plans -/

/-- A definition with the values of its relation blanked. -/
def Definition.blanked (d : Definition) : RelationName × List (Option String) :=
  (d.name, Fragment.blanked d.relation.fragment)

lemma blanked_withFragment {ds ds' : List Definition}
    (h : ds.map Definition.blanked = ds'.map Definition.blanked) :
    blanked (withFragment ds) = blanked (withFragment ds') := by
  have hdefinitions (ds : List Definition) :
      (ds.map fun d => text (d.name.text ++ " AS (") ++ d.relation.fragment ++ text ")").map blanked =
        (ds.map Definition.blanked).map fun d => [some (d.1.text ++ " AS (")] ++ d.2 ++ [some ")"] := by
    simp only [List.map_map, Function.comp_def, blanked_append, blanked_text, Definition.blanked]
  have hpair := (hdefinitions ds).trans ((congrArg _ h).trans (hdefinitions ds').symm)
  simp only [withFragment, blanked_append, blanked_separated_congr ", " hpair]

lemma blanked_leafDefinitions {t t' : TimeQuery} (ht : t.SameShape t') {l l' : PlanLeaf}
    (hl : l.SameShape QueryValue.SameKinds l') (n : Nat) :
    (leafDefinitions t l n).map Definition.blanked = (leafDefinitions t' l' n).map Definition.blanked := by
  rw [leafDefinitions, leafDefinitions, carriesState_eq ht]
  cases t'.carriesState <;>
    simp [Definition.blanked, blanked_samples ht hl, blanked_starts ht, blanked_timeline ht]

mutual

/-- Plans of one shape are compiled to definitions that differ in their values only, under the same numbers. -/
theorem blanked_compile {t t' : TimeQuery} (ht : t.SameShape t') :
    ∀ (p p' : Plan) (n : Nat), p.SameShape QueryValue.SameKinds p' →
    (compile t n p).definitions.map Definition.blanked = (compile t' n p').definitions.map Definition.blanked ∧
      (compile t n p).root = (compile t' n p').root ∧ (compile t n p).next = (compile t' n p').next
  | .leaf l, .leaf l', n, h => ⟨blanked_leafDefinitions ht (by simpa [Plan.SameShape] using h) n, rfl, rfl⟩
  | .all ps, .all ps', n, h | .any ps, .any ps', n, h => by
    obtain ⟨hdefinitions, hroots, hnext⟩ := blanked_compileList ht ps ps' n (by simpa [Plan.SameShape] using h)
    simp only [compile, hroots, hnext, List.map_append, hdefinitions, and_self]
  | .leaf _, .all _, _, h | .leaf _, .any _, _, h | .all _, .leaf _, _, h | .all _, .any _, _, h
  | .any _, .leaf _, _, h | .any _, .all _, _, h => by simp [Plan.SameShape] at h

/-- So are lists of plans. -/
theorem blanked_compileList {t t' : TimeQuery} (ht : t.SameShape t') :
    ∀ (ps ps' : List Plan) (n : Nat), Plan.SameShapes QueryValue.SameKinds ps ps' →
    (compileList t n ps).1.map Definition.blanked = (compileList t' n ps').1.map Definition.blanked ∧
      (compileList t n ps).2.1 = (compileList t' n ps').2.1 ∧
      (compileList t n ps).2.2 = (compileList t' n ps').2.2
  | [], [], _, _ => ⟨rfl, rfl, rfl⟩
  | p :: ps, p' :: ps', n, h => by
    obtain ⟨hp, hps⟩ : p.SameShape QueryValue.SameKinds p' ∧ Plan.SameShapes QueryValue.SameKinds ps ps' := by
      simpa [Plan.SameShapes] using h
    obtain ⟨hfirst, hroot, hnext⟩ := blanked_compile ht p p' n hp
    obtain ⟨hrest, hroots, hlast⟩ := blanked_compileList ht ps ps' (compile t' n p').next hps
    simp only [compileList, hnext, List.map_append, hfirst, hrest, hroot, hroots, hlast, and_self]
  | [], _ :: _, _, h | _ :: _, [], _, h => by simp [Plan.SameShapes] at h

end

lemma blanked_definitionsOf {q q' : IntervalQuery} (h : q.SameShape QueryValue.SameKinds q') :
    (definitionsOf q).map Definition.blanked = (definitionsOf q').map Definition.blanked := by
  obtain ⟨filter, time, plan, page⟩ := q
  obtain ⟨filter', time', plan', page'⟩ := q'
  obtain ⟨hids, htypes, hpattern, ht, hplan, hpage⟩ := h
  simp only at hids htypes hpattern ht hpage
  have hpages : page.isSome = page'.isSome := by simpa using congrArg Option.isSome hpage
  have hcandidates : Definition.blanked ⟨.candidates, .candidates filter⟩ =
      Definition.blanked ⟨.candidates, .candidates filter'⟩ :=
    congrArg (Prod.mk _) (blanked_candidates hids htypes hpattern)
  have hwindow : Definition.blanked ⟨.intervals, .wholeWindow time.window⟩ =
      Definition.blanked ⟨.intervals, .wholeWindow time'.window⟩ := rfl
  have hanchor (anchor anchor' : Option String) : Definition.blanked ⟨.anchor, .anchor anchor⟩ =
      Definition.blanked ⟨.anchor, .anchor anchor'⟩ := rfl
  cases hplan with
  | none =>
    rcases page with _ | page <;> rcases page' with _ | page' <;>
      simp only [Option.isSome_none, Option.isSome_some, reduceCtorEq] at hpages
    · simp only [definitionsOf, List.map_append, List.map_cons, List.map_nil, hcandidates, hwindow]
    · simp only [definitionsOf, List.map_append, List.map_cons, List.map_nil, hcandidates, hwindow,
        hanchor page.anchor page'.anchor]
  | some hp =>
    obtain ⟨hdefinitions, hroot, -⟩ := blanked_compile ht _ _ 0 hp
    rcases page with _ | page <;> rcases page' with _ | page' <;>
      simp only [Option.isSome_none, Option.isSome_some, reduceCtorEq] at hpages
    · simp only [definitionsOf, List.map_append, List.map_cons, List.map_nil, hcandidates, hdefinitions, hroot]
    · simp only [definitionsOf, List.map_append, List.map_cons, List.map_nil, hcandidates, hdefinitions, hroot,
        hanchor page.anchor page'.anchor]

/-! ### Statements -/

lemma sql_render_eq {f g : Fragment} (h : blanked f = blanked g) : f.render.sql = g.render.sql := by
  simp only [render, Statement.continuedBy, textFrom_eq_of_blanked h]

/-- The texts of the statements of an interval query. -/
def IntervalStatements.texts (s : IntervalStatements Statement) :
    String × Option String × Option String × Option String :=
  (s.intervals.sql, s.nextAnchor.map (·.sql), s.prevAnchor.map (·.sql), s.count.map (·.sql))

lemma texts_intervalStatements {q q' : IntervalQuery} (h : q.SameShape QueryValue.SameKinds q') :
    (intervalStatements q).texts = (intervalStatements q').texts := by
  have hrelations := blanked_withFragment (blanked_definitionsOf h)
  have hpage := h.page
  have hafter (f g : Fragment) (hfg : blanked f = blanked g) :
      (withFragment (definitionsOf q) ++ f).render.sql = (withFragment (definitionsOf q') ++ g).render.sql :=
    sql_render_eq (by rw [blanked_append, blanked_append, hrelations, hfg])
  simp only [IntervalStatements.texts, intervalStatements, intervalFragments, selects, IntervalStatements.map]
  rcases hq : q.page with _ | page <;> rcases hq' : q'.page with _ | page' <;>
    simp only [hq, hq', Option.map_none, Option.map_some, reduceCtorEq, Option.some.injEq] at hpage
  · simp only [hafter _ _ rfl, Option.map_none, Option.bind_none]
  · have hselect : blanked (selectIntervals (some page)) = blanked (selectIntervals (some page')) := rfl
    have hnext : blanked (selectNext page.size) = blanked (selectNext page'.size) := rfl
    have hprev : blanked (selectPrev page.size) = blanked (selectPrev page'.size) := rfl
    simp only [Option.map_some, Option.bind_some, hafter _ _ hselect, hafter _ _ hnext, hafter _ _ hprev, hpage]
    cases page'.count <;> simp [hafter selectCount selectCount rfl]

/-- Queries of one shape have the same texts, whatever they bring. -/
theorem sql_eq_of_sameShape :
    (∀ q q' : IntervalQuery, q.SameShape QueryValue.SameKinds q' →
        (intervalStatements q).texts = (intervalStatements q').texts) ∧
      ∀ q q' : InstanceQuery, q.SameShape q' → (instancesStatement q).sql = (instancesStatement q').sql := by
  refine ⟨fun q q' => texts_intervalStatements, fun q q' h => sql_render_eq ?_⟩
  simp only [instancesFragment, blanked_append, blanked_bind, blanked_restriction _ h.attributeIds,
    h.time.property, h.order, blanked_timeCondition _ h.time]

theorem sql_eq_of_sameShape_quoted :
    let query (s : String) (d : Double) : IntervalQuery :=
      { filter := { types := [s], idPattern := some s }
        time := ⟨.after lowWaterMark, .observedAt, true⟩
        plan := some (.any [.leaf (.comparison ⟨s, some s, .compoundKey [s, s], .equal, .list [.number d]⟩),
          .leaf (.comparison ⟨s, none, .value, .pattern, .text s⟩)])
        page := some ⟨some s, s.length, true⟩ }
    let instances (s : String) (n : Nat) : InstanceQuery :=
      ⟨⟨s, lowWaterMark, highWaterMark⟩, .unbounded .createdAt, [s, s], n, .descending⟩
    (intervalStatements (query "a" default)).texts =
        (intervalStatements (query "' OR $1 = $1" (.ofDecimal false 1 0))).texts ∧
      (instancesStatement (instances "a" 1)).sql = (instancesStatement (instances "'; DROP" 2)).sql := by
  intro query instances
  refine ⟨sql_eq_of_sameShape.1 _ _ ⟨rfl, rfl, rfl, ⟨rfl, rfl, rfl⟩, .some ?_, rfl⟩,
    sql_eq_of_sameShape.2 _ _ ⟨rfl, ⟨rfl, rfl, rfl⟩, rfl⟩⟩
  simp only [Plan.SameShape, Plan.SameShapes, PlanLeaf.SameShape, and_true]
  exact ⟨⟨rfl, rfl, rfl, rfl, rfl⟩, ⟨rfl, rfl, rfl, rfl, rfl⟩⟩

/-- Lists that agree in their first elements only may be cast differently. -/
theorem exists_sameFirst_and_texts_ne : ∃ q q' : IntervalQuery,
    q.SameShape QueryValue.SameFirst q' ∧ (intervalStatements q).texts ≠ (intervalStatements q').texts := by
  let query (second : QueryValue) : IntervalQuery :=
    { filter := {}
      time := .unbounded .observedAt
      plan := some (.leaf (.comparison ⟨"a", none, .value, .equal, .list [.text "b", second]⟩))
      page := none }
  refine ⟨query (.text "c"), query (.date default), ⟨rfl, rfl, rfl, ⟨rfl, rfl, rfl⟩, .some ?_, rfl⟩, ?_⟩
  · simp only [Plan.SameShape, PlanLeaf.SameShape]
    exact ⟨rfl, rfl, rfl, rfl, rfl, rfl⟩
  · intro h
    have hlength := congrArg (fun texts => texts.1.length) h
    have hcast : "::date".length = 6 := rfl
    simp only [query, IntervalStatements.texts, intervalStatements, intervalFragments, selects,
      IntervalStatements.map, definitionsOf, compile, leafDefinitions,
      TimeQuery.carriesState, TimeQuery.unbounded, withFragment, Relation.fragment, restriction,
      leafCondition, onlyCreations, timeCondition, selectIntervals, Condition.ofComparison,
      Condition.fragment, Test.ofComparison, Operand.ofComparison, QueryValue.elementKind, QueryValue.kind,
      Test.fragment, literal, separated, render, Statement.continuedBy, Bool.false_eq_true, reduceCtorEq,
      if_true, if_false, List.cons_append, List.nil_append, List.append_nil, List.map_cons, List.map_nil,
      textFrom_append, textFrom_text, textFrom_bind, values_append, values_text, values_bind,
      Operand.fragment, List.length_append, List.length_nil, List.length_cons,
      String.length_append] at hlength
    omega

end Sql

end EntityHistory
