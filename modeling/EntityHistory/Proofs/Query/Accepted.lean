/-
Accepted comparisons.

What the reader accepts keeps to rules that later stages rely on: the elements of a list or range are scalars
of one kind, ordering is for numbers, texts and times only, a pattern is a text that can be read as one, and
each target is compared with values of its own kinds. Part of this comes from how literals are read for a
target and part from the check of the operator. A number that is read is in an order with all others.

* `QueryValue.isRead_of_ofLiteral`: what a literal is read as
* `QueryTerm.accepted_of_mem_leaves`: the rules hold of every comparison in a query that is read
-/
import EntityHistory.Proofs.Number.Double
import EntityHistory.Proofs.Query.Reading
import EntityHistory.Proofs.Running

namespace EntityHistory

/-- When a list is read item by item, each result is that of some item. -/
lemma exists_of_mem_mapM {ε α β : Type} {f : α → Except ε β} {xs : List α} {ys : List β}
    (h : xs.mapM f = .ok ys) {y : β} (hy : y ∈ ys) : ∃ x ∈ xs, f x = .ok y := by
  induction xs generalizing ys with
  | nil =>
    cases h
    cases hy
  | cons x xs ih =>
    rw [List.mapM_cons] at h
    obtain ⟨first, hx, h⟩ := exists_of_bind_eq_ok h
    obtain ⟨rest, hxs, h⟩ := exists_of_bind_eq_ok h
    cases h
    rcases List.mem_cons.mp hy with rfl | hy
    · exact ⟨x, by simp, hx⟩
    · obtain ⟨x', hx', hread⟩ := ih hxs hy
      exact ⟨x', by simp [hx'], hread⟩

/-- A step that can only refuse a query has its own result where it is one of several. -/
lemma eq_ok_of_liftM_eq_ok {α : Type} {x : Except QueryFault α} {a : α} (h : (liftM x : Outcome α) = .ok a) :
    x = .ok a := by
  cases x with
  | error fault => cases h
  | ok a' =>
    cases h
    rfl

/-! ### The rules -/

/-- The elements of a list or range; a scalar is its own element. -/
def QueryValue.elements : QueryValue → List QueryValue
  | .list items => items
  | .range low high => [low, high]
  | scalar => [scalar]

/-- The rules that the reader enforces. -/
structure Comparison.Accepted [PatternEngine] (c : Comparison) : Prop where
  nonempty : c.value ≠ .list []
  scalars : ∀ v ∈ c.value.elements, v.isScalar = true
  kinds : ∀ v ∈ c.value.elements, v.kind = c.value.elementKind
  range : ∀ low high, c.value = .range low high → low.kind ≠ .boolean ∧ high.kind ≠ .boolean
  equality : c.value.kind ∈ [.list, .range, .boolean] → c.operator = .equal ∨ c.operator = .notEqual
  pattern : c.operator.isPattern = true → ∃ s, c.value = .text s ∧ (PatternEngine.compile? s.toList).isSome = true
  temporal : c.target.isTemporal = true → ∀ v ∈ c.value.elements, v.kind = .dateTime
  field : c.target = .unitCode ∨ c.target = .datasetId → ∀ v ∈ c.value.elements, v.kind = .text
  compound : ∀ keys, c.target = .compoundKey keys →
    ∀ v ∈ c.value.elements, v.kind ∈ [.text, .number, .boolean]

/-- What holds of the kinds of all elements holds of the kind that an operand is chosen by. -/
lemma Comparison.Accepted.elementKind_of_forall [PatternEngine] {c : Comparison} (h : c.Accepted) {P : ValueKind → Prop}
    (hP : ∀ v ∈ c.value.elements, P v.kind) : P c.value.elementKind := by
  have hne : c.value.elements ≠ [] := by
    have hnonempty := h.nonempty
    cases hvalue : c.value <;> simp_all [QueryValue.elements]
  obtain ⟨v, hv⟩ := List.exists_mem_of_ne_nil _ hne
  exact h.kinds v hv ▸ hP v hv

/-! ### Literals -/

namespace QueryValue

variable {target : ValueTarget} {cs raw text : List Char} {v : QueryValue}

lemma isScalar_of_scalarByForm (h : scalarByForm cs = some v) : v.isScalar = true := by
  unfold scalarByForm at h
  repeat' split at h
  all_goals
    first
    | (obtain ⟨a, -, rfl⟩ := Option.map_eq_some_iff.mp h; rfl)
    | (cases h; rfl)
    | cases h

/-- A number in a literal is a decimal, and so it is a number or an infinity. -/
lemma isNaN_of_scalarByForm (h : scalarByForm cs = some v) : ∀ d, v = .number d → d.isNaN = false := by
  rintro d rfl
  unfold scalarByForm at h
  repeat' split at h
  case isFalse.isTrue =>
    obtain ⟨w, -, hw⟩ := Option.map_eq_some_iff.mp h
    cases hw
    exact Double.isNaN_ofDecimal _ _ _
  -- the other forms are not those of numbers
  all_goals simp at h

lemma kind_of_scalarText (h : scalarText cs = some v) : v.kind = .text := by
  unfold scalarText at h
  split at h
  · obtain ⟨s, -, rfl⟩ := Option.map_eq_some_iff.mp h
    rfl
  · cases h
    rfl

/-- A value that a scalar literal may denote for a target. -/
structure IsScalarFor (target : ValueTarget) (v : QueryValue) : Prop where
  isScalar : v.isScalar = true
  temporal : target.isTemporal = true → v.kind = .dateTime
  number : ∀ d, v = .number d → d.isNaN = false

lemma isScalarFor_of_scalar (h : scalar target cs = some v) : IsScalarFor target v := by
  cases target with
  | value | compoundKey keys =>
    exact ⟨isScalar_of_scalarByForm h, by simp [ValueTarget.isTemporal], isNaN_of_scalarByForm h⟩
  | observedAt | createdAt | modifiedAt =>
    obtain ⟨t, -, rfl⟩ := Option.map_eq_some_iff.mp h
    exact ⟨rfl, fun _ => rfl, by simp⟩
  | unitCode | datasetId =>
    have hkind := kind_of_scalarText h
    refine ⟨by simp [isScalar, hkind], by simp [ValueTarget.isTemporal], ?_⟩
    rintro d rfl
    cases hkind

/-- What a literal is read as: scalars of one kind, and not truth values in a range. -/
structure IsRead (target : ValueTarget) (v : QueryValue) : Prop where
  nonempty : v ≠ .list []
  elements : ∀ w ∈ v.elements, IsScalarFor target w
  kinds : ∀ w ∈ v.elements, w.kind = v.elementKind
  range : ∀ low high, v = .range low high → low.kind ≠ .boolean ∧ high.kind ≠ .boolean

lemma IsScalarFor.isRead (h : IsScalarFor target v) : IsRead target v := by
  have hscalar := h.isScalar
  cases v with
  | list items => exact absurd hscalar Bool.false_ne_true
  | range low high => exact absurd hscalar Bool.false_ne_true
  | _ => exact ⟨by simp, by simpa [elements] using h, by simp [elements, elementKind], by simp⟩

lemma isScalarFor_of_scalars {items : List (List Char)} {values : List QueryValue}
    (h : scalars target raw items = .ok values) : ∀ w ∈ values, IsScalarFor target w := by
  intro w hw
  obtain ⟨item, -, hitem⟩ := exists_of_mem_mapM h hw
  split at hitem
  case h_1 value hvalue =>
    cases hitem
    exact isScalarFor_of_scalar hvalue
  case h_2 => cases hitem

lemma isRead_listOf {values : List QueryValue} (hvalues : ∀ w ∈ values, IsScalarFor target w)
    (h : listOf raw values = .ok v) : IsRead target v := by
  unfold listOf at h
  split at h
  case h_1 => cases h
  case h_2 first rest =>
    split at h
    case isFalse => cases h
    case isTrue hkinds =>
      cases h
      refine ⟨by simp, hvalues, ?_, by simp⟩
      simpa [elements, elementKind] using hkinds

lemma isRead_rangeOf {low high : QueryValue} (hlow : IsScalarFor target low) (hhigh : IsScalarFor target high)
    (h : rangeOf raw low high = .ok v) : IsRead target v := by
  unfold rangeOf at h
  split at h
  case isFalse => cases h
  case isTrue hkinds =>
    obtain ⟨hkind, hboolean⟩ := hkinds
    cases h
    refine ⟨by simp, by simp [elements, hlow, hhigh], by simp [elements, elementKind, hkind], ?_⟩
    rintro low high ⟨⟩
    exact ⟨hboolean, hkind ▸ hboolean⟩

lemma isRead_ofParts {parts : List (List Char)} (h : ofParts target raw parts = .ok v) : IsRead target v := by
  unfold ofParts at h
  split at h
  case h_1 first second =>
    obtain ⟨values, hvalues, h⟩ := exists_of_bind_eq_ok h
    have hscalars := isScalarFor_of_scalars hvalues
    split at h
    case h_1 low high => exact isRead_rangeOf (hscalars low (by simp)) (hscalars high (by simp)) h
    case h_2 => cases h
  case h_2 => cases h
  case h_3 =>
    split at h
    case h_1 value hvalue =>
      cases h
      exact (isScalarFor_of_scalar hvalue).isRead
    case h_2 => cases h

/-- What a literal is read as keeps to the rules for elements. -/
theorem isRead_of_ofLiteral (h : ofLiteral target text = .ok v) : IsRead target v := by
  unfold ofLiteral at h
  dsimp only at h
  split at h
  case isTrue => cases h
  case isFalse =>
    split at h
    case h_1 => cases h
    case h_2 parts hparts =>
      split at h
      case isTrue =>
        obtain ⟨values, hvalues, h⟩ := exists_of_bind_eq_ok h
        exact isRead_listOf (isScalarFor_of_scalars (eq_ok_of_liftM_eq_ok hvalues)) (eq_ok_of_liftM_eq_ok h)
      case isFalse =>
        exact isRead_ofParts (eq_ok_of_liftM_eq_ok h)

end QueryValue

/-! ### Operators -/

namespace Operator

variable [PatternEngine] {operator : Operator} {value : QueryValue} {target : ValueTarget}

lemma exists_pattern_of_check (h : operator.check value target = .ok ())
    (hpattern : operator.isPattern = true) :
    ∃ s, value = .text s ∧ (PatternEngine.compile? s.toList).isSome = true := by
  unfold check at h
  simp only [hpattern, if_true] at h
  cases value with
  | text s =>
    by_cases hread : (PatternEngine.compile? s.toList).isNone = true
    · simp only [hread, if_true] at h
      cases h
    · exact ⟨s, rfl, by simpa [Option.isSome_iff_ne_none] using hread⟩
  | _ => cases h

lemma isEquality_of_check (h : operator.check value target = .ok ())
    (hvalue : value.isScalar = false ∨ value.kind = .boolean) : operator.isEquality = true := by
  by_contra hne
  have hrefused : ((!value.isScalar || value.kind = .boolean) && !operator.isEquality) = true := by
    simpa [hvalue] using hne
  unfold check at h
  simp only [hrefused, if_true] at h
  -- whatever was found about a pattern, this refusal comes next
  repeat' split at h
  all_goals cases h

lemma elementKind_of_check_field (h : operator.check value target = .ok ())
    (htarget : target = .unitCode ∨ target = .datasetId) : value.elementKind = .text := by
  by_contra hne
  unfold check at h
  rcases htarget with rfl | rfl <;> simp only [ne_eq, hne, not_false_eq_true, if_true] at h <;>
    repeat' split at h
  all_goals cases h

lemma elementKind_of_check_compound {keys : List String}
    (h : operator.check value (.compoundKey keys) = .ok ()) :
    value.elementKind ∈ [.text, .number, .boolean] := by
  by_contra hne
  have hrefused : value.elementKind ≠ .text ∧ value.elementKind ≠ .number ∧ value.elementKind ≠ .boolean := by
    simpa using hne
  unfold check at h
  simp only [hrefused, ne_eq, not_false_eq_true, and_self, if_true] at h
  repeat' split at h
  all_goals cases h

end Operator

/-! ### Queries -/

namespace QueryTerm

open Text (trim)

variable {context : Context}

/-- The literal of a comparison has been read for its target, and its operator has been checked. -/
lemma exists_of_readComparison [PatternEngine] {raw : List Char} {c : Comparison}
    (h : readComparison context raw = .ok c) :
    ∃ after, QueryValue.ofLiteral c.target after = .ok c.value ∧
      c.operator.check c.value c.target = .ok () := by
  unfold readComparison at h
  split at h
  case h_1 => cases h
  case h_2 before operator after _ =>
    obtain ⟨path, -, h⟩ := exists_of_bind_eq_ok h
    obtain ⟨names, -, h⟩ := exists_of_bind_eq_ok h
    obtain ⟨value, hvalue, h⟩ := exists_of_bind_eq_ok h
    obtain ⟨⟨⟩, hcheck, h⟩ := exists_of_bind_eq_ok h
    cases h
    exact ⟨after, hvalue, eq_ok_of_liftM_eq_ok hcheck⟩

lemma accepted_of_readComparison [PatternEngine] {raw : List Char} {c : Comparison}
    (h : readComparison context raw = .ok c) : c.Accepted := by
  obtain ⟨after, hvalue, hcheck⟩ := exists_of_readComparison h
  have hread := QueryValue.isRead_of_ofLiteral hvalue
  refine ⟨hread.nonempty, fun v hv => (hread.elements v hv).isScalar, hread.kinds, hread.range, ?_,
    Operator.exists_pattern_of_check hcheck, fun htarget v hv => (hread.elements v hv).temporal htarget, ?_, ?_⟩
  · intro hkind
    have hkinds : c.value.isScalar = false ∨ c.value.kind = .boolean := by
      simp only [List.mem_cons, List.not_mem_nil, or_false] at hkind
      rcases hkind with hkind | hkind | hkind <;> simp [QueryValue.isScalar, hkind]
    have hequality := Operator.isEquality_of_check hcheck hkinds
    simpa [Operator.isEquality] using hequality
  · intro htarget v hv
    rw [hread.kinds v hv, Operator.elementKind_of_check_field hcheck htarget]
  · intro keys htarget v hv
    rw [hread.kinds v hv]
    rw [htarget] at hcheck
    exact Operator.elementKind_of_check_compound hcheck

lemma mem_leavesOf {c : Comparison} {terms : List QueryTerm} :
    c ∈ leavesOf terms ↔ ∃ t ∈ terms, c ∈ t.leaves := by
  induction terms with
  | nil => simp [leavesOf]
  | cons t terms ih => simp [leavesOf, ih]

/-- Every comparison in a query that is read has been read by itself. -/
lemma exists_read_of_mem_leaves [PatternEngine] {text : List Char} {term : QueryTerm}
    (h : read context text = .ok term) :
    ∀ c ∈ term.leaves, ∃ raw, readComparison context raw = .ok c := by
  induction hlength : text.length using Nat.strong_induction_on generalizing text term with
  | _ n ih =>
    have hshorter (text' : List Char) (hlt : text'.length < (trim text).length) : text'.length < n :=
      hlength ▸ hlt.trans_le (Text.length_trim_le text)
    rw [read_eq] at h
    split at h
    case isTrue => cases h
    case isFalse =>
      split at h
      case h_1 inner hinner => exact ih _ (hshorter inner (length_parenthesized hinner)) h rfl
      case h_2 =>
        split at h
        case h_1 => cases h
        case h_2 => cases h
        case h_3 =>
          obtain ⟨comparison, hread, rfl⟩ := exists_of_map_eq_ok h
          intro c hc
          rw [leaves, List.mem_singleton] at hc
          exact ⟨_, hc ▸ hread⟩
        case h_4 pieces k ks hcut =>
          obtain ⟨terms, hterms, rfl⟩ := exists_of_map_eq_ok h
          intro c hc
          obtain ⟨t, ht, hct⟩ := mem_leavesOf.1 (by simpa only [leaves] using hc)
          obtain ⟨piece, hpiece, hread⟩ := exists_of_mem_mapM hterms ht
          exact ih _ (hshorter piece (length_lt_of_cut hcut (List.cons_ne_nil k ks) hpiece)) hread rfl c hct

/-- The numbers that a query that is read compares with are numbers or infinities. -/
theorem isNaN_of_mem_leaves [PatternEngine] {q : String} {term : QueryTerm} (h : ofText context q = .ok term) :
    ∀ c ∈ term.leaves, ∀ d, .number d ∈ c.value.elements → d.isNaN = false := by
  intro c hc d hd
  obtain ⟨raw, hread⟩ := exists_read_of_mem_leaves h c hc
  obtain ⟨after, hvalue, -⟩ := exists_of_readComparison hread
  exact ((QueryValue.isRead_of_ofLiteral hvalue).elements _ hd).number d rfl

/-- Every comparison of a query that is read keeps to the rules. -/
theorem accepted_of_mem_leaves [PatternEngine] {q : String} {term : QueryTerm} (h : ofText context q = .ok term) :
    ∀ c ∈ term.leaves, c.Accepted := by
  intro c hc
  obtain ⟨raw, hread⟩ := exists_read_of_mem_leaves h c hc
  exact accepted_of_readComparison hread

end QueryTerm

end EntityHistory
