/-
Coherence of the operators.

What is compared goes together with the scalars of certain kinds: a text with texts, an instant with date-times,
dates and times of day. With a scalar of these kinds it is in an order, and exactly one of "less", "equal" and
"greater" holds; the other operators follow from these three. With others nothing holds, so that a negated
operator is no way to find what is absent or of another kind. Lists and ranges reduce to their elements, and
patterns ask for a text. For all this a query that is read has the elements of a list or range of one kind, and
texts that are patterns.

* `Operand.isSome_order?`: there is an order just where the kinds go together;
* `Operand.compare_list`, `Operand.compare_range`: lists and ranges by their elements;
* `QueryTerm.isCoherent_of_mem_leaves`: the operators of a comparison in a query that is read.
-/
import EntityHistory.Pattern.Reader
import EntityHistory.Proofs.Query.Accepted
import EntityHistory.Query.Evaluate

namespace EntityHistory

lemma QueryValue.mem_elements_of_isScalar {v : QueryValue} (h : v.isScalar = true) : v ∈ v.elements := by
  cases v with
  | list | range => exact absurd h Bool.false_ne_true
  | _ => exact List.mem_singleton.2 rfl

/-! ### What goes together -/

namespace Operand

variable {o : Operand} {v low high : QueryValue} {items : List QueryValue} {operator : Operator}

/-- The kinds of scalar that an operand goes together with. A value that is not a number goes together with
nothing. -/
def kinds : Operand → List ValueKind
  | .value (.string _) | .value (.relationship _) | .json (.str _) | .text _ => [.text]
  | .value (.number d) | .json (.double d) => if d.isNaN then [] else [.number]
  | .json (.int _) => [.number]
  | .value (.boolean _) | .json (.bool _) => [.boolean]
  | .value (.dateTime _) | .time _ => [.dateTime, .date, .time]
  | _ => []

lemma isSome_compare? {a b : Double} (hb : b.isNaN = false) : (a.compare? b).isSome = !a.isNaN := by
  rw [Double.compare?, hb]
  cases a.isNaN <;> rfl

lemma isSome_order?_number {e : Double} (he : e.isNaN = false) (o : Operand) :
    (o.order? (.number e)).isSome = true ↔ .number ∈ o.kinds := by
  have hcompare (d : Double) : (d.compare? e).isSome = !d.isNaN := isSome_compare? he
  cases o with
  | value w => cases w <;> simp [order?, kinds, orderTime, hcompare]
  | json j => cases j <;> simp [order?, kinds, hcompare, Double.isNaN_ofInt]
  | time t => simp [order?, kinds, orderTime]
  | text s => simp [order?, kinds]

lemma isSome_order?_text (s : String) (o : Operand) : (o.order? (.text s)).isSome = true ↔ .text ∈ o.kinds := by
  cases o with
  | value w => cases w <;> simp [order?, kinds, text?, orderTime]
  | json j => cases j <;> simp [order?, kinds, text?]
  | time t => simp [order?, kinds, orderTime]
  | text t => simp [order?, kinds, text?]

/-- An operand has an order with the scalars of its kinds, and with no others. -/
theorem isSome_order? (o : Operand) (hv : v.isScalar = true) (hnumber : ∀ d, v = .number d → d.isNaN = false) :
    (o.order? v).isSome = true ↔ v.kind ∈ o.kinds := by
  cases v with
  | list | range => exact absurd hv Bool.false_ne_true
  | number e => exact isSome_order?_number (hnumber e rfl) o
  | text s => exact isSome_order?_text s o
  | boolean | dateTime | date | time =>
    cases o with
    | value w => cases w <;> simp [order?, kinds, orderTime, QueryValue.kind]
    | json j => cases j <;> simp [order?, kinds, QueryValue.kind]
    | time t => simp [order?, kinds, orderTime, QueryValue.kind]
    | text s => simp [order?, kinds, QueryValue.kind]

/-! ### Scalars, lists and ranges -/

variable [engine : PatternEngine]

lemma compare_of_isScalar (hv : v.isScalar = true) (hpattern : operator.isPattern = false) :
    o.compare operator v = (o.order? v).any operator.acceptsOrder := by
  cases v with
  | list | range => exact absurd hv Bool.false_ne_true
  | text s => simp only [compare, hpattern]
  | _ => rfl

/-- What has no order with the elements is compared in vain. -/
theorem compare_eq_false (hpattern : operator.isPattern = false) (h : ∀ w ∈ v.elements, o.order? w = none) :
    o.compare operator v = false := by
  cases hvalue : v with
  | list items =>
    rw [hvalue] at h
    have hall : (items.map o.order?).all Option.isNone = true := by
      rw [List.all_map, List.all_eq_true]
      intro w hw
      simp [h w hw]
    rw [compare, if_pos hall]
  | range low high =>
    have hlow : o.order? low = none := h low (by simp [hvalue, QueryValue.elements])
    rw [compare, hlow]
  | _ =>
    rw [← hvalue, compare_of_isScalar (by rw [hvalue]; rfl) hpattern,
      h v (by simp [hvalue, QueryValue.elements])]
    rfl

/-- A list is equal to what is equal to one of its elements. -/
theorem compare_equal_list (hscalars : ∀ v ∈ items, v.isScalar = true) :
    o.compare .equal (.list items) = items.any fun v => o.compare .equal v := by
  have hcontains : (items.map o.order?).contains (some .eq) = items.any fun v => o.compare .equal v := by
    rw [Bool.eq_iff_iff, List.contains_iff_mem, List.mem_map, List.any_eq_true]
    refine exists_congr fun v => and_congr_right fun hv => ?_
    rw [compare_of_isScalar (hscalars v hv) rfl]
    cases o.order? v <;> simp [Operator.acceptsOrder]
  rw [← hcontains, compare]
  split
  case isTrue hall =>
    refine (Bool.eq_false_iff.2 fun hequal => ?_).symm
    exact Bool.false_ne_true (List.all_eq_true.1 hall _ (List.contains_iff_mem.1 hequal))
  case isFalse => rfl

/-- What has an order with an element is different from a list if it is not equal to it. -/
theorem compare_notEqual_list (hv : v ∈ items) (hknown : (o.order? v).isSome = true) :
    o.compare .notEqual (.list items) = !o.compare .equal (.list items) := by
  have hall : ¬ (items.map o.order?).all Option.isNone = true := by
    intro hall
    have hnone := List.all_eq_true.1 hall _ (List.mem_map_of_mem hv)
    rw [Option.isNone_iff_eq_none.1 hnone] at hknown
    cases hknown
  rw [compare, compare, if_neg hall, if_neg hall]
  rfl

/-- A range is equal to what is at least its lower bound and at most its upper. -/
theorem compare_equal_range (hlow : low.isScalar = true) (hhigh : high.isScalar = true) :
    o.compare .equal (.range low high) =
      (o.compare .greaterOrEqual low && o.compare .lessOrEqual high) := by
  rw [compare_of_isScalar hlow rfl, compare_of_isScalar hhigh rfl, compare]
  cases o.order? low with
  | none => rfl
  | some lower =>
    cases o.order? high with
    | none => exact (Bool.and_false _).symm
    | some upper => rfl

/-- What has an order with both bounds is different from a range if it is not equal to it. -/
theorem compare_notEqual_range (hlow : (o.order? low).isSome = true) (hhigh : (o.order? high).isSome = true) :
    o.compare .notEqual (.range low high) = !o.compare .equal (.range low high) := by
  obtain ⟨lower, hlower⟩ := Option.isSome_iff_exists.1 hlow
  obtain ⟨upper, hupper⟩ := Option.isSome_iff_exists.1 hhigh
  rw [compare, compare, hlower, hupper]
  rfl

/-- A pattern is judged on what has a text, and not met by anything else. -/
theorem compare_pattern {s : String} {pattern : engine.Compiled}
    (hoperator : operator.isPattern = true) (hpattern : PatternEngine.compile? s.toList = some pattern) :
    o.compare operator (.text s) =
      o.text?.any fun t => operator.judge (PatternEngine.occursIn pattern t.toList) := by
  simp only [compare, hoperator]
  cases o.text? with
  | none => rfl
  | some t => simp [occurs?, hpattern]

end Operand

/-! ### Operators -/

/-- The operators other than patterns hold as they do of two things in an order. -/
structure Operator.Trichotomous (holds : Operator → Bool) : Prop where
  exactlyOne : ∃! operator, operator ∈ [.less, .equal, .greater] ∧ holds operator = true
  notEqual : holds .notEqual = !holds .equal
  greaterOrEqual : holds .greaterOrEqual = (holds .greater || holds .equal)
  lessOrEqual : holds .lessOrEqual = (holds .less || holds .equal)

namespace Operator

/-- The operator that accepts just one order. -/
def ofOrdering : Ordering → Operator
  | .lt => .less
  | .eq => .equal
  | .gt => .greater

lemma trichotomous_of_acceptsOrder {holds : Operator → Bool} (order : Ordering)
    (h : ∀ operator, operator.isPattern = false → holds operator = operator.acceptsOrder order) :
    Trichotomous holds where
  exactlyOne := by
    refine ⟨ofOrdering order, ⟨by cases order <;> decide, ?_⟩, ?_⟩
    · rw [h _ (by cases order <;> rfl)]
      cases order <;> rfl
    · rintro operator ⟨hmem, hholds⟩
      simp only [List.mem_cons, List.not_mem_nil, or_false] at hmem
      rcases hmem with rfl | rfl | rfl <;> rw [h _ rfl] at hholds <;>
        cases order <;> first | rfl | cases hholds
  notEqual := by
    rw [h _ rfl, h _ rfl]
    cases order <;> rfl
  greaterOrEqual := by
    rw [h _ rfl, h _ rfl, h _ rfl]
    cases order <;> rfl
  lessOrEqual := by
    rw [h _ rfl, h _ rfl, h _ rfl]
    cases order <;> rfl

end Operator

/-! ### Comparisons -/

/-- What a comparison looks at in an instance goes together with the scalars of a kind. -/
def AttributeInstance.ComparesWith (i : AttributeInstance) (createdAt : Option Instant) (target : ValueTarget)
    (kind : ValueKind) : Prop :=
  ∃ o, i.operand? createdAt target = some o ∧ kind ∈ o.kinds

/-- What a comparison looks at in an instance is a text. -/
def AttributeInstance.HasText (i : AttributeInstance) (createdAt : Option Instant) (target : ValueTarget) :
    Prop :=
  ∃ o s, i.operand? createdAt target = some o ∧ o.text? = some s

namespace Comparison

variable [PatternEngine] {c : Comparison} {i : AttributeInstance} {subs : List SubInstance} {createdAt : Option Instant}
  {operator : Operator} {v : QueryValue} {o : Operand}

/-- Whether a comparison of the same by another operator and with another value holds. -/
def holdsBy (c : Comparison) (i : AttributeInstance) (subs : List SubInstance) (createdAt : Option Instant)
    (operator : Operator) (value : QueryValue) : Bool :=
  holds { c with operator, value } i subs createdAt

/-- The operators make one sense of an instance: of a scalar as of something in an order, or nothing holds; of
lists and ranges as of their elements; negated ones are the negation where there is something to compare, and
hold nowhere else. -/
structure IsCoherent (c : Comparison) (i : AttributeInstance) (subs : List SubInstance)
    (createdAt : Option Instant) : Prop where
  ordered : c.value.isScalar = true → i.ComparesWith createdAt c.target c.value.elementKind →
    Operator.Trichotomous fun operator => c.holdsBy i subs createdAt operator c.value
  unordered : ¬ i.ComparesWith createdAt c.target c.value.elementKind →
    ∀ operator, operator.isPattern = false → c.holdsBy i subs createdAt operator c.value = false
  list : ∀ items, c.value = .list items →
    (c.holdsBy i subs createdAt .equal c.value = true ↔
      ∃ item ∈ items, c.holdsBy i subs createdAt .equal item = true)
  range : ∀ low high, c.value = .range low high →
    (c.holdsBy i subs createdAt .equal c.value = true ↔
      c.holdsBy i subs createdAt .greaterOrEqual low = true ∧
        c.holdsBy i subs createdAt .lessOrEqual high = true)
  negated : c.value.isScalar = false → i.ComparesWith createdAt c.target c.value.elementKind →
    c.holdsBy i subs createdAt .notEqual c.value = !c.holdsBy i subs createdAt .equal c.value
  pattern : c.operator.isPattern = true → i.HasText createdAt c.target →
    c.holdsBy i subs createdAt .notPattern c.value = !c.holdsBy i subs createdAt .pattern c.value
  textless : c.operator.isPattern = true → ¬ i.HasText createdAt c.target →
    ∀ operator, operator.isPattern = true → c.holdsBy i subs createdAt operator c.value = false

lemma holdsBy_of_delete (h : i.mode = .delete) : c.holdsBy i subs createdAt operator v = false := by
  rw [holdsBy, holds, if_pos h]

lemma holdsBy_eq_any (h : i.mode ≠ .delete) (hsub : c.subAttribute = none) :
    c.holdsBy i subs createdAt operator v =
      (i.operand? createdAt c.target).any fun o => o.compare operator v := by
  rw [holdsBy, holds, if_neg h, hsub]

/-- An operand has an order with each element of an accepted value, or with none. -/
lemma Accepted.isSome_order? (h : c.Accepted) (hnumber : ∀ d, .number d ∈ c.value.elements → d.isNaN = false)
    (o : Operand) (hv : v ∈ c.value.elements) :
    (o.order? v).isSome = true ↔ c.value.elementKind ∈ o.kinds := by
  rw [← h.kinds v hv]
  exact o.isSome_order? (h.scalars v hv) fun d hd => hnumber d (hd ▸ hv)

/-- The operators are coherent for every accepted value. -/
theorem Accepted.isCoherent (h : c.Accepted) (hnumber : ∀ d, .number d ∈ c.value.elements → d.isNaN = false)
    (hsub : c.subAttribute = none) (hmode : i.mode ≠ .delete) : c.IsCoherent i subs createdAt where
  ordered := by
    rintro hscalar ⟨o, ho, hkind⟩
    have hmem := QueryValue.mem_elements_of_isScalar hscalar
    obtain ⟨order, horder⟩ := Option.isSome_iff_exists.1 ((h.isSome_order? hnumber o hmem).2 hkind)
    refine Operator.trichotomous_of_acceptsOrder order fun operator hpattern => ?_
    rw [holdsBy_eq_any hmode hsub, ho, Option.any_some, Operand.compare_of_isScalar hscalar hpattern, horder,
      Option.any_some]
  unordered := by
    intro hnot operator hpattern
    rw [holdsBy_eq_any hmode hsub]
    cases ho : i.operand? createdAt c.target with
    | none => rfl
    | some o =>
      refine Operand.compare_eq_false hpattern fun v hv => ?_
      rw [← Option.not_isSome_iff_eq_none, h.isSome_order? hnumber o hv]
      exact fun hkind => hnot ⟨o, ho, hkind⟩
  list := by
    intro items hvalue
    have hscalars : ∀ v ∈ items, v.isScalar = true := fun v hv =>
      h.scalars v (by rw [hvalue]; exact hv)
    simp only [holdsBy_eq_any hmode hsub]
    cases i.operand? createdAt c.target with
    | none => simp
    | some o => simp only [Option.any_some, hvalue, Operand.compare_equal_list hscalars, List.any_eq_true]
  range := by
    intro low high hvalue
    have hlow : low.isScalar = true := h.scalars low (by simp [hvalue, QueryValue.elements])
    have hhigh : high.isScalar = true := h.scalars high (by simp [hvalue, QueryValue.elements])
    simp only [holdsBy_eq_any hmode hsub]
    cases i.operand? createdAt c.target with
    | none => simp
    | some o => simp only [Option.any_some, hvalue, Operand.compare_equal_range hlow hhigh, Bool.and_eq_true]
  negated := by
    rintro hscalar ⟨o, ho, hkind⟩
    have hknown (v : QueryValue) (hv : v ∈ c.value.elements) : (o.order? v).isSome = true :=
      (h.isSome_order? hnumber o hv).2 hkind
    rw [holdsBy_eq_any hmode hsub, holdsBy_eq_any hmode hsub, ho, Option.any_some, Option.any_some]
    cases hvalue : c.value with
    | list items =>
      rw [hvalue] at hknown
      obtain ⟨first, hfirst⟩ := List.exists_mem_of_ne_nil items fun hnil => h.nonempty (hnil ▸ hvalue)
      exact Operand.compare_notEqual_list hfirst (hknown first hfirst)
    | range low high =>
      rw [hvalue] at hknown
      exact Operand.compare_notEqual_range (hknown low (by simp [QueryValue.elements]))
        (hknown high (by simp [QueryValue.elements]))
    | _ =>
      rw [hvalue] at hscalar
      cases hscalar
  pattern := by
    rintro hpattern ⟨o, t, ho, ht⟩
    obtain ⟨s, hvalue, hread⟩ := h.pattern hpattern
    obtain ⟨pattern, hread⟩ := Option.isSome_iff_exists.1 hread
    rw [holdsBy_eq_any hmode hsub, holdsBy_eq_any hmode hsub, ho, hvalue, Option.any_some, Option.any_some,
      Operand.compare_pattern rfl hread, Operand.compare_pattern rfl hread, ht]
    rfl
  textless := by
    intro hpattern hnot operator hoperator
    obtain ⟨s, hvalue, hread⟩ := h.pattern hpattern
    obtain ⟨pattern, hread⟩ := Option.isSome_iff_exists.1 hread
    rw [holdsBy_eq_any hmode hsub, hvalue]
    cases ho : i.operand? createdAt c.target with
    | none => rfl
    | some o =>
      rw [Option.any_some, Operand.compare_pattern hoperator hread]
      cases ht : o.text? with
      | none => rfl
      | some t => exact absurd ⟨o, t, ho, ht⟩ hnot

end Comparison

/-! ### Queries that are read -/

/-- **The operators of a comparison in a query that is read are coherent on every instance that is no deletion,
whatever the comparison looks at, and on a deletion no operator holds.** -/
theorem QueryTerm.isCoherent_of_mem_leaves [PatternEngine] {context : Context} {q : String} {term : QueryTerm}
    {c : Comparison} (h : ofText context q = .ok term) (hc : c ∈ term.leaves) (hsub : c.subAttribute = none)
    (i : AttributeInstance) (subs : List SubInstance) (createdAt : Option Instant) :
    (i.mode ≠ .delete → c.IsCoherent i subs createdAt) ∧
      (i.mode = .delete → ∀ operator v, c.holdsBy i subs createdAt operator v = false) :=
  ⟨fun hmode => (accepted_of_mem_leaves h c hc).isCoherent (isNaN_of_mem_leaves h c hc) hsub hmode,
    fun hmode _ _ => Comparison.holdsBy_of_delete hmode⟩

/-- A comparison with two texts. -/
def neitherText : Comparison := ⟨"urn:p", none, .value, .notEqual, .list [.text "a", .text "b"]⟩

/-- An instance of a mode and with a value. -/
def instanceWith (mode : OperationMode) (value : AttributeValue) : AttributeInstance :=
  ⟨"1", "urn:a", "urn:p", mode, some value, none, .ofSecond 5, none, none, false⟩

theorem isCoherent_of_mem_leaves_neitherText :
    QueryTerm.ofText { terms := [("p", "urn:p")] } "p!=[\"a\",\"b\"]" = .ok (.comparison neitherText) ∧
      neitherText.holdsBy (instanceWith .update (.string "c")) [] none .notEqual neitherText.value =
        (!neitherText.holdsBy (instanceWith .update (.string "c")) [] none .equal neitherText.value) ∧
      neitherText.holdsBy (instanceWith .update (.boolean true)) [] none .notEqual neitherText.value = false ∧
      neitherText.holdsBy (instanceWith .delete (.string "c")) [] none .notEqual neitherText.value = false := by
  have hread : QueryTerm.ofText { terms := [("p", "urn:p")] } "p!=[\"a\",\"b\"]" =
      .ok (.comparison neitherText) := by cbv
  have hcoherent (i : AttributeInstance) :=
    QueryTerm.isCoherent_of_mem_leaves hread (show neitherText ∈ _ by simp [QueryTerm.leaves]) rfl i [] none
  refine ⟨hread, ?_, ?_, (hcoherent _).2 rfl _ _⟩
  · exact ((hcoherent _).1 (by decide)).negated rfl ⟨_, rfl, by decide⟩
  · refine ((hcoherent _).1 (by decide)).unordered ?_ _ rfl
    rintro ⟨o, ⟨⟩, hkind⟩
    exact absurd hkind (by decide)

end EntityHistory
