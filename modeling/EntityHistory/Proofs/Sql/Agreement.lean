/-
Agreement of conditions with the evaluation of comparisons.

A comparison is evaluated in memory by the order of what is compared and a value, if their kinds go together.
The condition that it becomes compares data of one type in three-valued logic. Both make the same of every
instance: what has no order with the values is null as a datum of their type, and where there is a datum it has
an order with all of them, so that also the negated tests agree.

* `Sql.eval_operand`: the datum of an operand is what is compared in memory, as one of the type of the values;
* `Sql.order?_eq`: the order in memory is the order of the data;
* `Sql.truth_test`: a test makes the same of an operand;
* `Sql.holds_eq_sampleValue`: a comparison of a query that is read holds just where its condition does.
-/
import EntityHistory.Proofs.Query.Coherence
import EntityHistory.Proofs.Sql.Truth

namespace EntityHistory

/-! ### Finite numbers -/

namespace Json

mutual

/-- All numbers in a JSON value are finite. -/
def isFinite : Json → Bool
  | .double d => d.isFinite
  | .arr items => areFinite items
  | .obj members => membersAreFinite members
  | _ => true

def areFinite : List Json → Bool
  | [] => true
  | item :: items => item.isFinite && areFinite items

def membersAreFinite : List (String × Json) → Bool
  | [] => true
  | (_, value) :: members => value.isFinite && membersAreFinite members

end

lemma isFinite_of_get? {members : List (String × Json)} {name : String} {j : Json}
    (h : membersAreFinite members = true) (hj : Named.get? members name = some j) : j.isFinite = true := by
  induction members with
  | nil => cases hj
  | cons member members ih =>
    rw [membersAreFinite, Bool.and_eq_true] at h
    rw [Named.get?] at hj
    split at hj
    · cases hj
      exact h.1
    · exact ih h.2 hj

/-- So are all numbers in a member. -/
lemma isFinite_of_foldlM {keys : List String} {j member : Json} (h : j.isFinite = true)
    (hmember : keys.foldlM (fun j key => j.get? key) j = some member) : member.isFinite = true := by
  induction keys generalizing j with
  | nil =>
    cases hmember
    exact h
  | cons key keys ih =>
    obtain ⟨next, hnext, hrest⟩ := Option.bind_eq_some_iff.1 hmember
    refine ih ?_ hrest
    cases j with
    | obj members =>
      rw [isFinite] at h
      exact isFinite_of_get? h hnext
    | _ => cases hnext

end Json

/-- All numbers in a value are finite. -/
def AttributeValue.isFinite : AttributeValue → Bool
  | .number d => d.isFinite
  | .compound j => j.isFinite
  | _ => true

namespace Sql

variable {c : Comparison} {r : RowData} {o : EntityHistory.Operand} {v : QueryValue} {kind : ValueKind}
  {d : Datum} {i : AttributeInstance} {s : SubInstance} {instances : List AttributeInstance}
  {subs : List SubInstance} {created : Option Instant} {matching : String → String → Bool}

/-! ### Literals -/

/-- The datum of a scalar. -/
def datumOfValue? : QueryValue → Option Datum
  | .text s => some (.text s)
  | .number d => some (.float8 d)
  | .boolean b => some (.boolean b)
  | .dateTime t => some (.timestamptz t)
  | .date d => some (.date d)
  | .time t => some (.time t)
  | .list _ => none
  | .range _ _ => none

lemma eval_literalForm (r : RowData) (v : QueryValue) : (literalForm v).eval r = datumOfValue? v := by
  cases v <;> rfl

/-! ### Operands -/

/-- What is compared in memory as a datum of the type for a kind of values. Null stands for all that does not go
with the kind. -/
def datumOfOperand? : ValueKind → EntityHistory.Operand → Option Datum
  | .number, .value (.number d) => some (.float8 d)
  | .number, .json j => j.double?.map .float8
  | .boolean, .value (.boolean b) => some (.boolean b)
  | .boolean, .json (.bool b) => some (.boolean b)
  | .dateTime, .value (.dateTime t) => some (.timestamptz t)
  | .dateTime, .time t => some (.timestamptz t)
  | .date, .value (.dateTime t) => some (.date t.date)
  | .date, .time t => some (.date t.date)
  | .time, .value (.dateTime t) => some (.time t.timeOfDay)
  | .time, .time t => some (.time t.timeOfDay)
  | .text, o => o.text?.map .text
  | _, _ => none

/-- What an operand of a condition is in memory. -/
def Operand.inMemory? (r : RowData) : Operand → Option EntityHistory.Operand
  | .value _ => r.value.map .value
  | .member keys _ => (memberAt r.value keys).map .json
  | .observedAt _ => r.observedAt.map .time
  | .writtenAt _ => some (.time r.writtenAt)
  | .createdAt _ => r.lastCreation.map .time
  | .unitCode => r.unitCode.map .text
  | .datasetId => r.datasetId.map .text

lemma inMemory?_ofInstance (hsub : c.subAttribute = none) :
    (Operand.ofComparison c).inMemory? (.ofInstance instances i) =
      i.operand? (RowData.ofInstance instances i).lastCreation c.target := by
  cases htarget : c.target <;>
    simp [Operand.ofComparison, htarget, hsub, Operand.inMemory?, AttributeInstance.operand?,
      RowData.ofInstance]

lemma inMemory?_ofSubInstance (hsub : c.subAttribute.isSome = true) :
    (Operand.ofComparison c).inMemory? (.ofSubInstance s) = s.operand? c.target := by
  cases htarget : c.target <;>
    simp [Operand.ofComparison, htarget, hsub, Operand.inMemory?, SubInstance.operand?, RowData.ofSubInstance]

lemma eval_valueForm (hlist : kind ≠ .list) (hrange : kind ≠ .range) :
    (valueForm kind).eval r = (r.value.map .value).bind (datumOfOperand? kind) := by
  obtain ⟨id, value, observedAt, writtenAt, unitCode, datasetId, lastCreation⟩ := r
  cases kind with
  | list => exact absurd rfl hlist
  | range => exact absurd rfl hrange
  | _ =>
    cases value with
    | none => rfl
    | some value => cases value <;> rfl

/-- A path leads to the same member. -/
lemma eval_pathForm (keys : List String) : (pathForm keys).eval r = (memberAt r.value keys).map .jsonb := by
  have hfold : ∀ (keys : List String) (e : Expression) (j : Option Json), e.eval r = j.map .jsonb →
      (keys.foldl .member e).eval r = (j.bind fun j => keys.foldlM (fun j key => j.get? key) j).map .jsonb := by
    intro keys
    induction keys with
    | nil =>
      intro e j he
      cases j <;> exact he
    | cons key keys ih =>
      intro e j he
      have hmember : (e.member key).eval r = (j.bind fun j => j.get? key).map .jsonb := by
        rw [Expression.eval, he]
        cases j <;> rfl
      rw [List.foldl_cons, ih _ _ hmember, Option.bind_assoc]
      rfl
  obtain ⟨id, value, observedAt, writtenAt, unitCode, datasetId, lastCreation⟩ := r
  cases value with
  | none => exact hfold keys _ none rfl
  | some value =>
    cases value with
    | compound j => exact hfold keys _ (some j) rfl
    | _ => exact hfold keys _ none rfl

lemma eval_memberForm (keys : List String) (hkind : kind ∈ [.text, .number, .boolean]) :
    (memberForm keys kind).eval r = ((memberAt r.value keys).map .json).bind (datumOfOperand? kind) := by
  simp only [List.mem_cons, List.not_mem_nil, or_false] at hkind
  rcases hkind with rfl | rfl | rfl <;>
    simp only [memberForm, Expression.eval, eval_pathForm] <;>
    cases memberAt r.value keys with
    | none => rfl
    | some j => cases j <;> rfl

/-- The operand of an accepted comparison has the datum of what is compared in memory. -/
theorem eval_operand [PatternEngine] (h : c.Accepted) : (Operand.ofComparison c).form.eval r =
    ((Operand.ofComparison c).inMemory? r).bind (datumOfOperand? c.value.elementKind) := by
  obtain ⟨hlist, hrange⟩ := elementKind_ne h
  have htemporal (ht : c.target.isTemporal = true) : c.value.elementKind = .dateTime :=
    h.elementKind_of_forall (P := (· = .dateTime)) (h.temporal ht)
  have hfield (ht : c.target = .unitCode ∨ c.target = .datasetId) : c.value.elementKind = .text :=
    h.elementKind_of_forall (P := (· = .text)) (h.field ht)
  unfold Operand.ofComparison
  cases htarget : c.target with
  | value => exact eval_valueForm hlist hrange
  | compoundKey keys =>
    have hkind := h.elementKind_of_forall (P := (· ∈ [.text, .number, .boolean])) (h.compound keys htarget)
    exact eval_memberForm keys hkind
  | observedAt | modifiedAt | createdAt =>
    rw [htemporal (by rw [htarget]; rfl)]
    obtain ⟨id, value, observedAt, writtenAt, unitCode, datasetId, lastCreation⟩ := r
    cases observedAt <;> cases lastCreation <;> cases c.subAttribute <;> rfl
  | unitCode | datasetId =>
    rw [hfield (by simp [htarget])]
    obtain ⟨id, value, observedAt, writtenAt, unitCode, datasetId, lastCreation⟩ := r
    cases unitCode <;> cases datasetId <;> rfl

/-! ### Orders -/

lemma compare_instants (s t : Instant) : compare s t = compare s.ticks t.ticks := by
  have hthen : compare s t = (compare s.ticks t.ticks).then .eq := rfl
  rw [hthen, Ordering.then_eq]

lemma compare_dates (d e : Date) : compare d e = compare d.day e.day := by
  have hthen : compare d e = (compare d.day e.day).then .eq := rfl
  rw [hthen, Ordering.then_eq]

lemma compare_timesOfDay (s t : TimeOfDay) : compare s t = compare s.ticks t.ticks := by
  have hthen : compare s t = (compare s.ticks t.ticks).then .eq := rfl
  rw [hthen, Ordering.then_eq]

lemma compareNumbers_eq {a b : Double} (ha : a.isNaN = false) (hb : b.isNaN = false) :
    some (compareNumbers a b) = a.compare? b := by
  rw [Double.compare?_eq_some ha hb, compareNumbers, ha, hb]

lemma order?_text (o : EntityHistory.Operand) (e : String) :
    o.order? (.text e) = o.text?.map fun s => compareOfLessAndEq s e := by
  cases o with
  | value v => cases v <;> rfl
  | json j => cases j <;> rfl
  | time t => rfl
  | text s => rfl

lemma orderTime_eq (t : Instant) (hv : v.isScalar = true) :
    EntityHistory.Operand.orderTime t v =
      (datumOfOperand? v.kind (.time t)).bind fun d => (datumOfValue? v).bind d.compare? := by
  cases v with
  | list | range => exact absurd hv Bool.false_ne_true
  | dateTime e => exact congrArg some (compare_instants t e).symm
  | date e => exact congrArg some (compare_dates t.date e).symm
  | time e => exact congrArg some (compare_timesOfDay t.timeOfDay e).symm
  | _ => rfl

/-- The order of an operand and a scalar in memory is that of their data, if they are numbers where they stand
for some. -/
theorem order?_eq (hv : v.isScalar = true) (hnumber : ∀ d, v = .number d → d.isNaN = false)
    (hnan : ∀ d, datumOfOperand? .number o = some (.float8 d) → d.isNaN = false) :
    o.order? v = (datumOfOperand? v.kind o).bind fun d => (datumOfValue? v).bind d.compare? := by
  cases v with
  | list | range => exact absurd hv Bool.false_ne_true
  | text e =>
    rw [order?_text]
    cases htext : o.text? <;> simp [QueryValue.kind, datumOfOperand?, datumOfValue?, htext, Datum.compare?]
  | number e =>
    have he := hnumber e rfl
    cases o with
    | value v =>
      cases v with
      | number d => exact (compareNumbers_eq (hnan d rfl) he).symm
      | _ => rfl
    | json j =>
      cases j with
      | int n => exact (compareNumbers_eq (Double.isNaN_ofInt n) he).symm
      | double d => exact (compareNumbers_eq (hnan d rfl) he).symm
      | _ => rfl
    | time t => rfl
    | text s => rfl
  | boolean e =>
    cases o with
    | value v =>
      cases v with
      | boolean b => cases b <;> cases e <;> rfl
      | _ => rfl
    | json j =>
      cases j with
      | bool b => cases b <;> cases e <;> rfl
      | _ => rfl
    | time t => rfl
    | text s => rfl
  | _ =>
    cases o with
    | value v =>
      cases v with
      | dateTime t => exact orderTime_eq t hv
      | _ => rfl
    | json j => cases j <;> rfl
    | time t => exact orderTime_eq t hv
    | text s => rfl

/-- A datum of the type for a kind has an order with every scalar of the kind. -/
lemma exists_compare?_eq (hv : v.isScalar = true) (hd : datumOfOperand? v.kind o = some d) :
    ∃ e order, datumOfValue? v = some e ∧ d.compare? e = some order := by
  cases v with
  | list | range => exact absurd hv Bool.false_ne_true
  | text e =>
    obtain ⟨s, -, rfl⟩ := Option.map_eq_some_iff.1 hd
    exact ⟨_, _, rfl, rfl⟩
  | number e =>
    cases o with
    | json j =>
      obtain ⟨n, -, rfl⟩ := Option.map_eq_some_iff.1 hd
      exact ⟨_, _, rfl, rfl⟩
    | value v =>
      cases v <;> cases hd
      exact ⟨_, _, rfl, rfl⟩
    | _ => cases hd
  | boolean e =>
    cases o with
    | json j =>
      cases j <;> cases hd
      exact ⟨_, _, rfl, rfl⟩
    | value v =>
      cases v <;> cases hd
      exact ⟨_, _, rfl, rfl⟩
    | _ => cases hd
  | _ =>
    cases o with
    | value v =>
      cases v <;> cases hd
      exact ⟨_, _, rfl, rfl⟩
    | time t =>
      cases hd
      exact ⟨_, _, rfl, rfl⟩
    | _ => cases hd

/-! ### Tests -/

lemma meets_eq (operator : Operator) (order : Ordering) : meets operator order = operator.acceptsOrder order := by
  cases operator <;> cases order <;> rfl

lemma comparison_none (operator : Operator) (b : Option Datum) : comparison operator none b = none := rfl

lemma isAmong_none {items : List (Option Datum)} (h : items ≠ []) : isAmong none items = none := by
  induction items with
  | nil => exact absurd rfl h
  | cons item items ih =>
    rw [isAmong, comparison_none]
    cases items with
    | nil => rfl
    | cons next rest =>
      rw [ih (List.cons_ne_nil next rest)]
      rfl

/-- Among data that it has an order with, a datum is or is not. -/
lemma isAmong_eq {α : Type} {items : List α} {datum : α → Option Datum} {order : α → Ordering}
    (h : ∀ item ∈ items, (datum item).bind d.compare? = some (order item)) :
    isAmong (some d) (items.map datum) = some (items.any fun item => order item = .eq) := by
  induction items with
  | nil => rfl
  | cons item items ih =>
    rw [List.forall_mem_cons] at h
    have hfirst : comparison .equal (some d) (datum item) = some (order item).isEq := by
      obtain ⟨e, he, hcompare⟩ := Option.bind_eq_some_iff.1 h.1
      rw [comparison, Option.bind_some, he, Option.bind_some, hcompare]
      rfl
    rw [List.map_cons, isAmong, hfirst, ih h.2, List.any_cons]
    cases order item <;> cases items.any fun item => order item = .eq <;> rfl

lemma getD_negatedIf_none (negated : Bool) : (Truth.negatedIf negated none).getD false = false := by
  cases negated <;> rfl

lemma getD_negatedIf_some (operator : Operator) (b : Bool) :
    (Truth.negatedIf operator.isNegated (some b)).getD false = operator.judge b := by
  rw [Operator.judge, Truth.negatedIf]
  cases operator.isNegated <;> rfl

/-- On null no test is true. -/
lemma getD_truth_of_eval_eq_none {operand : Expression} (hc : c.value ≠ .list [])
    (hpattern : c.operator.isPattern = false) (h : operand.eval r = none) :
    (((Test.ofComparison c).form operand).truth matching subs r).getD false = false := by
  have hscalar {operator : Operator} {v : QueryValue} :
      (((Test.compares operator v).form operand).truth matching subs r).getD false = false := by
    rw [Test.form, Predicate.truth, h, comparison_none]
    rfl
  unfold Test.ofComparison
  cases hvalue : c.value with
  | list items =>
    have hne : items ≠ [] := fun hnil => hc (hnil ▸ hvalue)
    simp only [Test.form, Predicate.truth, h]
    rw [isAmong_none (by simpa using hne)]
    exact getD_negatedIf_none _
  | range low high =>
    simp only [Test.form, Predicate.truth, h, isBetween, comparison_none]
    exact getD_negatedIf_none _
  | text s =>
    rw [hpattern]
    exact hscalar
  | _ => exact hscalar

/-- On a datum that has an order with all values a test makes the same of the datum and in memory. -/
lemma getD_truth_of_eval_eq_some [PatternEngine] {operand : Expression} {order : QueryValue → Ordering}
    (hc : c.value ≠ .list []) (hpattern : c.operator.isPattern = false) (heval : operand.eval r = some d)
    (hmemory : ∀ v ∈ c.value.elements, o.order? v = some (order v))
    (hdata : ∀ v ∈ c.value.elements, (datumOfValue? v).bind d.compare? = some (order v)) :
    (((Test.ofComparison c).form operand).truth matching subs r).getD false =
      o.compare c.operator c.value := by
  have hcompares {operator : Operator} {v : QueryValue} (hv : v ∈ c.value.elements) :
      comparison operator (some d) (datumOfValue? v) = some (operator.acceptsOrder (order v)) := by
    obtain ⟨e, he, hcompare⟩ := Option.bind_eq_some_iff.1 (hdata v hv)
    rw [comparison, Option.bind_some, he, Option.bind_some, hcompare, Option.map_some, meets_eq]
  have hscalar (hv : c.value.isScalar = true) (hmem : c.value ∈ c.value.elements)
      (htest : Test.ofComparison c = .compares c.operator c.value) :
      (((Test.ofComparison c).form operand).truth matching subs r).getD false =
        o.compare c.operator c.value := by
    rw [htest, Test.form, Predicate.truth, heval, eval_literalForm, hcompares hmem,
      EntityHistory.Operand.compare_of_isScalar hv hpattern, hmemory c.value hmem]
    rfl
  cases hvalue : c.value with
  | list items =>
    have hitems : c.value.elements = items := by rw [hvalue]; rfl
    rw [hitems] at hmemory hdata
    have hliterals : (items.map literalForm).map (fun item => item.eval r) = items.map datumOfValue? := by
      rw [List.map_map]
      exact List.map_congr_left fun v _ => eval_literalForm r v
    have horders : items.map o.order? = items.map fun v => some (order v) := List.map_congr_left hmemory
    have hknown : (items.map fun v => some (order v)).all Option.isNone = false := by
      obtain ⟨first, rest, rfl⟩ := List.exists_cons_of_ne_nil fun hnil => hc (hnil ▸ hvalue)
      rfl
    have hequal : (items.map fun v => some (order v)).contains (some .eq) =
        items.any fun v => order v = .eq := by
      rw [Bool.eq_iff_iff, List.contains_iff_mem, List.mem_map, List.any_eq_true]
      simp
    have htest : Test.ofComparison c = .oneOf c.operator.isNegated items := by
      simp [Test.ofComparison, hvalue]
    rw [htest, Test.form, Predicate.truth, heval, hliterals, isAmong_eq hdata, getD_negatedIf_some,
      EntityHistory.Operand.compare, horders, hknown, hequal]
    rfl
  | range low high =>
    have hlow : low ∈ c.value.elements := by simp [hvalue, QueryValue.elements]
    have hhigh : high ∈ c.value.elements := by simp [hvalue, QueryValue.elements]
    have htest : Test.ofComparison c = .between c.operator.isNegated low high := by
      simp [Test.ofComparison, hvalue]
    have hbetween : isBetween (some d) (datumOfValue? low) (datumOfValue? high) =
        some (order low ≠ .lt && order high ≠ .gt) := by
      rw [isBetween, hcompares hlow, hcompares hhigh]
      cases order low <;> cases order high <;> rfl
    rw [htest, Test.form, Predicate.truth, heval, eval_literalForm, eval_literalForm, hbetween,
      getD_negatedIf_some, EntityHistory.Operand.compare, hmemory low hlow, hmemory high hhigh]
  | text s =>
    rw [← hvalue]
    exact hscalar (by rw [hvalue]; rfl) (by simp [hvalue, QueryValue.elements])
      (by simp [Test.ofComparison, hvalue, hpattern])
  | _ =>
    rw [← hvalue]
    exact hscalar (by rw [hvalue]; rfl) (by simp [hvalue, QueryValue.elements])
      (by simp [Test.ofComparison, hvalue])

/-- A test makes the same of an expression and of what is compared in memory, if the expression has its datum. -/
theorem truth_test [PatternEngine] (h : c.Accepted) (hpattern : c.operator.isPattern = false)
    (hnumber : ∀ d, .number d ∈ c.value.elements → d.isNaN = false) {operand : Expression}
    {operand? : Option EntityHistory.Operand}
    (heval : operand.eval r = operand?.bind (datumOfOperand? c.value.elementKind))
    (hnan : ∀ o ∈ operand?, ∀ d, datumOfOperand? .number o = some (.float8 d) → d.isNaN = false) :
    (((Test.ofComparison c).form operand).truth matching subs r).getD false =
      operand?.any fun o => o.compare c.operator c.value := by
  cases operand? with
  | none => exact getD_truth_of_eval_eq_none h.nonempty hpattern heval
  | some o =>
    have horder : ∀ v ∈ c.value.elements, o.order? v =
        (datumOfOperand? c.value.elementKind o).bind fun d => (datumOfValue? v).bind d.compare? := by
      intro v hv
      rw [← h.kinds v hv]
      exact order?_eq (h.scalars v hv) (fun d hd => hnumber d (hd ▸ hv)) (hnan o rfl)
    rw [Option.bind_some] at heval
    rw [Option.any_some]
    cases hdatum : datumOfOperand? c.value.elementKind o with
    | none =>
      rw [hdatum] at heval horder
      rw [getD_truth_of_eval_eq_none h.nonempty hpattern heval,
        EntityHistory.Operand.compare_eq_false hpattern horder]
    | some d =>
      rw [hdatum] at heval horder
      have hknown : ∀ v ∈ c.value.elements, o.order? v = some ((o.order? v).getD .eq) := by
        intro v hv
        have hd : datumOfOperand? v.kind o = some d := by rw [h.kinds v hv, hdatum]
        obtain ⟨e, order, he, hcompare⟩ := exists_compare?_eq (h.scalars v hv) hd
        rw [horder v hv, Option.bind_some, he, Option.bind_some, hcompare]
        rfl
      refine getD_truth_of_eval_eq_some h.nonempty hpattern heval hknown fun v hv => ?_
      rw [← hknown v hv, horder v hv, Option.bind_some]

/-! ### Comparisons -/

/-- A number that an operand is in memory is one, if all numbers of the row are finite. -/
lemma isNaN_of_inMemory? {operand : Operand} {n : Double} (hfinite : ∀ v ∈ r.value, v.isFinite = true)
    (ho : operand.inMemory? r = some o) (hn : datumOfOperand? .number o = some (.float8 n)) :
    n.isNaN = false := by
  cases operand with
  | value kind =>
    obtain ⟨v, hv, rfl⟩ := Option.map_eq_some_iff.1 ho
    cases v with
    | number d =>
      cases hn
      exact Double.isNaN_of_isFinite (hfinite _ hv)
    | _ => cases hn
  | member keys kind =>
    obtain ⟨j, hj, rfl⟩ := Option.map_eq_some_iff.1 ho
    cases j with
    | int m =>
      cases hn
      exact Double.isNaN_ofInt m
    | double d =>
      cases hn
      obtain ⟨id, value, observedAt, writtenAt, unitCode, datasetId, lastCreation⟩ := r
      unfold memberAt at hj
      split at hj
      · next whole hvalue =>
        have hmember := Json.isFinite_of_foldlM (hfinite (.compound whole) hvalue) hj
        rw [Json.isFinite] at hmember
        exact Double.isNaN_of_isFinite hmember
      · cases hj
    | _ => cases hn
  | observedAt kind | createdAt kind | unitCode | datasetId =>
    obtain ⟨_, -, rfl⟩ := Option.map_eq_some_iff.1 ho
    cases hn
  | writtenAt kind =>
    cases ho
    cases hn

/-- The condition that an accepted comparison puts on a row makes the same of it as the comparison in memory. -/
lemma truth_operand [PatternEngine] (matching : String → String → Bool) (subs : List SubInstance) (r : RowData)
    (h : c.Accepted) (hpattern : c.operator.isPattern = false)
    (hnumber : ∀ d, .number d ∈ c.value.elements → d.isNaN = false)
    (hfinite : ∀ v ∈ r.value, v.isFinite = true) :
    (((Test.ofComparison c).form (Operand.ofComparison c).form).truth matching subs r).getD false =
      ((Operand.ofComparison c).inMemory? r).any fun o => o.compare c.operator c.value :=
  truth_test h hpattern hnumber (eval_operand h) fun _ ho _ hn => isNaN_of_inMemory? hfinite ho hn

/-- The condition of an accepted comparison makes the same of an instance as the comparison in memory. -/
theorem holds_eq [PatternEngine] (h : c.Accepted) (hpattern : c.operator.isPattern = false)
    (hnumber : ∀ d, .number d ∈ c.value.elements → d.isNaN = false)
    (hfinite : ∀ v ∈ i.value, v.isFinite = true) (hsubs : ∀ s ∈ subs, ∀ v ∈ s.value, v.isFinite = true) :
    c.holds i subs (RowData.ofInstance instances i).lastCreation =
      sampleValue i.mode ((Condition.ofComparison c).form.truth matching subs (.ofInstance instances i)) := by
  rw [Comparison.holds, sampleValue]
  refine if_congr Iff.rfl rfl ?_
  cases hsub : c.subAttribute with
  | none =>
    have hform : (Condition.ofComparison c).form = (Test.ofComparison c).form (Operand.ofComparison c).form := by
      simp only [Condition.form, Condition.ofComparison, hsub]
    rw [hform, truth_operand matching subs _ h hpattern hnumber hfinite, inMemory?_ofInstance hsub]
  | some subAttribute =>
    have hform : (Condition.ofComparison c).form =
        .ofSubInstance subAttribute ((Test.ofComparison c).form (Operand.ofComparison c).form) := by
      simp only [Condition.form, Condition.ofComparison, hsub]
    rw [hform, Predicate.truth, Option.getD_some]
    -- a condition selects the sub-instances on which it is true
    have hselected : ∀ s ∈ subs, ((s.operand? c.target).any fun o => o.compare c.operator c.value) =
        decide (((Test.ofComparison c).form (Operand.ofComparison c).form).truth matching subs
          (.ofSubInstance s) = some true) := by
      intro s hs
      have htruth := truth_operand matching subs (.ofSubInstance s) h hpattern hnumber (hsubs s hs)
      rw [← inMemory?_ofSubInstance (by rw [hsub]; rfl), ← htruth]
      cases Predicate.truth matching subs _ _ with
      | none => rfl
      | some b => cases b <;> rfl
    rw [Bool.eq_iff_iff, List.any_eq_true, List.any_eq_true]
    refine exists_congr fun s => and_congr_right fun hs => ?_
    rw [hselected s (List.mem_of_mem_filter hs)]

/-- In memory and in the database, a comparison of a query that is read holds of the same instances. Its
condition is written as a predicate, and in three-valued logic this makes of the row of an instance what the
comparison makes of the instance in memory, with the last creation of its attribute; for all comparisons but
those with patterns. -/
theorem holds_eq_sampleValue [PatternEngine] {context : Context} {q : String} {term : QueryTerm}
    (matching : String → String → Bool) (instances : List AttributeInstance) (subs : List SubInstance)
    (i : AttributeInstance) (h : QueryTerm.ofText context q = .ok term) (hc : c ∈ term.leaves)
    (hpattern : c.operator.isPattern = false) (hfinite : ∀ v ∈ i.value, v.isFinite = true)
    (hsubs : ∀ s ∈ subs, ∀ v ∈ s.value, v.isFinite = true)
    (hcreated : ∀ t, created = some t ↔ IsGreatest {t | RowData.IsCreationUntil instances i t} t) :
    (∀ s : Statement, s.continuedBy ((Condition.ofComparison c).fragment "ai") =
        s.continuedBy ((Condition.ofComparison c).form.fragment .instances)) ∧
      (Condition.ofComparison c).form.WellTyped .instances ∧
      c.holds i subs created =
        sampleValue i.mode ((Condition.ofComparison c).form.truth matching subs (.ofInstance instances i)) := by
  have haccepted := QueryTerm.accepted_of_mem_leaves h c hc
  have hlast : created = (RowData.ofInstance instances i).lastCreation :=
    Option.ext fun t => (hcreated t).trans RowData.lastCreation_eq_some_iff.symm
  refine ⟨addsSame_condition haccepted, wellTyped_condition haccepted, ?_⟩
  rw [hlast]
  exact holds_eq haccepted hpattern (QueryTerm.isNaN_of_mem_leaves h c hc) hfinite hsubs

/-- A comparison with a member of a sub-attribute, which is none of some texts. -/
def noneOfTexts : Comparison where
  attributeId := "urn:p"
  subAttribute := some "urn:q"
  target := .compoundKey ["k=1", "é"]
  operator := .notEqual
  value := .list [.text "\\", .text "\",\"..", .text "é;|)]"]

/-- An instance without a value of its own. -/
def parentInstance : AttributeInstance :=
  ⟨"1", "urn:a", "urn:p", .update, none, none, .ofSecond 5, none, none, true⟩

/-- A sub-instance whose member is a text. -/
def textMember : SubInstance :=
  ⟨"2", "1", "urn:q", some (.compound (.obj [("k=1", .obj [("é", .str "x")])])), none, .ofSecond 5, none, none⟩

theorem holds_eq_sampleValue_noneOfTexts :
    QueryTerm.ofText { terms := [("p", "urn:p"), ("q", "urn:q")] }
        (String.ofList QueryTerm.Spelling.misleading.chars) = .ok (.comparison noneOfTexts) ∧
      noneOfTexts.holds parentInstance [textMember] none = true ∧
      ∀ matching, noneOfTexts.holds parentInstance [textMember] none =
        sampleValue parentInstance.mode ((Condition.ofComparison noneOfTexts).form.truth matching [textMember]
          (.ofInstance [] parentInstance)) := by
  have hread : QueryTerm.ofText { terms := [("p", "urn:p"), ("q", "urn:q")] }
      (String.ofList QueryTerm.Spelling.misleading.chars) = .ok (.comparison noneOfTexts) := by
    rw [QueryTerm.ofText, String.toList_ofList]
    exact QueryTerm.Spelling.misleading.read_chars rfl rfl
  have hcreated : ∀ t, (none : Option Instant) = some t ↔
      IsGreatest {t | RowData.IsCreationUntil [] parentInstance t} t := by
    simp [RowData.IsCreationUntil, IsGreatest]
  refine ⟨hread, by decide, fun matching => ?_⟩
  obtain ⟨-, -, hholds⟩ := holds_eq_sampleValue matching [] [textMember] parentInstance hread
    (show noneOfTexts ∈ _ by simp [QueryTerm.leaves]) rfl (by simp [parentInstance]) (by decide) hcreated
  exact hholds

end Sql

end EntityHistory
