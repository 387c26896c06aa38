/-
The instances that a database answers with.

The statement for the instances within an interval picks rows of the table of instances and keeps of each
attribute those that come first: in the order of their times, or against it, and always in the order of their
identifiers where the times are the same. The log in memory turns the ascending order round instead, and the
order of the identifiers with it. In ascending order both answer the same; in descending order they do just
when none of the instances that the log answers with is level with another one of its attribute.

* `Sql.addsSame_instances`: what the statement is written from;
* `Sql.kept_ofQuery`: the rows that the statement picks are the instances that the log admits;
* `Sql.mayAnswer_findInstances_iff`: when the log answers like the database.
-/
import EntityHistory.Proofs.Sql.Ranking
import EntityHistory.Proofs.Sql.Truth
import EntityHistory.Proofs.Store.Retrieval
import EntityHistory.Sql.Statements

namespace EntityHistory.Sql

open Fragment

/-! ### Conditions on the rows of instances -/

/-- A condition on the row of an instance. -/
inductive RowCondition where
  | isOf (entityId : String)
  | isAmong (attributeIds : List String)
  | isCreation
  | isKnown (c : Column)
  | compares (operator : Operator) (c : Column) (t : Instant)

/-- The written form of a condition. -/
def RowCondition.fragment : RowCondition → Fragment
  | .isOf entityId => text "ai.entity_id = " ++ bind (.ofString entityId)
  | .isAmong attributeIds =>
    text "ai.attribute_id IN (" ++ Fragment.bindList (attributeIds.map .ofString) ++ text ")"
  | .isCreation => text "ai.operation_mode = 'Create'"
  | .isKnown c => (Expression.column c).fragment .instances ++ text " IS NOT NULL"
  | .compares operator c t =>
    (Predicate.compares operator (.column c) (.parameter (.ofInstant t))).fragment .instances

/-- The truth of a condition on the row of an instance. -/
def RowCondition.truth (table : List AttributeInstance) (i : AttributeInstance) : RowCondition → Truth
  | .isOf entityId => some (i.entityId = entityId)
  | .isAmong attributeIds => some (attributeIds.contains i.attributeId)
  | .isCreation => some (i.mode = .create)
  | .isKnown c => some (((Expression.column c).eval (.ofInstance table i)).isSome)
  | .compares operator c t =>
    comparison operator ((Expression.column c).eval (.ofInstance table i))
      ((Expression.parameter (.ofInstant t)).eval (.ofInstance table i))

/-- The truth of all of some conditions. -/
def Truth.all (truths : List Truth) : Truth := truths.foldr Truth.and (some true)

lemma Truth.all_eq_some_true_iff {truths : List Truth} :
    Truth.all truths = some true ↔ ∀ truth ∈ truths, truth = some true := by
  induction truths with
  | nil => simp [Truth.all]
  | cons truth truths ih =>
    rw [List.forall_mem_cons, ← ih, Truth.all, List.foldr_cons, ← Truth.all]
    rcases truth with _ | _ | _ <;> rcases Truth.all truths with _ | _ | _ <;> simp [Truth.and]

/-! ### Statements for first rows -/

/-- Of each attribute, the rows that come first among those that meet some conditions. -/
structure FirstRows where
  conditions : List RowCondition
  column : Column
  order : SortOrder
  limit : Nat

namespace FirstRows

def direction : SortOrder → String
  | .ascending => "ASC"
  | .descending => "DESC"

/-- The written form of the statement. -/
def fragment (s : FirstRows) : Fragment :=
  text ("SELECT instance_id, entity_id, attribute_id, operation_mode, " ++ valueColumns ++
      ", observed_at, ts, dataset_id, unit_code, has_sub_attributes FROM (SELECT ai.*, row_number() " ++
      "OVER (PARTITION BY ai.attribute_id ORDER BY ") ++
    (Expression.column s.column).fragment .instances ++
    text (" " ++ direction s.order ++ ", ai.instance_id) AS rn FROM " ++ instanceTable ++ " ai WHERE ") ++
    Fragment.separated " AND " (s.conditions.map RowCondition.fragment) ++ text ") ranked WHERE rn <= " ++
    bind (.ofNat s.limit) ++ text " ORDER BY attribute_id, rn"

/-- The rows that are numbered: those on which all conditions are true. -/
def kept (s : FirstRows) (table : List AttributeInstance) : List AttributeInstance :=
  table.filter fun i => Truth.all (s.conditions.map fun condition => condition.truth table i) = some true

/-- The time of a row in a column. Null comes after all times. -/
def timeIn (c : Column) (i : AttributeInstance) : WithTop Instant :=
  match (RowData.ofInstance [] i).column c with
  | some (.timestamptz t) => t
  | _ => ⊤

/-- What may be answered. The times are in one order or the other, and the identifiers of rows with one time are
always in ascending order. -/
def MayAnswer (s : FirstRows) (table answer : List AttributeInstance) : Prop :=
  match s.order with
  | .ascending =>
    IsFirstRows (·.attributeId) (fun i => toLex (timeIn s.column i, i.id)) s.limit (s.kept table) answer
  | .descending =>
    IsFirstRows (·.attributeId) (fun i => toLex (OrderDual.toDual (timeIn s.column i), i.id)) s.limit
      (s.kept table) answer

variable {s : FirstRows} {table answer answer' : List AttributeInstance}

lemma exists_mayAnswer (s : FirstRows) (table : List AttributeInstance) :
    ∃ answer, s.MayAnswer table answer := by
  simp only [MayAnswer]
  cases s.order with
  | ascending => exact exists_isFirstRows _ _ _ _
  | descending => exact exists_isFirstRows _ _ _ _

/-- Where no two rows have one identifier, there is one answer. -/
lemma MayAnswer.unique (h : s.MayAnswer table answer)
    (hid : ∀ i ∈ s.kept table, ∀ j ∈ s.kept table, i.id = j.id → i = j) (h' : s.MayAnswer table answer') :
    answer = answer' := by
  simp only [MayAnswer] at h h'
  cases horder : s.order with
  | ascending =>
    rw [horder] at h h'
    refine IsFirstRows.unique h h' fun i hi j hj _ hplace => ?_
    exact hid i hi j hj (congrArg Prod.snd (toLex.injective hplace))
  | descending =>
    rw [horder] at h h'
    refine IsFirstRows.unique h h' fun i hi j hj _ hplace => ?_
    exact hid i hi j hj (congrArg Prod.snd (toLex.injective hplace))

end FirstRows

/-- The column of a time property. -/
def columnOf : TimeProperty → Column
  | .observedAt => .observedAt
  | .createdAt => .ts
  | .modifiedAt => .ts

/-- What a time query asks of a column. -/
def timeConditions (c : Column) (q : TimeQuery) : List RowCondition :=
  let atLeast := if q.inclusive then Operator.greaterOrEqual else .greater
  let atMost := if q.inclusive then Operator.lessOrEqual else .less
  match q.bounds with
  | .before t => [.compares atMost c t]
  | .after t => [.compares atLeast c t]
  | .between start stop => [.compares atLeast c start, .compares atMost c stop]
  | .unbounded => [.isKnown c]

/-- What is asked of the instances of an entity. -/
def instanceConditions (q : InstanceQuery) : List RowCondition :=
  (if q.attributeIds = [] then [] else [.isAmong q.attributeIds]) ++
    ((if q.time.property = .createdAt then [.isCreation] else []) ++
      (.compares .greaterOrEqual (columnOf q.time.property) q.interval.start ::
        .compares .lessOrEqual (columnOf q.time.property) q.interval.stop ::
          timeConditions (columnOf q.time.property) q.time))

/-- The statement for the instances within an interval. -/
def FirstRows.ofQuery (q : InstanceQuery) : FirstRows where
  conditions := .isOf q.interval.entityId :: instanceConditions q
  column := columnOf q.time.property
  order := q.order
  limit := q.limit

/-! ### The written statement -/

lemma separated_cons (separator : String) (f : Fragment) (fs : List Fragment) :
    Fragment.separated separator (f :: fs) = f ++ fs.flatMap fun g => text separator ++ g := by
  induction fs generalizing f with
  | nil => simp [Fragment.separated]
  | cons g fs ih => simp [Fragment.separated, ih, List.flatMap_cons]

lemma timeColumn_eq (property : TimeProperty) :
    timeColumn "ai" property = "ai" ++ (columnOf property).name := by
  cases property <;> rfl

/-- Further conditions, each after a conjunction. -/
def further (conditions : List RowCondition) : Fragment :=
  conditions.flatMap fun condition => text " AND " ++ condition.fragment

lemma further_append (conditions conditions' : List RowCondition) :
    further (conditions ++ conditions') = further conditions ++ further conditions' := List.flatMap_append

lemma further_cons (condition : RowCondition) (conditions : List RowCondition) :
    further (condition :: conditions) = text " AND " ++ condition.fragment ++ further conditions :=
  List.flatMap_cons

lemma further_nil : further [] = [] := rfl

lemma addsSame_further_isAmong (attributeIds : List String) :
    AddsSame (restriction "ai.attribute_id" attributeIds)
      (further (if attributeIds = [] then [] else [.isAmong attributeIds])) := by
  rw [restriction]
  split
  · exact .refl _
  · have hin : " AND " ++ ("ai.attribute_id" ++ " IN (") = " AND " ++ "ai.attribute_id IN (" := rfl
    intro s
    simp only [further_cons, further_nil, RowCondition.fragment, List.append_nil, continuedBy_append,
      continuedBy_text, String.append_assoc, hin]

lemma addsSame_further_isCreation (property : TimeProperty) :
    AddsSame (onlyCreations property) (further (if property = .createdAt then [.isCreation] else [])) := by
  rw [onlyCreations]
  split
  · have hmode : " AND ai.operation_mode = 'Create'" = " AND " ++ "ai.operation_mode = 'Create'" := rfl
    intro s
    simp only [further_cons, further_nil, RowCondition.fragment, List.append_nil, continuedBy_append,
      continuedBy_text, String.append_assoc, hmode]
  · exact .refl _

/-- A comparison of a column with an instant, and what follows it. -/
lemma addsSame_further_compares {f : Fragment} {conditions : List RowCondition} (operator : Operator)
    (c : Column) (t : Instant) (h : AddsSame f (further conditions)) :
    AddsSame (text (" AND " ++ ("ai" ++ c.name) ++ operatorText operator) ++ bind (.ofInstant t) ++ f)
      (further (.compares operator c t :: conditions)) := by
  intro s
  simp only [further_cons, RowCondition.fragment, Predicate.fragment, Expression.fragment, RowTable.alias,
    continuedBy_append, continuedBy_text, String.append_assoc, h _]

lemma addsSame_further_timeConditions (c : Column) (q : TimeQuery) :
    AddsSame (text " AND " ++ timeCondition ("ai" ++ c.name) q) (further (timeConditions c q)) := by
  have hatLeast : operatorText (if q.inclusive then .greaterOrEqual else .greater) =
      if q.inclusive then " >= " else " > " := by cases q.inclusive <;> rfl
  have hatMost : operatorText (if q.inclusive then .lessOrEqual else .less) =
      if q.inclusive then " <= " else " < " := by cases q.inclusive <;> rfl
  intro s
  rw [timeConditions, timeCondition]
  cases q.bounds <;>
    simp only [further_cons, further_nil, RowCondition.fragment, Predicate.fragment, Expression.fragment,
      RowTable.alias, List.append_nil, continuedBy_append, continuedBy_text, String.append_assoc, hatLeast,
      hatMost]

lemma addsSame_further_instanceConditions (q : InstanceQuery) :
    AddsSame (restriction "ai.attribute_id" q.attributeIds ++ (onlyCreations q.time.property ++
        (text (" AND " ++ timeColumn "ai" q.time.property ++ " >= ") ++ bind (.ofInstant q.interval.start) ++
          (text (" AND " ++ timeColumn "ai" q.time.property ++ " <= ") ++ bind (.ofInstant q.interval.stop) ++
            (text " AND " ++ timeCondition (timeColumn "ai" q.time.property) q.time)))))
      (further (instanceConditions q)) := by
  rw [instanceConditions, further_append, further_append, timeColumn_eq]
  refine (addsSame_further_isAmong _).append ((addsSame_further_isCreation _).append ?_)
  exact addsSame_further_compares .greaterOrEqual _ _ (addsSame_further_compares .lessOrEqual _ _
    (addsSame_further_timeConditions _ _))

/-- The statement for the instances within an interval is written from its parts. -/
theorem addsSame_instances (q : InstanceQuery) :
    AddsSame (instancesFragment q) (FirstRows.ofQuery q).fragment := by
  let chosen := "SELECT instance_id, entity_id, attribute_id, operation_mode, " ++ valueColumns ++
    ", observed_at, ts, dataset_id, unit_code, has_sub_attributes FROM (SELECT ai.*, row_number() " ++
    "OVER (PARTITION BY ai.attribute_id ORDER BY "
  let direction := FirstRows.direction q.order
  have hhead : AddsSame
      (text (chosen ++ timeColumn "ai" q.time.property ++ " " ++ direction ++ ", ai.instance_id) AS rn FROM " ++
        instanceTable ++ " ai WHERE ai.entity_id = "))
      (text chosen ++ (Expression.column (columnOf q.time.property)).fragment .instances ++
        text (" " ++ direction ++ ", ai.instance_id) AS rn FROM " ++ instanceTable ++ " ai WHERE ") ++
        text "ai.entity_id = ") := by
    have hwhere : " ai WHERE ai.entity_id = " = " ai WHERE " ++ "ai.entity_id = " := rfl
    intro s
    simp only [timeColumn_eq, hwhere, Expression.fragment, RowTable.alias, continuedBy_append, continuedBy_text,
      String.append_assoc]
  have hconditions : Fragment.separated " AND " ((FirstRows.ofQuery q).conditions.map RowCondition.fragment) =
      text "ai.entity_id = " ++ bind (.ofString q.interval.entityId) ++ further (instanceConditions q) := by
    rw [FirstRows.ofQuery, List.map_cons, separated_cons, List.flatMap_map]
    rfl
  have hwhole := ((hhead.append (.refl (bind (.ofString q.interval.entityId)))).append
    (addsSame_further_instanceConditions q)).append
      (.refl (text ") ranked WHERE rn <= " ++ (bind (.ofNat q.limit) ++ text " ORDER BY attribute_id, rn")))
  rw [FirstRows.fragment, hconditions, instancesFragment]
  simp only [List.append_assoc] at hwhole ⊢
  exact hwhole

/-! ### The rows that are picked -/

variable {table : List AttributeInstance} {i j : AttributeInstance} {property : TimeProperty} {t : Instant}

lemma column_ofInstance (c : Column) :
    (RowData.ofInstance table i).column c = (RowData.ofInstance [] i).column c := by
  cases c <;> rfl

/-- The time of an instance is the one in the column, for a creation time that of a creation. -/
lemma time?_eq_some_iff : i.time? property = some t ↔
    FirstRows.timeIn (columnOf property) i = t ∧ (property = .createdAt → i.mode = .create) := by
  cases property with
  | observedAt =>
    cases h : i.observedAt <;>
      simp [AttributeInstance.time?, FirstRows.timeIn, columnOf, RowData.column, RowData.ofInstance, h]
  | modifiedAt => simp [AttributeInstance.time?, FirstRows.timeIn, columnOf, RowData.column, RowData.ofInstance]
  | createdAt =>
    simp [AttributeInstance.time?, FirstRows.timeIn, columnOf, RowData.column, RowData.ofInstance, and_comm]

/-- Whether a column stands in a relation to an instant is whether its time does. -/
lemma truth_compares (operator : Operator) (c : Column) (t : Instant) :
    (RowCondition.compares operator c t).truth table i = some true ↔
      ∃ s : Instant, FirstRows.timeIn c i = s ∧ meets operator (compare s t) = true := by
  rw [RowCondition.truth, Expression.eval, Expression.eval, column_ofInstance, FirstRows.timeIn]
  rcases (RowData.ofInstance [] i).column c with _ | d
  · simp [comparison]
  · cases d <;> simp [comparison, Datum.ofValue?, Value.ofInstant, Datum.compare?]

lemma truth_isKnown (property : TimeProperty) :
    (RowCondition.isKnown (columnOf property)).truth table i = some true ↔
      ∃ t : Instant, FirstRows.timeIn (columnOf property) i = t := by
  cases property with
  | observedAt =>
    cases h : i.observedAt <;>
      simp [RowCondition.truth, Expression.eval, columnOf, RowData.column, RowData.ofInstance, FirstRows.timeIn, h]
  | createdAt | modifiedAt =>
    simp [RowCondition.truth, Expression.eval, columnOf, RowData.column, RowData.ofInstance, FirstRows.timeIn]

/-- The conditions that a time query sets on its column are true where it accepts the time. -/
lemma truth_timeConditions (q : TimeQuery) :
    (∀ condition ∈ timeConditions (columnOf property) q, condition.truth table i = some true) ↔
      ∃ t : Instant, FirstRows.timeIn (columnOf property) i = t ∧ q.accepts t = true := by
  obtain ⟨bounds, timeProperty, inclusive⟩ := q
  cases bounds with
  | unbounded => simp [timeConditions, truth_isKnown, TimeQuery.accepts]
  | before bound =>
    simp only [timeConditions, List.forall_mem_singleton, truth_compares, meets_atMost, TimeQuery.accepts]
    cases inclusive <;> simp
  | after bound =>
    simp only [timeConditions, List.forall_mem_singleton, truth_compares, meets_atLeast, TimeQuery.accepts]
    cases inclusive <;> simp
  | between start stop =>
    simp only [timeConditions, List.forall_mem_cons, truth_compares, meets_atLeast, meets_atMost,
      TimeQuery.accepts]
    cases FirstRows.timeIn (columnOf property) i with
    | top => simp
    | coe t => cases inclusive <;> simp

/-- If only creations have a time, they alone meet the condition that is made of it. -/
lemma truth_isCreation (property : TimeProperty) :
    (∀ condition ∈ (if property = .createdAt then [RowCondition.isCreation] else []),
      condition.truth table i = some true) ↔ (property = .createdAt → i.mode = .create) := by
  split
  · simp [*, RowCondition.truth]
  · simp [*]

/-- All conditions of the statement are true on the instances that the log admits. -/
lemma truth_ofQuery (q : InstanceQuery) :
    (∀ condition ∈ (FirstRows.ofQuery q).conditions, condition.truth table i = some true) ↔
      Log.admits q i = true := by
  have hids : (∀ condition ∈ (if q.attributeIds = [] then [] else [RowCondition.isAmong q.attributeIds]),
      condition.truth table i = some true) ↔ q.attributeIds = [] ∨ i.attributeId ∈ q.attributeIds := by
    split
    · simp [*]
    · simp [*, RowCondition.truth]
  have hstart : ∀ t, meets .greaterOrEqual (compare t q.interval.start) = true ↔ q.interval.start ≤ t :=
    fun t => meets_atLeast true t q.interval.start
  have hstop : ∀ t, meets .lessOrEqual (compare t q.interval.stop) = true ↔ t ≤ q.interval.stop :=
    fun t => meets_atMost true t q.interval.stop
  have hentity : (RowCondition.isOf q.interval.entityId).truth table i = some true ↔
      q.interval.entityId = i.entityId := by simp [RowCondition.truth, eq_comm]
  simp only [FirstRows.ofQuery, instanceConditions, List.forall_mem_cons, List.forall_mem_append, hentity, hids,
    truth_isCreation, truth_compares, truth_timeConditions, hstart, hstop, Log.admits_iff, time?_eq_some_iff,
    EntityInterval.Spans]
  cases FirstRows.timeIn (columnOf q.time.property) i with
  | top => simp
  | coe t =>
    simp only [WithTop.coe_inj, exists_eq_left', and_assoc]
    tauto

/-- The rows that the statement picks are the instances that the log admits. -/
theorem kept_ofQuery (q : InstanceQuery) (table : List AttributeInstance) :
    (FirstRows.ofQuery q).kept table = table.filter (Log.admits q) := by
  refine List.filter_congr fun i _ => ?_
  rw [Bool.eq_iff_iff, decide_eq_true_eq, Truth.all_eq_some_true_iff, List.forall_mem_map]
  exact truth_ofQuery q

/-! ### Level elements -/

section Level

variable {α τ κ : Type} [LinearOrder τ] [LinearOrder κ] {time : α → τ} {id : α → κ} {l : List α} {a b : α}
  {n : Nat}

lemma id_le_of_time_eq (h : toLex (time a, id a) ≤ toLex (time b, id b)) (htime : time a = time b) :
    id a ≤ id b := by
  rcases Prod.Lex.toLex_le_toLex.1 h with hlt | ⟨-, hle⟩
  · exact absurd htime hlt.ne
  · exact hle

/-- A list in the descending order of times and identifiers begins like one in the descending order of times and
the ascending order of identifiers just when none of its first elements is level with another one. -/
lemma exists_take_eq_iff (h : l.Pairwise fun a b => toLex (time b, id b) ≤ toLex (time a, id a)) :
    (∃ l' : List α, l'.Perm l ∧
        (l'.Pairwise fun a b =>
          toLex (OrderDual.toDual (time a), id a) ≤ toLex (OrderDual.toDual (time b), id b)) ∧
        l.take n = l'.take n) ↔
      ∀ a ∈ l.take n, ∀ b ∈ l, time b = time a → id b = id a := by
  have hparts := h
  rw [← List.take_append_drop n l, List.pairwise_append] at hparts
  obtain ⟨hfirst, -, hacross⟩ := hparts
  constructor
  · rintro ⟨l', hperm, hsorted, htake⟩ a ha b hb htime
    rw [← List.take_append_drop n l', List.pairwise_append, ← htake] at hsorted
    obtain ⟨hfirst', -, hacross'⟩ := hsorted
    by_cases hmem : b ∈ l.take n
    · -- both orders hold between any two of the first elements
      have hboth : (l.take n).Pairwise fun a b => time b = time a → id b = id a := by
        refine (hfirst.and hfirst').imp fun {a b} hle htime => ?_
        have hdual : OrderDual.toDual (time a) = OrderDual.toDual (time b) := congrArg _ htime.symm
        exact le_antisymm (id_le_of_time_eq hle.1 htime) (id_le_of_time_eq hle.2 hdual)
      have hflip : (l.take n).Pairwise fun a b => time a = time b → id a = id b :=
        hboth.imp fun {a b} hlevel htime => (hlevel htime.symm).symm
      exact hboth.forall_of_forall_of_flip (fun _ _ _ => rfl) hflip ha hmem htime
    · have hdrop : b ∈ l.drop n := by
        rw [← List.take_append_drop n l, List.mem_append] at hb
        exact hb.resolve_left hmem
      have hdrop' : b ∈ l'.drop n := by
        have hb' : b ∈ l' := hperm.mem_iff.2 hb
        rw [← List.take_append_drop n l', List.mem_append, ← htake] at hb'
        exact hb'.resolve_left hmem
      have hdual : OrderDual.toDual (time a) = OrderDual.toDual (time b) := congrArg _ htime.symm
      exact le_antisymm (id_le_of_time_eq (hacross a ha b hdrop) htime)
        (id_le_of_time_eq (hacross' a ha b hdrop') hdual)
  · intro hlevel
    have hplace : ∀ a ∈ l.take n, ∀ b ∈ l, toLex (time b, id b) ≤ toLex (time a, id a) →
        toLex (OrderDual.toDual (time a), id a) ≤ toLex (OrderDual.toDual (time b), id b) := by
      intro a ha b hb hle
      rcases Prod.Lex.toLex_le_toLex.1 hle with hlt | ⟨htime, -⟩
      · exact Prod.Lex.toLex_le_toLex.2 (Or.inl hlt)
      · have hdual : OrderDual.toDual (time a) = OrderDual.toDual (time b) := congrArg _ htime.symm
        exact Prod.Lex.toLex_le_toLex.2 (Or.inr ⟨hdual, (hlevel a ha b hb htime).ge⟩)
    let before : α → α → Bool := fun a b =>
      toLex (OrderDual.toDual (time a), id a) ≤ toLex (OrderDual.toDual (time b), id b)
    have hrest := List.mergeSort_perm (l.drop n) before
    have hsorted : ((l.drop n).mergeSort before).Pairwise fun a b => before a b = true :=
      pairwise_mergeSort_of_key (fun a => toLex (OrderDual.toDual (time a), id a))
        (fun _ _ => decide_eq_true_iff) _
    refine ⟨l.take n ++ (l.drop n).mergeSort before, ?_, List.pairwise_append.2 ⟨?_, ?_, ?_⟩, ?_⟩
    · conv_rhs => rw [← List.take_append_drop n l]
      exact hrest.append_left _
    · exact hfirst.imp_of_mem fun {a b} ha hb hle => hplace a ha b (List.mem_of_mem_take hb) hle
    · exact hsorted.imp of_decide_eq_true
    · intro a ha b hb
      have hmem := hrest.mem_iff.1 hb
      exact hplace a ha b (List.mem_of_mem_drop hmem) (hacross a ha b hmem)
    · rcases Nat.le_total n l.length with hn | hn
      · rw [List.take_append_of_le_length (by rw [List.length_take]; omega), List.take_take, min_self]
      · -- there are no further elements
        rw [List.drop_eq_nil_of_le hn, List.mergeSort_nil, List.append_nil, List.take_take, min_self]

end Level

/-! ### Both answers -/

section Answers

variable {log : Log} {q : InstanceQuery} {name : String}

lemma filter_findInstances (log : Log) (q : InstanceQuery) (name : String) :
    ((log.findInstances q).filter fun i => i.attributeId = name) =
      (Log.ordered q (log.selected q name)).take q.limit := by
  rw [← Log.firstInstances_eq, ← Log.listAt_group_findInstances, Named.listAt_group]

lemma filter_kept_ofQuery (log : Log) (q : InstanceQuery) (name : String) :
    (((FirstRows.ofQuery q).kept log.instances).filter fun i => i.attributeId = name) = log.selected q name := by
  rw [kept_ofQuery, List.filter_filter, Log.selected]

/-- Admitted instances have times, which are in their columns. -/
lemma exists_time?_of_admits (h : Log.admits q i = true) : ∃ t, i.time? q.time.property = some t ∧
    FirstRows.timeIn (columnOf q.time.property) i = t := by
  obtain ⟨-, t, ht, -⟩ := Log.admits_iff.1 h
  exact ⟨t, ht, (time?_eq_some_iff.1 ht).1⟩

/-- Of admitted instances one is before another or level with it just as their columns are. -/
lemma isBefore_iff_of_admits (hi : Log.admits q i = true) (hj : Log.admits q j = true) :
    Log.isBefore q.time.property i j = true ↔
      toLex (FirstRows.timeIn (columnOf q.time.property) i, i.id) ≤
        toLex (FirstRows.timeIn (columnOf q.time.property) j, j.id) := by
  obtain ⟨s, hs, hs'⟩ := exists_time?_of_admits hi
  obtain ⟨t, ht, ht'⟩ := exists_time?_of_admits hj
  rw [Log.isBefore, hs, ht, hs', ht', Prod.Lex.toLex_le_toLex, WithTop.coe_lt_coe, WithTop.coe_inj]
  simp

lemma admits_of_mem_ordered (h : i ∈ Log.ordered q (log.selected q name)) : Log.admits q i = true :=
  (Log.mem_selected.1 ((Log.ordered_perm q _).mem_iff.1 h)).2.2

/-- In ascending order the log may answer like the statement. -/
lemma mayAnswer_of_ascending (log : Log) (horder : q.order = .ascending) :
    (FirstRows.ofQuery q).MayAnswer log.instances (log.findInstances q) := by
  have hascending : (FirstRows.ofQuery q).order = .ascending := horder
  rw [FirstRows.MayAnswer, hascending]
  refine isFirstRows_iff.2
    ⟨Log.pairwise_findInstances log q, fun name => ⟨_, ?_, ?_, filter_findInstances log q name⟩⟩
  · rw [filter_kept_ofQuery]
    exact Log.ordered_perm q _
  · have hsorted := Log.pairwise_ordered q (log.selected q name)
    simp only [horder] at hsorted
    refine hsorted.imp_of_mem fun hi hj hbefore => ?_
    exact (isBefore_iff_of_admits (admits_of_mem_ordered hi) (admits_of_mem_ordered hj)).1 hbefore

/-- No instance that the log answers with is level with another one of its attribute, unless both have one
identifier. -/
def HasNoLevel (log : Log) (q : InstanceQuery) : Prop :=
  ∀ i ∈ log.findInstances q, ∀ j ∈ log.instances, Log.admits q j = true → j.attributeId = i.attributeId →
    j.time? q.time.property = i.time? q.time.property → j.id = i.id

/-- In descending order the log may answer like the statement just when no instance of its answer is level with
another one. -/
lemma mayAnswer_iff_of_descending (log : Log) (horder : q.order = .descending) :
    (FirstRows.ofQuery q).MayAnswer log.instances (log.findInstances q) ↔ HasNoLevel log q := by
  have hdescending : (FirstRows.ofQuery q).order = .descending := horder
  have hsorted : ∀ name, (Log.ordered q (log.selected q name)).Pairwise fun i j =>
      toLex (FirstRows.timeIn (columnOf q.time.property) j, j.id) ≤
        toLex (FirstRows.timeIn (columnOf q.time.property) i, i.id) := by
    intro name
    have hsorted := Log.pairwise_ordered q (log.selected q name)
    simp only [horder] at hsorted
    refine hsorted.imp_of_mem fun hi hj hbefore => ?_
    exact (isBefore_iff_of_admits (admits_of_mem_ordered hj) (admits_of_mem_ordered hi)).1 hbefore
  have htime : ∀ {i j}, Log.admits q i = true → Log.admits q j = true →
      (FirstRows.timeIn (columnOf q.time.property) j = FirstRows.timeIn (columnOf q.time.property) i ↔
        j.time? q.time.property = i.time? q.time.property) := by
    intro i j hi hj
    obtain ⟨s, hs, hs'⟩ := exists_time?_of_admits hi
    obtain ⟨t, ht, ht'⟩ := exists_time?_of_admits hj
    rw [hs, ht, hs', ht', WithTop.coe_inj, Option.some.injEq]
  have hmem : ∀ {name i}, i ∈ (Log.ordered q (log.selected q name)).take q.limit ↔
      i ∈ log.findInstances q ∧ i.attributeId = name := by
    intro name i
    rw [← filter_findInstances, List.mem_filter, decide_eq_true_eq]
  rw [FirstRows.MayAnswer, hdescending]
  calc IsFirstRows (·.attributeId) _ q.limit ((FirstRows.ofQuery q).kept log.instances) (log.findInstances q)
      ↔ ∀ name, ∃ l : List AttributeInstance, l.Perm (Log.ordered q (log.selected q name)) ∧
          (l.Pairwise fun i j =>
            toLex (OrderDual.toDual (FirstRows.timeIn (columnOf q.time.property) i), i.id) ≤
              toLex (OrderDual.toDual (FirstRows.timeIn (columnOf q.time.property) j), j.id)) ∧
          (Log.ordered q (log.selected q name)).take q.limit = l.take q.limit := by
        rw [isFirstRows_iff, and_iff_right (Log.pairwise_findInstances log q)]
        refine forall_congr' fun name => exists_congr fun l => ?_
        rw [filter_kept_ofQuery, filter_findInstances, (Log.ordered_perm q _).congr_right]
        rfl
    _ ↔ ∀ name, ∀ i ∈ (Log.ordered q (log.selected q name)).take q.limit,
          ∀ j ∈ Log.ordered q (log.selected q name),
            FirstRows.timeIn (columnOf q.time.property) j = FirstRows.timeIn (columnOf q.time.property) i →
              j.id = i.id := forall_congr' fun name => exists_take_eq_iff (hsorted name)
    _ ↔ HasNoLevel log q := by
      constructor
      · intro h i hi j hj hadmits hname hlevel
        have hfirst := hmem.2 ⟨hi, rfl⟩
        have hadmits' := admits_of_mem_ordered (List.mem_of_mem_take hfirst)
        refine h i.attributeId i hfirst j ?_ ((htime hadmits' hadmits).2 hlevel)
        exact (Log.ordered_perm q _).mem_iff.2 (Log.mem_selected.2 ⟨hj, hname, hadmits⟩)
      · intro h name i hi j hj hlevel
        obtain ⟨hanswer, rfl⟩ := hmem.1 hi
        obtain ⟨hj', hname, hadmits⟩ := Log.mem_selected.1 ((Log.ordered_perm q _).mem_iff.1 hj)
        exact h i hanswer j hj' hadmits hname
          ((htime (admits_of_mem_ordered (List.mem_of_mem_take hi)) hadmits).1 hlevel)

/-- **Both answers.** The statement for the instances within an interval has an answer, and only one where no two
instances have one identifier. In ascending order the answer of the log is an answer to the statement. In
descending order it is one just when none of its instances is level with another. -/
theorem mayAnswer_findInstances_iff (log : Log) (q : InstanceQuery) :
    instancesStatement q = (FirstRows.ofQuery q).fragment.render ∧
      (∃ answer, (FirstRows.ofQuery q).MayAnswer log.instances answer) ∧
      ((log.instances.map (·.id)).Nodup → ∀ answer answer',
        (FirstRows.ofQuery q).MayAnswer log.instances answer →
          (FirstRows.ofQuery q).MayAnswer log.instances answer' → answer = answer') ∧
      ((FirstRows.ofQuery q).MayAnswer log.instances (log.findInstances q) ↔
        q.order = .ascending ∨ HasNoLevel log q) := by
  refine ⟨addsSame_instances q _, FirstRows.exists_mayAnswer _ _, fun hnodup answer answer' h h' => ?_, ?_⟩
  · have hid : ∀ i ∈ (FirstRows.ofQuery q).kept log.instances, ∀ j ∈ (FirstRows.ofQuery q).kept log.instances,
        i.id = j.id → i = j := fun i hi j hj =>
      List.inj_on_of_nodup_map hnodup (List.mem_of_mem_filter hi) (List.mem_of_mem_filter hj)
    exact h.unique hid h'
  · cases horder : q.order with
    | ascending => exact iff_of_true (mayAnswer_of_ascending log horder) (Or.inl rfl)
    | descending => exact (mayAnswer_iff_of_descending log horder).trans (by simp)

/-- A log with two observations of one time. -/
def levelPair : Log :=
  { records := [Log.creation "urn:a"], instances := [Log.observation "1" 1 7, Log.observation "2" 1 7] }

/-- The question for one observation. -/
def oneOf (order : SortOrder) : InstanceQuery where
  interval := ⟨"urn:a", .ofSecond 0, .ofSecond 5⟩
  time := Log.anyObservation
  attributeIds := []
  limit := 1
  order := order

theorem mayAnswer_findInstances_iff_levelPair :
    ∀ answer, (FirstRows.ofQuery (oneOf .ascending)).MayAnswer levelPair.instances answer →
      answer = levelPair.findInstances (oneOf .ascending) := by
  intro answer h
  obtain ⟨-, -, hunique, hiff⟩ := mayAnswer_findInstances_iff levelPair (oneOf .ascending)
  exact hunique (by decide) _ _ h (hiff.2 (Or.inl rfl))

/-- The log answers with the level observation that has the greater identifier. -/
lemma findInstances_levelPair : levelPair.findInstances (oneOf .descending) = [Log.observation "2" 1 7] := by
  have hgroup : Named.group (·.attributeId) (levelPair.instances.filter (Log.admits (oneOf .descending))) =
      [("t", levelPair.instances)] := rfl
  have hsorted : levelPair.instances.Pairwise fun i j => Log.isBefore .observedAt i j = true := by decide
  calc levelPair.findInstances (oneOf .descending)
      = Log.firstInstances (oneOf .descending) levelPair.instances := by
        rw [Log.findInstances, hgroup, List.flatMap_singleton]
    _ = (levelPair.instances.mergeSort (Log.isBefore .observedAt)).reverse.take 1 := rfl
    _ = [Log.observation "2" 1 7] := by
        rw [List.mergeSort_of_pairwise hsorted]
        rfl

/-- The last of two level observations is for the log the one with the greater identifier, and for the database
the other one. -/
theorem exists_not_mayAnswer_findInstances :
    levelPair.findInstances (oneOf .descending) = [Log.observation "2" 1 7] ∧
      (FirstRows.ofQuery (oneOf .descending)).MayAnswer levelPair.instances [Log.observation "1" 1 7] ∧
      ¬ (FirstRows.ofQuery (oneOf .descending)).MayAnswer levelPair.instances
        (levelPair.findInstances (oneOf .descending)) := by
  refine ⟨findInstances_levelPair, ?_, fun h => ?_⟩
  · have hkept : (FirstRows.ofQuery (oneOf .descending)).kept levelPair.instances = levelPair.instances :=
      kept_ofQuery _ _
    have hdescending : (FirstRows.ofQuery (oneOf .descending)).order = .descending := rfl
    rw [FirstRows.MayAnswer, hdescending, hkept]
    refine isFirstRows_iff.2 ⟨List.pairwise_singleton _ _, fun name => ⟨_, List.Perm.refl _, ?_, ?_⟩⟩
    · refine List.Pairwise.filter _ (List.pairwise_pair.2 (Prod.Lex.toLex_le_toLex.2 (Or.inr ⟨rfl, ?_⟩)))
      show "1" ≤ "2"
      decide
    · by_cases hname : "t" = name
      · subst hname
        rfl
      · simp [levelPair, Log.observation, hname]
  · have hlevel := (mayAnswer_iff_of_descending levelPair rfl).1 h
    rw [HasNoLevel, findInstances_levelPair] at hlevel
    have hid := hlevel _ (List.mem_singleton_self _) (Log.observation "1" 1 7) (by simp [levelPair]) rfl rfl rfl
    exact absurd hid (by decide)

end Answers

end EntityHistory.Sql
