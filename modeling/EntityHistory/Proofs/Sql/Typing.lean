/-
The types of conditions.

A condition reads columns of an instance or a sub-instance, and a database accepts it only where both sides of
a comparison have one type. `Expression` and `Predicate` are the syntax of the conditions that are made, with
the types of columns, casts and JSON operators as the database has them, and a typed predicate compares an
operand with literals of its own type only. There is no null among the expressions, and no row of literals is
empty.

What the condition of an accepted comparison adds to a statement is a typed predicate: how literals are read
for a target, the check of the operator and the choice of column and cast fit together.

* `typed_operand`, `typed_literal`: the types of both sides
* `addsSame_condition`, `wellTyped_condition`: the condition of an accepted comparison
* `wellTyped_of_mem_leaves`: the conditions of a query that is read
-/
import EntityHistory.Proofs.Query.Accepted
import EntityHistory.Proofs.Query.Spelling
import EntityHistory.Proofs.Sql.Placeholders

namespace EntityHistory.Sql

/-! ### Expressions -/

/-- The types of columns and values. -/
inductive SqlType where
  | text
  | bigint
  | float8
  | boolean
  | timestamptz
  | timestamp
  | date
  | time
  | jsonb
deriving DecidableEq, Repr

namespace SqlType

/-- A cast to the type. -/
def castText : SqlType → String
  | .text => "::text"
  | .bigint => "::bigint"
  | .float8 => "::float8"
  | .boolean => "::boolean"
  | .timestamptz => "::timestamptz"
  | .timestamp => "::timestamp"
  | .date => "::date"
  | .time => "::time"
  | .jsonb => "::jsonb"

/-- Whether values of a type can be cast to another type, as far as conditions need it. -/
def castsTo : SqlType → SqlType → Bool
  | .timestamp, .date => true
  | .timestamp, .time => true
  | .text, .float8 => true
  | .text, .boolean => true
  | .jsonb, .text => true
  | s, t => s = t

/-- The type of the values of a parameter. -/
def ofValue : Value → SqlType
  | .string _ => .text
  | .bigint _ => .bigint
  | .double _ => .float8
  | .bool _ => .boolean
  | .timestamptz _ => .timestamptz
  | .date _ => .date
  | .time _ => .time
  | .json _ => .jsonb

/-- The type that values of a kind are compared in. Lists and ranges are compared by their elements. -/
def ofKind? : ValueKind → Option SqlType
  | .text => some .text
  | .number => some .float8
  | .boolean => some .boolean
  | .dateTime => some .timestamptz
  | .date => some .date
  | .time => some .time
  | .list => none
  | .range => none

end SqlType

/-- The tables whose rows conditions are about. -/
inductive RowTable where
  | instances
  | subInstances
deriving DecidableEq, Repr

/-- The name of a row in a condition. -/
def RowTable.alias : RowTable → String
  | .instances => "ai"
  | .subInstances => "s"

/-- The columns that conditions read; both tables have them. -/
inductive Column where
  | valueText
  | valueNumber
  | valueBoolean
  | valueDatetime
  | valueCompound
  | valueRelationship
  | observedAt
  | ts
  | unitCode
  | datasetId
deriving DecidableEq, Repr

namespace Column

def name : Column → String
  | .valueText => ".value_text"
  | .valueNumber => ".value_number"
  | .valueBoolean => ".value_boolean"
  | .valueDatetime => ".value_datetime"
  | .valueCompound => ".value_compound"
  | .valueRelationship => ".value_relationship"
  | .observedAt => ".observed_at"
  | .ts => ".ts"
  | .unitCode => ".unit_code"
  | .datasetId => ".dataset_id"

def type : Column → SqlType
  | .valueText => .text
  | .valueNumber => .float8
  | .valueBoolean => .boolean
  | .valueDatetime => .timestamptz
  | .valueCompound => .jsonb
  | .valueRelationship => .text
  | .observedAt => .timestamptz
  | .ts => .timestamptz
  | .unitCode => .text
  | .datasetId => .text

end Column

/-- An expression on a row. -/
inductive Expression where
  | column (c : Column)
  | parameter (v : Value)
  | cast (e : Expression) (type : SqlType)
  | enclosed (e : Expression)
  /-- A point in time as the date and time of day it has in UTC. -/
  | utc (e : Expression)
  | coalesce (e e' : Expression)
  /-- A member of a JSON object. -/
  | member (e : Expression) (key : String)
  /-- The text of a JSON string. -/
  | unquoted (e : Expression)
  /-- An expression where another one has a JSON type, and no value elsewhere. -/
  | whereJson (e : Expression) (jsonType : String) (result : Expression)
  /-- The last creation of the attribute up to the row. -/
  | lastCreation

namespace Expression

/-- The written form of an expression on a row. -/
def fragment (table : RowTable) : Expression → Fragment
  | .column c => text (table.alias ++ c.name)
  | .parameter v => bind v
  | .cast e type => e.fragment table ++ text type.castText
  | .enclosed e => text "(" ++ e.fragment table ++ text ")"
  | .utc e => text "(" ++ e.fragment table ++ text " AT TIME ZONE 'UTC')"
  | .coalesce e e' => text "COALESCE(" ++ e.fragment table ++ text ", " ++ e'.fragment table ++ text ")"
  | .member e key => e.fragment table ++ text " -> " ++ bind (.ofString key)
  | .unquoted e => e.fragment table ++ text " #>> '\x7b\x7d'"
  | .whereJson e jsonType result =>
    text "(CASE WHEN jsonb_typeof(" ++ e.fragment table ++ text ") = '" ++ text jsonType ++ text "' THEN " ++
      result.fragment table ++ text " END)"
  | .lastCreation => text (creationExpression table.alias)

/-- The type of an expression, if it has one. Only instances have the columns that creations are found by. -/
def type? (table : RowTable) : Expression → Option SqlType
  | .column c => some c.type
  | .parameter v => some (.ofValue v)
  | .cast e type => if (e.type? table).any fun t => t.castsTo type then some type else none
  | .enclosed e => e.type? table
  | .utc e => if e.type? table = some .timestamptz then some .timestamp else none
  | .coalesce e e' => if e.type? table = e'.type? table then e.type? table else none
  | .member e _ => if e.type? table = some .jsonb then some .jsonb else none
  | .unquoted e => if e.type? table = some .jsonb then some .text else none
  | .whereJson e _ result => if e.type? table = some .jsonb then result.type? table else none
  | .lastCreation => if table = .instances then some .timestamptz else none

end Expression

/-! ### Predicates -/

/-- A condition on a row. -/
inductive Predicate where
  | compares (operator : Operator) (operand literal : Expression)
  | matches (negated : Bool) (operand pattern : Expression)
  | oneOf (negated : Bool) (operand : Expression) (items : List Expression)
  | between (negated : Bool) (operand low high : Expression)
  /-- The condition holds of a sub-instance with a given attribute. -/
  | ofSubInstance (attributeId : String) (condition : Predicate)

namespace Predicate

/-- The written form of a condition on a row. -/
def fragment (table : RowTable) : Predicate → Fragment
  | .compares operator operand literal =>
    operand.fragment table ++ text (operatorText operator) ++ literal.fragment table
  | .matches negated operand pattern =>
    operand.fragment table ++ text (if negated then " !~ " else " ~ ") ++ pattern.fragment table
  | .oneOf negated operand items =>
    operand.fragment table ++ text (if negated then " NOT IN (" else " IN (") ++
      Fragment.separated ", " (items.map fun item => item.fragment table) ++ text ")"
  | .between negated operand low high =>
    operand.fragment table ++ text (if negated then " NOT BETWEEN " else " BETWEEN ") ++ low.fragment table ++
      text " AND " ++ high.fragment table
  | .ofSubInstance attributeId condition =>
    text ("EXISTS (SELECT 1 FROM " ++ subInstanceTable ++ " s WHERE s.parent_instance_id = " ++ table.alias ++
        ".instance_id AND s.attribute_id = ") ++
      bind (.ofString attributeId) ++ text " AND " ++ condition.fragment .subInstances ++ text ")"

/-- The types in which values are compared. -/
def comparedTypes : List SqlType := [.text, .float8, .boolean, .timestamptz, .date, .time]

/-- The operand has a type, and all literals have the same one. -/
def HaveOneType (table : RowTable) (operand : Expression) (literals : List Expression) : Prop :=
  ∃ t ∈ comparedTypes, operand.type? table = some t ∧ ∀ literal ∈ literals, literal.type? table = some t

/-- A condition that the database accepts: both sides of a comparison have one type, patterns are matched with
texts, and a row of literals is not empty. -/
def WellTyped (table : RowTable) : Predicate → Prop
  | .compares operator operand literal => operator.isPattern = false ∧ HaveOneType table operand [literal]
  | .matches _ operand pattern => operand.type? table = some .text ∧ pattern.type? table = some .text
  | .oneOf _ operand items => items ≠ [] ∧ HaveOneType table operand items
  | .between _ operand low high => HaveOneType table operand [low, high]
  | .ofSubInstance _ condition => table = .instances ∧ condition.WellTyped .subInstances

end Predicate

/-! ### Adding to statements -/

namespace Fragment

/-- Fragments that add the same to every statement. -/
def AddsSame (f g : Fragment) : Prop := ∀ s : Statement, s.continuedBy f = s.continuedBy g

lemma continuedBy_append (s : Statement) (f g : Fragment) :
    s.continuedBy (f ++ g) = (s.continuedBy f).continuedBy g := by
  simp [Statement.continuedBy, textFrom_append, values_append, String.append_assoc]

lemma continuedBy_text (s : Statement) (t : String) : s.continuedBy (text t) = ⟨s.sql ++ t, s.values⟩ := by
  simp [Statement.continuedBy]

namespace AddsSame

variable {f g h f' g' : Fragment}

lemma refl (f : Fragment) : AddsSame f f := fun _ => rfl

lemma trans (hfg : AddsSame f g) (hgh : AddsSame g h) : AddsSame f h := fun s => (hfg s).trans (hgh s)

lemma append (hf : AddsSame f f') (hg : AddsSame g g') : AddsSame (f ++ g) (f' ++ g') := by
  intro s
  rw [continuedBy_append, continuedBy_append, hf s, hg]

end AddsSame

end Fragment

open Fragment

/-! ### Operands -/

/-- A point in time as one of the kind that it is compared with. -/
def temporalForm (e : Expression) : ValueKind → Expression
  | .date => .cast (.utc e) .date
  | .time => .cast (.utc e) .time
  | _ => e

/-- The column of an attribute's value for each kind, as an expression. -/
def valueForm : ValueKind → Expression
  | .number => .column .valueNumber
  | .boolean => .column .valueBoolean
  | .dateTime => .column .valueDatetime
  | .date => temporalForm (.column .valueDatetime) .date
  | .time => temporalForm (.column .valueDatetime) .time
  | _ => .coalesce (.column .valueText) (.column .valueRelationship)

/-- A member of the compound value as JSON. -/
def pathForm (keys : List String) : Expression := keys.foldl .member (.column .valueCompound)

/-- A member of the compound value as a value of a kind. -/
def memberForm (keys : List String) : ValueKind → Expression
  | .number => .whereJson (pathForm keys) "number" (.cast (.cast (.enclosed (pathForm keys)) .text) .float8)
  | .boolean => .whereJson (pathForm keys) "boolean" (.cast (.cast (.enclosed (pathForm keys)) .text) .boolean)
  | _ => .whereJson (pathForm keys) "string" (.unquoted (.enclosed (pathForm keys)))

/-- An operand as an expression. -/
def Operand.form : Operand → Expression
  | .value kind => valueForm kind
  | .member keys kind => memberForm keys kind
  | .observedAt kind => temporalForm (.column .observedAt) kind
  | .writtenAt kind => temporalForm (.column .ts) kind
  | .createdAt kind => temporalForm .lastCreation kind
  | .unitCode => .column .unitCode
  | .datasetId => .column .datasetId

variable {table : RowTable}

lemma addsSame_column (c : Column) :
    AddsSame (text (table.alias ++ c.name)) ((Expression.column c).fragment table) := .refl _

lemma addsSame_lastCreation :
    AddsSame (text (creationExpression table.alias)) (Expression.lastCreation.fragment table) := .refl _

lemma addsSame_temporalForm {e : Expression} {expression : String}
    (he : AddsSame (text expression) (e.fragment table)) (kind : ValueKind) :
    AddsSame (text (temporalExpression expression kind)) ((temporalForm e kind).fragment table) := by
  have hcut (castText zoned : String) (h : zoned = " AT TIME ZONE 'UTC')" ++ castText) :
      AddsSame (text ("(" ++ expression ++ zoned))
        (text "(" ++ e.fragment table ++ text " AT TIME ZONE 'UTC')" ++ text castText) := by
    intro s
    simp only [h, continuedBy_append, ← he _, continuedBy_text, String.append_assoc]
  cases kind with
  | date => exact hcut _ _ rfl
  | time => exact hcut _ _ rfl
  | _ => exact he

lemma addsSame_foldl_member (keys : List String) {f : Fragment} {e : Expression}
    (he : AddsSame f (e.fragment table)) :
    AddsSame (f ++ keys.flatMap fun key => text " -> " ++ bind (.ofString key))
      ((keys.foldl .member e).fragment table) := by
  induction keys generalizing f e with
  | nil => simpa using he
  | cons key keys ih =>
    have hmember : AddsSame (f ++ (text " -> " ++ bind (.ofString key))) ((e.member key).fragment table) := by
      rw [← List.append_assoc]
      exact (he.append (.refl _)).append (.refl _)
    simpa [List.flatMap_cons] using ih hmember

lemma addsSame_pathForm (keys : List String) :
    AddsSame (memberPath table.alias keys) ((pathForm keys).fragment table) :=
  addsSame_foldl_member keys (.refl _)

lemma addsSame_valueForm (kind : ValueKind) :
    AddsSame (text (valueExpression table.alias kind)) ((valueForm kind).fragment table) := by
  have htext :
      AddsSame (text ("COALESCE(" ++ table.alias ++ ".value_text, " ++ table.alias ++ ".value_relationship)"))
        ((Expression.coalesce (.column .valueText) (.column .valueRelationship)).fragment table) := by
    have hfirst : ".value_text, " = ".value_text" ++ ", " := rfl
    have hsecond : ".value_relationship)" = ".value_relationship" ++ ")" := rfl
    intro s
    simp only [hfirst, hsecond, Expression.fragment, Column.name, continuedBy_append, continuedBy_text,
      String.append_assoc]
  cases kind with
  | number => exact addsSame_column .valueNumber
  | boolean => exact addsSame_column .valueBoolean
  | dateTime => exact addsSame_column .valueDatetime
  | date => exact addsSame_temporalForm (addsSame_column .valueDatetime) .date
  | time => exact addsSame_temporalForm (addsSame_column .valueDatetime) .time
  | _ => exact htext

lemma addsSame_memberForm (keys : List String) (kind : ValueKind) :
    AddsSame ((Operand.member keys kind).fragment table.alias) ((memberForm keys kind).fragment table) := by
  have hpath : AddsSame (memberPath table.alias keys) ((pathForm keys).fragment table) := addsSame_pathForm keys
  have hthen : "' THEN (" = "' THEN " ++ "(" := rfl
  have hcase (type made : String) {result : Expression}
      (hresult :
        AddsSame (text "(" ++ memberPath table.alias keys ++ text (")" ++ made)) (result.fragment table)) :
      AddsSame (text "(CASE WHEN jsonb_typeof(" ++ memberPath table.alias keys ++
          text (") = '" ++ type ++ "' THEN (") ++ memberPath table.alias keys ++ text (")" ++ made ++ " END)"))
        ((Expression.whereJson (pathForm keys) type result).fragment table) := by
    intro s
    simp only [hthen, Expression.fragment, continuedBy_append, ← hresult _, ← hpath _, continuedBy_text,
      String.append_assoc]
  have hcasts (made : String) (type : SqlType) (hmade : made = "::text" ++ type.castText) :
      AddsSame (text "(" ++ memberPath table.alias keys ++ text (")" ++ made))
        ((Expression.cast (.cast (.enclosed (pathForm keys)) .text) type).fragment table) := by
    intro s
    simp only [hmade, SqlType.castText, Expression.fragment, continuedBy_append, ← hpath _, continuedBy_text,
      String.append_assoc]
  have hstring : AddsSame (text "(" ++ memberPath table.alias keys ++ text (")" ++ " #>> '\x7b\x7d'"))
      ((Expression.unquoted (.enclosed (pathForm keys))).fragment table) := by
    intro s
    simp only [Expression.fragment, continuedBy_append, ← hpath _, continuedBy_text, String.append_assoc]
  cases kind with
  | number => exact hcase "number" "::text::float8" (hcasts _ .float8 rfl)
  | boolean => exact hcase "boolean" "::text::boolean" (hcasts _ .boolean rfl)
  | _ => exact hcase "string" " #>> '\x7b\x7d'" hstring

/-- The written form of an operand is that of its expression. -/
lemma addsSame_operand (operand : Operand) :
    AddsSame (operand.fragment table.alias) (operand.form.fragment table) := by
  cases operand with
  | value kind => exact addsSame_valueForm kind
  | member keys kind => exact addsSame_memberForm keys kind
  | observedAt kind => exact addsSame_temporalForm (addsSame_column .observedAt) kind
  | writtenAt kind => exact addsSame_temporalForm (addsSame_column .ts) kind
  | createdAt kind => exact addsSame_temporalForm addsSame_lastCreation kind
  | unitCode => exact addsSame_column .unitCode
  | datasetId => exact addsSame_column .datasetId

/-! ### Types of operands and literals -/

lemma type?_temporalForm {e : Expression} (he : e.type? table = some .timestamptz) {kind : ValueKind}
    (hkind : kind ∈ [.dateTime, .date, .time]) : (temporalForm e kind).type? table = SqlType.ofKind? kind := by
  simp only [List.mem_cons, List.not_mem_nil, or_false] at hkind
  rcases hkind with rfl | rfl | rfl <;>
    simp [temporalForm, Expression.type?, he, SqlType.castsTo, SqlType.ofKind?]

lemma type?_valueForm {kind : ValueKind} (hlist : kind ≠ .list) (hrange : kind ≠ .range) :
    (valueForm kind).type? table = SqlType.ofKind? kind := by
  have hdatetime (kind : ValueKind) (hkind : kind ∈ [.dateTime, .date, .time]) :
      (temporalForm (.column .valueDatetime) kind).type? table = SqlType.ofKind? kind :=
    type?_temporalForm rfl hkind
  cases kind with
  | list => exact absurd rfl hlist
  | range => exact absurd rfl hrange
  | date => exact hdatetime .date (by simp)
  | time => exact hdatetime .time (by simp)
  | _ => rfl

lemma type?_pathForm (keys : List String) : (pathForm keys).type? table = some .jsonb := by
  have hfold : ∀ (keys : List String) (e : Expression), e.type? table = some .jsonb →
      (keys.foldl .member e).type? table = some .jsonb := by
    intro keys
    induction keys with
    | nil => exact fun e he => he
    | cons key keys ih => exact fun e he => ih _ (by simp [Expression.type?, he])
  exact hfold keys _ rfl

lemma type?_memberForm (keys : List String) {kind : ValueKind} (hkind : kind ∈ [.text, .number, .boolean]) :
    (memberForm keys kind).type? table = SqlType.ofKind? kind := by
  simp only [List.mem_cons, List.not_mem_nil, or_false] at hkind
  rcases hkind with rfl | rfl | rfl <;>
    simp [memberForm, Expression.type?, type?_pathForm, SqlType.castsTo, SqlType.ofKind?]

/-- A literal as an expression. -/
def literalForm : QueryValue → Expression
  | .text s => .parameter (.ofString s)
  | .number d => .parameter (.double (some d))
  | .boolean b => .parameter (.bool (some b))
  | .dateTime t => .cast (.parameter (.ofInstant t)) .timestamptz
  | .date d => .cast (.parameter (.date (some d))) .date
  | .time t => .cast (.parameter (.time (some t))) .time
  | .list _ => .parameter (.string none)
  | .range _ _ => .parameter (.string none)

lemma fragment_literalForm {v : QueryValue} (hv : v.isScalar = true) :
    (literalForm v).fragment table = literal v := by
  cases v with
  | list | range => exact absurd hv Bool.false_ne_true
  | _ => rfl

lemma type?_literalForm {v : QueryValue} (hv : v.isScalar = true) :
    (literalForm v).type? table = SqlType.ofKind? v.kind := by
  cases v with
  | list | range => exact absurd hv Bool.false_ne_true
  | _ => rfl

lemma literal_ne_null {v : QueryValue} (hv : v.isScalar = true) : literal v ≠ text "NULL" := by
  cases v with
  | list | range => exact absurd hv Bool.false_ne_true
  | _ => simp [literal, text, bind]

/-! ### Conditions -/

variable {c : Comparison}

lemma exists_ofKind?_eq {kind : ValueKind} (hlist : kind ≠ .list) (hrange : kind ≠ .range) :
    ∃ t ∈ Predicate.comparedTypes, SqlType.ofKind? kind = some t := by
  cases kind with
  | list => exact absurd rfl hlist
  | range => exact absurd rfl hrange
  | _ => exact ⟨_, by simp [Predicate.comparedTypes], rfl⟩

section Engine

variable [PatternEngine]

/-- Elements are neither lists nor ranges. -/
lemma elementKind_ne (h : c.Accepted) : c.value.elementKind ≠ .list ∧ c.value.elementKind ≠ .range :=
  h.elementKind_of_forall (P := fun kind => kind ≠ .list ∧ kind ≠ .range) fun v hv => by
    simpa [QueryValue.isScalar] using h.scalars v hv

/-- The operand of an accepted comparison has the type of the elements that it is compared with. -/
theorem typed_operand (h : c.Accepted) (htable : c.subAttribute = none → table = .instances) :
    (Operand.ofComparison c).form.type? table = SqlType.ofKind? c.value.elementKind := by
  obtain ⟨hlist, hrange⟩ := elementKind_ne h
  have htemporal (ht : c.target.isTemporal = true) : c.value.elementKind = .dateTime :=
    h.elementKind_of_forall (P := (· = .dateTime)) (h.temporal ht)
  have hfield (ht : c.target = .unitCode ∨ c.target = .datasetId) : c.value.elementKind = .text :=
    h.elementKind_of_forall (P := (· = .text)) (h.field ht)
  unfold Operand.ofComparison
  cases htarget : c.target with
  | value => exact type?_valueForm hlist hrange
  | compoundKey keys =>
    have hkind := h.elementKind_of_forall (P := (· ∈ [.text, .number, .boolean])) (h.compound keys htarget)
    exact type?_memberForm keys hkind
  | observedAt | modifiedAt =>
    rw [htemporal (by rw [htarget]; rfl)]
    rfl
  | createdAt =>
    rw [htemporal (by rw [htarget]; rfl)]
    cases hsub : c.subAttribute with
    | none => simp [htable hsub, Operand.form, temporalForm, Expression.type?, SqlType.ofKind?]
    | some subAttribute => rfl
  | unitCode | datasetId =>
    rw [hfield (by simp [htarget])]
    rfl

/-- The literals of an accepted comparison have the type of its elements. -/
theorem typed_literal (h : c.Accepted) {v : QueryValue} (hv : v ∈ c.value.elements) :
    (literalForm v).type? table = SqlType.ofKind? c.value.elementKind := by
  rw [type?_literalForm (h.scalars v hv), h.kinds v hv]

lemma isPattern_eq_false (h : c.Accepted) (hne : ∀ s, c.value ≠ .text s) : c.operator.isPattern = false := by
  by_contra hpattern
  obtain ⟨s, hs, -⟩ := h.pattern (by simpa using hpattern)
  exact hne s hs

end Engine

/-- The values that a test compares with. -/
def Test.values : Test → List QueryValue
  | .matches _ pattern => [.text pattern]
  | .oneOf _ items => items
  | .between _ low high => [low, high]
  | .compares _ value => [value]

/-- A test compares with the elements of the value. -/
lemma values_ofComparison (c : Comparison) : (Test.ofComparison c).values = c.value.elements := by
  unfold Test.ofComparison
  cases c.value <;> cases c.operator.isPattern <;> rfl

/-- A test of an expression as a predicate. -/
def Test.form (operand : Expression) : Test → Predicate
  | .matches negated pattern => .matches negated operand (.parameter (.ofString pattern))
  | .oneOf negated items => .oneOf negated operand (items.map literalForm)
  | .between negated low high => .between negated operand (literalForm low) (literalForm high)
  | .compares operator value => .compares operator operand (literalForm value)

/-- A condition as a predicate. -/
def Condition.form (c : Condition) : Predicate :=
  match c.subAttribute with
  | none => c.test.form c.operand.form
  | some subAttribute => .ofSubInstance subAttribute (c.test.form c.operand.form)

/-- Where a test compares with scalars, its written form after an operand is that of its predicate. -/
lemma fragment_form {test : Test} (hscalars : ∀ v ∈ test.values, v.isScalar = true) (operand : Expression) :
    operand.fragment table ++ test.fragment = (test.form operand).fragment table := by
  have hform {v : QueryValue} (hv : v ∈ test.values) : (literalForm v).fragment table = literal v :=
    fragment_literalForm (hscalars v hv)
  rcases test with ⟨negated, pattern⟩ | ⟨negated, items⟩ | ⟨negated, low, high⟩ | ⟨operator, value⟩
  · simp [Test.form, Test.fragment, Predicate.fragment, Expression.fragment]
  · have hfragments : items.map literal = (items.map literalForm).map fun item => item.fragment table := by
      rw [List.map_map]
      exact List.map_congr_left fun v hv => (hform hv).symm
    simp [Test.form, Test.fragment, Predicate.fragment, hfragments]
  · have hlow : (literalForm low).fragment table = literal low := hform (by simp [Test.values])
    have hhigh : (literalForm high).fragment table = literal high := hform (by simp [Test.values])
    simp [Test.form, Test.fragment, Predicate.fragment, hlow, hhigh]
  · have hvalue : (literalForm value).fragment table = literal value := hform (by simp [Test.values])
    simp [Test.form, Test.fragment, Predicate.fragment, hvalue]

section Engine

variable [PatternEngine]

/-- An operand of the type of the elements and the test of an accepted comparison are a typed predicate. -/
lemma wellTyped_form (h : c.Accepted) {operand : Expression}
    (hoperand : operand.type? table = SqlType.ofKind? c.value.elementKind) :
    ((Test.ofComparison c).form operand).WellTyped table := by
  obtain ⟨hlist, hrange⟩ := elementKind_ne h
  obtain ⟨t, ht, hkind⟩ := exists_ofKind?_eq hlist hrange
  rw [hkind] at hoperand
  have hliteral {v : QueryValue} (hv : v ∈ c.value.elements) : (literalForm v).type? table = some t :=
    (typed_literal h hv).trans hkind
  have hcompares (hpattern : c.operator.isPattern = false) (hscalar : c.value.elements = [c.value])
      (htest : Test.ofComparison c = .compares c.operator c.value) :
      ((Test.ofComparison c).form operand).WellTyped table := by
    have hmem : c.value ∈ c.value.elements := by simp [hscalar]
    rw [htest]
    exact ⟨hpattern, t, ht, hoperand, by simpa using hliteral hmem⟩
  cases hvalue : c.value with
  | text s =>
    cases hpattern : c.operator.isPattern with
    | true =>
      have htext : t = .text := by
        simpa [hvalue, QueryValue.elementKind, QueryValue.kind, SqlType.ofKind?] using hkind.symm
      have htest : Test.ofComparison c = .matches c.operator.isNegated s := by
        simp [Test.ofComparison, hvalue, hpattern]
      rw [htest]
      exact ⟨htext ▸ hoperand, rfl⟩
    | false => exact hcompares hpattern (by rw [hvalue]; rfl) (by simp [Test.ofComparison, hvalue, hpattern])
  | list items =>
    have hne : items ≠ [] := fun hnil => h.nonempty (hnil ▸ hvalue)
    have hitems : ∀ v ∈ items, v ∈ c.value.elements := by simp [hvalue, QueryValue.elements]
    have htest : Test.ofComparison c = .oneOf c.operator.isNegated items := by
      simp [Test.ofComparison, hvalue]
    rw [htest]
    exact ⟨by simpa using hne, t, ht, hoperand, by simpa using fun v hv => hliteral (hitems v hv)⟩
  | range low high =>
    have hlow : low ∈ c.value.elements := by simp [hvalue, QueryValue.elements]
    have hhigh : high ∈ c.value.elements := by simp [hvalue, QueryValue.elements]
    have htest : Test.ofComparison c = .between c.operator.isNegated low high := by
      simp [Test.ofComparison, hvalue]
    rw [htest]
    exact ⟨t, ht, hoperand, by simp [hliteral hlow, hliteral hhigh]⟩
  | _ =>
    exact hcompares (isPattern_eq_false h (by simp [hvalue])) (by rw [hvalue]; rfl)
      (by simp [Test.ofComparison, hvalue])

/-- The condition of an accepted comparison is written as its predicate. -/
theorem addsSame_condition (h : c.Accepted) :
    AddsSame ((Condition.ofComparison c).fragment "ai") ((Condition.ofComparison c).form.fragment .instances) := by
  have hrow (table : RowTable) : IsClearText table.alias := by cases table <;> exact isClearText_ofList rfl
  have hscalars : ∀ v ∈ (Test.ofComparison c).values, v.isScalar = true := by
    rw [values_ofComparison]
    exact h.scalars
  -- the operand is made by itself first, and its written form is that of an expression
  have htested (table : RowTable) :
      AddsSame (((Operand.ofComparison c).fragment table.alias).respliced ++ (Test.ofComparison c).fragment)
        (((Test.ofComparison c).form (Operand.ofComparison c).form).fragment table) := by
    have hclear := isClear_operand (hrow table) (Operand.ofComparison c)
    rw [← fragment_form hscalars]
    exact (AddsSame.trans hclear.continuedBy_respliced (addsSame_operand _)).append (.refl _)
  cases hsub : c.subAttribute with
  | none =>
    simp only [Condition.ofComparison, Condition.fragment, Condition.form, hsub]
    exact htested .instances
  | some subAttribute =>
    simp only [Condition.ofComparison, Condition.fragment, Condition.form, hsub, Predicate.fragment]
    rw [List.append_assoc _ (respliced _)]
    exact ((AddsSame.refl _).append (htested .subInstances)).append (.refl _)

/-- The predicate of an accepted comparison is typed. -/
theorem wellTyped_condition (h : c.Accepted) : (Condition.ofComparison c).form.WellTyped .instances := by
  cases hsub : c.subAttribute with
  | none =>
    simp only [Condition.form, Condition.ofComparison, hsub]
    exact wellTyped_form h (typed_operand h fun _ => rfl)
  | some subAttribute =>
    simp only [Condition.form, Condition.ofComparison, hsub]
    exact ⟨rfl, wellTyped_form h (typed_operand h fun hnone => absurd hnone (by simp [hsub]))⟩

/-- **Queries that are read have conditions of one type.** Every comparison of a query that is read keeps to the
rules of the reader. Its condition is written as its predicate, in which the operand has the type of every literal
that it is compared with, and none of these literals is null. -/
theorem wellTyped_of_mem_leaves {context : Context} {q : String} {term : QueryTerm}
    (h : QueryTerm.ofText context q = .ok term) :
    ∀ c ∈ term.leaves, c.Accepted ∧
      (Condition.ofComparison c).form.WellTyped .instances ∧
      (∀ s : Statement, s.continuedBy ((Condition.ofComparison c).fragment "ai") =
        s.continuedBy ((Condition.ofComparison c).form.fragment .instances)) ∧
      ∀ v ∈ (Test.ofComparison c).values, literal v ≠ text "NULL" := by
  intro c hc
  have haccepted := QueryTerm.accepted_of_mem_leaves h c hc
  refine ⟨haccepted, wellTyped_condition haccepted, addsSame_condition haccepted, fun v hv => ?_⟩
  rw [values_ofComparison] at hv
  exact literal_ne_null (haccepted.scalars v hv)

end Engine

theorem wellTyped_of_mem_leaves_misleading :
    let c : Comparison :=
      { attributeId := "urn:p", subAttribute := some "urn:q", target := .compoundKey ["k=1", "é"],
        operator := .notEqual, value := .list [.text "\\", .text "\",\"..", .text "é;|)]"] }
    QueryTerm.ofText { terms := [("p", "urn:p"), ("q", "urn:q")] }
        (String.ofList QueryTerm.Spelling.misleading.chars) = .ok (.comparison c) ∧
      c.Accepted ∧
      (Condition.ofComparison c).form.WellTyped .instances ∧
      ∀ s : Statement, s.continuedBy ((Condition.ofComparison c).fragment "ai") =
        s.continuedBy ((Condition.ofComparison c).form.fragment .instances) := by
  intro c
  have hread : QueryTerm.ofText { terms := [("p", "urn:p"), ("q", "urn:q")] }
      (String.ofList QueryTerm.Spelling.misleading.chars) = .ok (.comparison c) := by
    rw [QueryTerm.ofText, String.toList_ofList]
    exact QueryTerm.Spelling.misleading.read_chars rfl rfl
  obtain ⟨haccepted, htyped, hwritten, -⟩ := wellTyped_of_mem_leaves hread c (by simp [QueryTerm.leaves])
  exact ⟨hread, haccepted, htyped, hwritten⟩

end EntityHistory.Sql
