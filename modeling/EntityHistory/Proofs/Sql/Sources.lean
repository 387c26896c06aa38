/-
The tables that relations read.

The text of a relation is scanned from its first character to its last, whatever the plan, the page or the window
is. Its parentheses match, and the names of tables in it are those of the relations that the relation is made from
and of stored tables. All that a query brings is a value, and so it stands nowhere in the text. A proof goes
through a text piece by piece and names the spot that each fixed piece leads to.

* `Relation.tables`: the tables that a relation reads, in the order of its text
* `scans_relation`: they are what a scan of its text finds
-/
import EntityHistory.Proofs.Sql.Placeholders
import EntityHistory.Proofs.Sql.Scanning

namespace EntityHistory.Sql

open Fragment (textFrom_append textFrom_text)

variable {row column expression : String} {names : List String}

lemma scans_comma : Scans ⟨.quiet, 0⟩ ", " ⟨.fresh, 0⟩ [] := scans_ofList rfl

/-! ### Columns -/

lemma isWord_instanceTable : IsWord instanceTable := isWord_ofList rfl

/-- A text that is the alias of a row. -/
def IsRow (row : String) : Prop := Scans ⟨.fresh, 0⟩ row ⟨.stem, 0⟩ []

/-- A text that is a column of a row, or made from columns, and reads no table. -/
def IsColumn (column : String) : Prop := Scans ⟨.fresh, 0⟩ column ⟨.quiet, 0⟩ []

lemma isRow_instance : IsRow "ai" := scans_ofList rfl

lemma isRow_subInstance : IsRow "s" := scans_ofList rfl

lemma IsRow.append {word : String} (hrow : IsRow row) (hword : IsWord word) : IsRow (row ++ word) :=
  hrow.andThen (hword.scans_stem 0)

/-- A column of a row. -/
lemma IsRow.isColumn (hrow : IsRow row) (hcolumn : IsWord column) : IsColumn (row ++ column) :=
  (hrow.append hcolumn).widen stem_within_quiet

lemma isColumn_timeColumn (hrow : IsRow row) (property : TimeProperty) : IsColumn (timeColumn row property) := by
  cases property <;> exact hrow.isColumn (isWord_ofList rfl)

lemma scans_temporalExpression (h : Scans ⟨.fresh, 0⟩ expression ⟨.quiet, 0⟩ names) (kind : ValueKind) :
    Scans ⟨.fresh, 0⟩ (temporalExpression expression kind) ⟨.quiet, 0⟩ names := by
  have hcast {cs : List Char} (hcs : fits ⟨.quiet, 1⟩ cs ⟨.quiet, 0⟩ [] = true) :
      Scans ⟨.fresh, 0⟩ ("(" ++ expression ++ String.ofList cs) ⟨.quiet, 0⟩ names := by
    rw [String.append_assoc]
    exact .literal ⟨.fresh, 1⟩ rfl <| (h.under 1).andLast (scans_ofList hcs)
  cases kind with
  | date | time => exact hcast rfl
  | _ => exact h

lemma isColumn_valueExpression (hrow : IsRow row) (kind : ValueKind) : IsColumn (valueExpression row kind) := by
  have hdateTime : IsColumn (row ++ ".value_datetime") := hrow.isColumn (isWord_ofList rfl)
  cases kind with
  | number | boolean | dateTime => exact hrow.isColumn (isWord_ofList rfl)
  | date => exact scans_temporalExpression hdateTime .date
  | time => exact scans_temporalExpression hdateTime .time
  | _ =>
    simp only [IsColumn, valueExpression, String.append_assoc]
    exact .literal ⟨.fresh, 1⟩ rfl <| (hrow.under 1).andThen <| .literal ⟨.fresh, 1⟩ rfl <|
      (hrow.under 1).andThen <| scans_ofList rfl

lemma scans_creationExpression (hrow : IsRow row) :
    Scans ⟨.fresh, 0⟩ (creationExpression row) ⟨.quiet, 0⟩ [instanceTable] := by
  unfold creationExpression
  simp only [String.append_assoc]
  exact .literal ⟨.awaiting, 1⟩ rfl <| .source isWord_instanceTable <| .literal ⟨.fresh, 1⟩ rfl <|
    (hrow.under 1).andThen <| .literal ⟨.fresh, 1⟩ rfl <| (hrow.under 1).andThen <| .literal ⟨.fresh, 1⟩ rfl <|
    (hrow.under 1).andThen <| scans_ofList rfl

/-! ### Conditions -/

lemma scans_timeCondition (hcolumn : IsColumn column) (q : TimeQuery) :
    Fragment.Scans ⟨.fresh, 0⟩ (timeCondition column q) ⟨.quiet, 0⟩ [] := by
  have hatLeast : Scans ⟨.quiet, 0⟩ (if q.inclusive then " >= " else " > ") ⟨.quiet, 0⟩ [] := by
    split <;> exact scans_ofList rfl
  have hatMost : Scans ⟨.quiet, 0⟩ (if q.inclusive then " <= " else " < ") ⟨.quiet, 0⟩ [] := by
    split <;> exact scans_ofList rfl
  intro n
  unfold timeCondition
  cases q.bounds with
  | before t =>
    simp only [textFrom_append, textFrom_text, String.append_assoc]
    exact hcolumn.andThen <| hatMost.andThen <| Fragment.scans_bind _ 0 _
  | after t =>
    simp only [textFrom_append, textFrom_text, String.append_assoc]
    exact hcolumn.andThen <| hatLeast.andThen <| Fragment.scans_bind _ 0 _
  | between start stop =>
    simp only [textFrom_append, textFrom_text, String.append_assoc]
    exact hcolumn.andThen <| hatLeast.andThen <| (Fragment.scans_bind _ 0 _).andThen <|
      .literal ⟨.fresh, 0⟩ rfl <| hcolumn.andThen <| hatMost.andThen <| Fragment.scans_bind _ 0 _
  | unbounded =>
    rw [textFrom_text]
    exact hcolumn.andThen (scans_ofList rfl)

lemma scans_memberPath (hrow : IsRow row) (keys : List String) :
    Fragment.Scans ⟨.fresh, 0⟩ (memberPath row keys) ⟨.quiet, 0⟩ [] := by
  have hkeys : Fragment.Scans ⟨.quiet, 0⟩ (keys.flatMap fun key => text " -> " ++ bind (.ofString key)) ⟨.quiet, 0⟩
      [] := by
    induction keys with
    | nil => exact fun _ => scans_empty _
    | cons key keys ih =>
      intro n
      rw [List.flatMap_cons, textFrom_append, textFrom_append, textFrom_text, String.append_assoc]
      exact .literal ⟨.quiet, 0⟩ rfl <| (Fragment.scans_bind _ 0 _).andThen (ih _)
  intro n
  rw [memberPath, textFrom_append, textFrom_text]
  exact (hrow.isColumn (isWord_ofList rfl)).andThen (hkeys _)

/-- The tables that an operand reads. -/
def Operand.tables : Operand → List String
  | .createdAt _ => [instanceTable]
  | _ => []

lemma scans_operand (hrow : IsRow row) (operand : Operand) :
    Fragment.Scans ⟨.fresh, 0⟩ (operand.fragment row) ⟨.quiet, 0⟩ operand.tables := by
  cases operand with
  | member keys kind =>
    have htype : Scans ⟨.quoted, 1⟩ (memberCast kind).1 ⟨.quoted, 1⟩ [] := by cases kind <;> exact scans_ofList rfl
    have hcast : Scans ⟨.quiet, 1⟩ (memberCast kind).2 ⟨.quiet, 1⟩ [] := by cases kind <;> exact scans_ofList rfl
    have hpath := (scans_memberPath hrow keys).under 2
    intro n
    simp only [Operand.fragment, Operand.tables, textFrom_append, textFrom_text, String.append_assoc]
    exact .literal ⟨.fresh, 2⟩ rfl <| (hpath _).andThen <| .literal ⟨.quoted, 1⟩ rfl <| htype.andThen <|
      .literal ⟨.fresh, 2⟩ rfl <| (hpath _).andThen <| .literal ⟨.quiet, 1⟩ rfl <| hcast.andThen <|
      scans_ofList rfl
  | value kind => exact Fragment.scans_text (isColumn_valueExpression hrow kind)
  | createdAt kind => exact Fragment.scans_text (scans_temporalExpression (scans_creationExpression hrow) kind)
  | observedAt kind | writtenAt kind =>
    exact Fragment.scans_text (scans_temporalExpression (hrow.isColumn (isWord_ofList rfl)) kind)
  | unitCode | datasetId => exact Fragment.scans_text (hrow.isColumn (isWord_ofList rfl))

/-- A value is tested without reading a table. -/
lemma scans_literal (value : QueryValue) : Fragment.Scans ⟨.fresh, 0⟩ (literal value) ⟨.quiet, 0⟩ [] := by
  have hbind (v : Value) : Fragment.Scans ⟨.fresh, 0⟩ (bind v) ⟨.quiet, 0⟩ [] :=
    (Fragment.scans_bind v 0).narrow fresh_within_quiet
  cases value with
  | text | number | boolean => exact hbind _
  | dateTime | date | time =>
    intro n
    rw [literal, textFrom_append, textFrom_text]
    exact (hbind _ _).andThen (scans_ofList rfl)
  | list | range => exact Fragment.scans_text (scans_ofList rfl)

lemma scans_test (test : Test) : Fragment.Scans ⟨.quiet, 0⟩ test.fragment ⟨.quiet, 0⟩ [] := by
  intro n
  cases test with
  | «matches» negated pattern =>
    have hsign : Scans ⟨.quiet, 0⟩ (if negated then " !~ " else " ~ ") ⟨.quiet, 0⟩ [] := by
      cases negated <;> exact scans_ofList rfl
    rw [Test.fragment, textFrom_append, textFrom_text]
    exact hsign.andThen (Fragment.scans_bind _ 0 _)
  | oneOf negated items =>
    have hsign : Scans ⟨.quiet, 0⟩ (if negated then " NOT IN (" else " IN (") ⟨.fresh, 1⟩ [] := by
      cases negated <;> exact scans_ofList rfl
    have hitems : Fragment.Scans ⟨.fresh, 0⟩ (Fragment.separated ", " (items.map literal)) ⟨.quiet, 0⟩ [] :=
      Fragment.scans_separated_nil scans_comma fun item _ => scans_literal item
    simp only [Test.fragment, textFrom_append, textFrom_text, String.append_assoc]
    exact hsign.andThen <| (hitems.under 1 _).andThen (scans_ofList rfl)
  | between negated low high =>
    have hsign : Scans ⟨.quiet, 0⟩ (if negated then " NOT BETWEEN " else " BETWEEN ") ⟨.fresh, 0⟩ [] := by
      cases negated <;> exact scans_ofList rfl
    simp only [Test.fragment, textFrom_append, textFrom_text, String.append_assoc]
    exact hsign.andThen <| (scans_literal low _).andThen <| .literal ⟨.fresh, 0⟩ rfl (scans_literal high _)
  | compares operator value =>
    have hsign : Scans ⟨.quiet, 0⟩ (operatorText operator) ⟨.fresh, 0⟩ [] := by
      cases operator <;> exact scans_ofList rfl
    rw [Test.fragment, textFrom_append, textFrom_text]
    exact hsign.andThen (scans_literal value _)

/-- The tables that a condition reads. -/
def Condition.tables (c : Condition) : List String :=
  match c.subAttribute with
  | none => c.operand.tables
  | some _ => subInstanceTable :: c.operand.tables

lemma scans_condition (hrow : IsRow row) (hclear : IsClearText row) (c : Condition) :
    Fragment.Scans ⟨.fresh, 0⟩ (c.fragment row) ⟨.quiet, 0⟩ c.tables := by
  have hoperand {row : String} (hrow : IsRow row) (hclear : IsClearText row) :
      Fragment.Scans ⟨.fresh, 0⟩ (c.operand.fragment row).respliced ⟨.quiet, 0⟩ c.operand.tables :=
    (scans_operand hrow c.operand).respliced (isClear_operand hclear c.operand)
  intro n
  unfold Condition.fragment Condition.tables
  cases c.subAttribute with
  | none =>
    dsimp only
    rw [textFrom_append]
    exact (hoperand hrow hclear _).andLast (scans_test c.test _)
  | some subAttribute =>
    simp only [textFrom_append, textFrom_text, String.append_assoc]
    exact .literal ⟨.awaiting, 1⟩ rfl <| .source (isWord_ofList rfl) <| .literal ⟨.fresh, 1⟩ rfl <|
      (hrow.under 1).andThen <| .literal ⟨.quiet, 1⟩ rfl <| (Fragment.scans_bind _ 1 _).andThen <|
      .literal ⟨.fresh, 1⟩ rfl <| ((hoperand isRow_subInstance (isClearText_ofList rfl)).under 1 _).andLast <|
      ((scans_test c.test).under 1 _).andThen <| scans_ofList rfl

lemma scans_geoCondition (hcolumn : IsColumn column) (g : GeoQuery) :
    Fragment.Scans ⟨.fresh, 0⟩ (geoCondition column g) ⟨.quiet, 0⟩ [] := by
  have htopological (relation : GeoRelation) : Fragment.Scans ⟨.fresh, 0⟩
      (text (geoFunction relation ++ "(" ++ column ++ ", ST_SetSRID(ST_GeomFromGeoJSON(") ++
        bind (.ofString g.geometry.text) ++ text "), 4326))") ⟨.quiet, 0⟩ [] := by
    have hfunction : Scans ⟨.fresh, 0⟩ (geoFunction relation) ⟨.quiet, 0⟩ [] := by
      cases relation <;> exact scans_ofList rfl
    intro n
    simp only [textFrom_append, textFrom_text, String.append_assoc]
    exact hfunction.andThen <| .literal ⟨.fresh, 1⟩ rfl <| (hcolumn.under 1).andThen <| .literal ⟨.quiet, 3⟩ rfl <|
      (Fragment.scans_bind _ 3 _).andThen <| scans_ofList rfl
  have hdistance (distance : Double) {negation : String} (hnegation : Scans ⟨.fresh, 0⟩ negation ⟨.fresh, 0⟩ []) :
      Fragment.Scans ⟨.fresh, 0⟩ (text (negation ++ "ST_DWithin(" ++ column ++
        "::geography, ST_SetSRID(ST_GeomFromGeoJSON(") ++ bind (.ofString g.geometry.text) ++
        text "), 4326)::geography, " ++ bind (.double (some distance)) ++ text ")") ⟨.quiet, 0⟩ [] := by
    intro n
    simp only [textFrom_append, textFrom_text, String.append_assoc]
    exact hnegation.andThen <| .literal ⟨.fresh, 1⟩ rfl <| (hcolumn.under 1).andThen <| .literal ⟨.quiet, 3⟩ rfl <|
      (Fragment.scans_bind _ 3 _).andThen <| .literal ⟨.quiet, 1⟩ rfl <| (Fragment.scans_bind _ 1 _).andThen <|
      scans_ofList rfl
  unfold geoCondition
  cases g.relation with
  | nearerThan most => exact hdistance most (scans_ofList rfl)
  | fartherThan least => exact hdistance least (scans_ofList rfl)
  | _ => exact htopological _

lemma isWord_column (kind : GeometryKind) : IsWord kind.column := by cases kind <;> exact isWord_ofList rfl

lemma scans_geoFragment (hrow : IsRow row) (g : GeoQuery) :
    Fragment.Scans ⟨.fresh, 0⟩ (geoFragment row g) ⟨.quiet, 0⟩ [] := by
  have hcolumn (kind : GeometryKind) : IsColumn (row ++ "." ++ kind.column) :=
    (hrow.append (isWord_ofList rfl)).isColumn (isWord_column kind)
  have hsome : Fragment.Scans ⟨.fresh, 0⟩ (Fragment.separated " OR "
      (GeometryKind.all.map fun kind => geoCondition (row ++ "." ++ kind.column) g)) ⟨.quiet, 0⟩ [] :=
    Fragment.scans_separated_nil (scans_ofList rfl) fun kind _ => scans_geoCondition (hcolumn kind) g
  intro n
  rw [geoFragment, textFrom_append, textFrom_append, textFrom_text, textFrom_text, String.append_assoc]
  exact .literal ⟨.fresh, 1⟩ rfl <| (hsome.under 1 _).andLast <| scans_ofList rfl

/-! ### Relations -/

/-- A leaf reads what its condition does. -/
def leafTables : PlanLeaf → List String
  | .comparison c => (Condition.ofComparison c).tables
  | .geo _ => []

/-- The tables that a relation reads, in the order of its text. -/
def Relation.tables : Relation → List String
  | .candidates _ => [recordTable]
  | .samples _ leaf => leafTables leaf ++ [instanceTable, RelationName.candidates.text]
  | .starts _ points => [points.text]
  | .timeline _ points first => [points.text, first.text, points.text, first.text]
  | .runs points => [points.text]
  | .both left right => [left.text, right.text]
  | .either left right => [left.text, right.text, left.text, right.text, right.text, left.text]
  | .nothing => [RelationName.candidates.text]
  | .copy root => [root.text]
  | .wholeWindow _ => [RelationName.candidates.text]
  | .ids => [RelationName.intervals.text]
  | .anchor _ => [RelationName.ids.text]

lemma scans_leafCondition (leaf : PlanLeaf) :
    Fragment.Scans ⟨.fresh, 0⟩ (leafCondition leaf) ⟨.quiet, 0⟩ (leafTables leaf) := by
  cases leaf with
  | comparison c => exact scans_condition isRow_instance (isClearText_ofList rfl) _
  | geo g => exact scans_geoFragment isRow_instance g

lemma scans_restriction {cs : List Char} (hcolumn : fits ⟨.fresh, 0⟩ cs ⟨.quiet, 0⟩ [] = true)
    (texts : List String) :
    Fragment.Scans ⟨.quiet, 0⟩ (restriction (String.ofList cs) texts) ⟨.quiet, 0⟩ [] := by
  intro n
  unfold restriction
  split
  · exact scans_empty _
  · have htexts : Fragment.Scans ⟨.fresh, 0⟩ (Fragment.bindList (texts.map .ofString)) ⟨.quiet, 0⟩ [] :=
      Fragment.scans_separated_nil scans_comma fun v _ => (Fragment.scans_bind v 0).narrow fresh_within_quiet
    simp only [textFrom_append, textFrom_text, String.append_assoc]
    exact .literal ⟨.fresh, 0⟩ rfl <| (scans_ofList hcolumn).andThen <| .literal ⟨.fresh, 1⟩ rfl <|
      (htexts.under 1 _).andThen <| scans_ofList rfl

lemma scans_onlyCreations (property : TimeProperty) :
    Fragment.Scans ⟨.quiet, 0⟩ (onlyCreations property) ⟨.quiet, 0⟩ [] := by
  unfold onlyCreations
  split
  · exact Fragment.scans_text (scans_ofList rfl)
  · exact fun _ => scans_empty _

/-- The name of a relation is a word. -/
lemma isWord_relationName (name : RelationName) : IsWord name.text := by
  have hnumbered (n : Nat) : IsWord ("n" ++ toString n) := by
    refine IsWord.append (isWord_ofList rfl) ?_
    rw [Nat.toString_eq_ofList_toDigits, String.toList_ofList]
    exact fun c hc => isWordChar_of_isDigit (Nat.isDigit_of_mem_toDigits (by decide) (by decide) hc)
  cases name with
  | node n => exact hnumbered n
  | samples n | starts n | timeline n => exact (hnumbered n).append (by simp [isWordChar])
  | candidates | intervals | ids | anchor => exact isWord_ofList rfl

lemma scans_windowRows (time : TimeQuery) (samples starts : RelationName) :
    Fragment.Scans ⟨.awaiting, 0⟩ (windowRows time samples starts) ⟨.quiet, 0⟩ [samples.text, starts.text] := by
  have htime := scans_timeCondition (scans_ofList rfl : IsColumn "t") time
  intro n
  simp only [windowRows, textFrom_append, textFrom_text, String.append_assoc]
  exact .literal ⟨.awaiting, 1⟩ rfl <| .source (isWord_relationName samples) <| .literal ⟨.fresh, 1⟩ rfl <|
    (htime.under 1 _).andThen <| .literal ⟨.awaiting, 1⟩ rfl <| .source (isWord_relationName starts) <|
    scans_ofList rfl

lemma scans_overlap : Scans ⟨.fresh, 0⟩ overlap ⟨.quiet, 0⟩ [] := scans_ofList rfl

lemma scans_candidates (filter : EntityFilter) :
    Fragment.Scans ⟨.fresh, 0⟩ (Relation.candidates filter).fragment ⟨.quiet, 0⟩ [recordTable] := by
  intro n
  simp only [Relation.fragment, textFrom_append, textFrom_text, String.append_assoc]
  refine .literal ⟨.fresh, 1⟩ rfl <| .literal ⟨.awaiting, 1⟩ rfl <| .source (isWord_ofList rfl) <|
    .literal ⟨.quiet, 0⟩ rfl <| (scans_restriction rfl filter.types _).andThen <|
    (scans_restriction rfl filter.ids _).andThen ?_
  cases filter.idPattern with
  | none => exact scans_empty _
  | some pattern =>
    dsimp only
    rw [textFrom_append, textFrom_text]
    exact .literal ⟨.quiet, 0⟩ rfl <| Fragment.scans_bind _ 0 _

lemma scans_samples (time : TimeQuery) (leaf : PlanLeaf) :
    Fragment.Scans ⟨.fresh, 0⟩ (Relation.samples time leaf).fragment ⟨.quiet, 0⟩
      (leafTables leaf ++ [instanceTable, RelationName.candidates.text]) := by
  have hcolumn := isColumn_timeColumn isRow_instance time.property
  have hwindow : Fragment.Scans ⟨.fresh, 0⟩ (if time.carriesState
      then text (timeColumn "ai" time.property ++ " IS NOT NULL")
      else timeCondition (timeColumn "ai" time.property) time) ⟨.quiet, 0⟩ [] := by
    split
    · exact Fragment.scans_text (hcolumn.andThen (scans_ofList rfl))
    · exact scans_timeCondition hcolumn time
  intro n
  simp only [Relation.fragment, textFrom_append, textFrom_text, String.append_assoc]
  exact .literal ⟨.fresh, 0⟩ rfl <| hcolumn.andThen <| .literal ⟨.fresh, 2⟩ rfl <|
    ((scans_leafCondition leaf).under 2 _).append <| .literal ⟨.awaiting, 0⟩ rfl <| .source isWord_instanceTable <|
    .andLast (b := ⟨.quiet, 0⟩) (scans_ofList rfl) <| (Fragment.scans_bind _ 0 _).andThen <|
    (scans_onlyCreations time.property _).andThen <| .literal ⟨.fresh, 0⟩ rfl <| hwindow _

lemma scans_timeline (time : TimeQuery) (points first : RelationName) :
    Fragment.Scans ⟨.fresh, 0⟩ (Relation.timeline time points first).fragment ⟨.quiet, 0⟩
      [points.text, first.text, points.text, first.text] := by
  have hrows := scans_windowRows time points first
  intro n
  simp only [Relation.fragment, textFrom_append, textFrom_text, String.append_assoc]
  exact .literal ⟨.awaiting, 0⟩ rfl <| (hrows _).append <| .literal ⟨.quiet, 1⟩ rfl <|
    (Fragment.scans_bind _ 1 _).andThen <| .literal ⟨.awaiting, 1⟩ rfl <| (hrows.under 1 _).andLast <|
    scans_ofList rfl

lemma scans_either (left right : RelationName) :
    Fragment.Scans ⟨.fresh, 0⟩ (Relation.either left right).fragment ⟨.quiet, 0⟩
      [left.text, right.text, left.text, right.text, right.text, left.text] := by
  have hleft := isWord_relationName left
  have hright := isWord_relationName right
  intro n
  simp only [Relation.fragment, textFrom_text, String.append_assoc]
  exact .literal ⟨.fresh, 0⟩ rfl <| .literal ⟨.awaiting, 0⟩ rfl <| .source hleft <| .literal ⟨.awaiting, 0⟩ rfl <|
    .source hright <| .literal ⟨.fresh, 0⟩ rfl <| scans_overlap.andThen <|
    .literal ⟨.awaiting, 0⟩ rfl <| .source hleft <| .literal ⟨.awaiting, 1⟩ rfl <| .source hright <|
    .literal ⟨.fresh, 1⟩ rfl <| (scans_overlap.under 1).andThen <|
    .literal ⟨.awaiting, 0⟩ rfl <| .source hright <| .literal ⟨.awaiting, 1⟩ rfl <| .source hleft <|
    .literal ⟨.fresh, 1⟩ rfl <| (scans_overlap.under 1).andThen <| scans_ofList rfl

/-- In the text of a relation the parentheses match, and the tables are those that the relation reads. -/
theorem scans_relation (r : Relation) : Fragment.Scans ⟨.fresh, 0⟩ r.fragment ⟨.quiet, 0⟩ r.tables := by
  cases r with
  | candidates filter => exact scans_candidates filter
  | samples time leaf => exact scans_samples time leaf
  | starts time points =>
    have htime := scans_timeCondition (scans_ofList rfl : IsColumn "r.t") time
    intro n
    simp only [Relation.fragment, Relation.tables, textFrom_append, textFrom_text, String.append_assoc]
    exact .literal ⟨.quiet, 0⟩ rfl <| (Fragment.scans_bind _ 0 _).andThen <| .literal ⟨.awaiting, 0⟩ rfl <|
      .source (isWord_relationName points) <| .literal ⟨.quiet, 0⟩ rfl <| (Fragment.scans_bind _ 0 _).andThen <|
      .literal ⟨.fresh, 1⟩ rfl <| (htime.under 1 _).andThen <| scans_ofList rfl
  | timeline time points first => exact scans_timeline time points first
  | runs points =>
    intro n
    simp only [Relation.fragment, Relation.tables, textFrom_text, String.append_assoc]
    exact .literal ⟨.fresh, 1⟩ rfl <| .literal ⟨.fresh, 2⟩ rfl <| .literal ⟨.awaiting, 1⟩ rfl <|
      .source (isWord_relationName points) <| scans_ofList rfl
  | both left right =>
    intro n
    simp only [Relation.fragment, Relation.tables, textFrom_text, String.append_assoc]
    exact .literal ⟨.fresh, 0⟩ rfl <| .literal ⟨.awaiting, 0⟩ rfl <| .source (isWord_relationName left) <|
      .literal ⟨.awaiting, 0⟩ rfl <| .source (isWord_relationName right) <| .literal ⟨.fresh, 0⟩ rfl scans_overlap
  | either left right => exact scans_either left right
  | nothing => exact Fragment.scans_text (scans_ofList rfl)
  | copy root =>
    intro n
    rw [Relation.fragment, textFrom_text]
    exact .literal ⟨.awaiting, 0⟩ rfl <| (isWord_relationName root).scans_awaiting 0
  | wholeWindow window =>
    intro n
    simp only [Relation.fragment, Relation.tables, textFrom_append, textFrom_text, String.append_assoc]
    exact .literal ⟨.quiet, 0⟩ rfl <| (Fragment.scans_bind _ 0 _).andThen <| .literal ⟨.quiet, 0⟩ rfl <|
      (Fragment.scans_bind _ 0 _).andThen <| scans_ofList rfl
  | ids =>
    intro n
    rw [Relation.fragment, textFrom_text]
    exact .literal ⟨.fresh, 1⟩ rfl <| scans_ofList rfl
  | anchor entityId =>
    intro n
    simp only [Relation.fragment, Relation.tables, textFrom_append, textFrom_text, String.append_assoc]
    exact .andLast (b := ⟨.quiet, 2⟩) (scans_ofList rfl) <| (Fragment.scans_bind _ 2 _).andThen <| scans_ofList rfl

/-! ### Statements -/

/-- What is written for a definition. -/
def Definition.fragment (d : Definition) : Fragment :=
  text (d.name.text ++ " AS (") ++ d.relation.fragment ++ text ")"

lemma scans_definition (d : Definition) :
    Fragment.Scans ⟨.fresh, 0⟩ d.fragment ⟨.quiet, 0⟩ d.relation.tables := by
  have hlower : (d.name.text.toList.headD ' ').isLower = true := by
    cases d.name <;> simp [RelationName.text]
  have hname : Scans ⟨.fresh, 0⟩ d.name.text ⟨.stem, 0⟩ [] := (isWord_relationName d.name).scans_fresh hlower 0
  intro n
  simp only [Definition.fragment, textFrom_append, textFrom_text, String.append_assoc]
  exact hname.andThen <| .literal ⟨.fresh, 1⟩ rfl <| ((scans_relation d.relation).under 1 _).andLast <|
    scans_ofList rfl

lemma scans_withFragment (definitions : List Definition) :
    Fragment.Scans ⟨.fresh, 0⟩ (withFragment definitions) ⟨.quiet, 0⟩
      (definitions.flatMap fun d => d.relation.tables) := by
  intro n
  rw [withFragment, textFrom_append, textFrom_text]
  exact .literal ⟨.fresh, 0⟩ rfl <| Fragment.scans_separated scans_comma (fun d _ => scans_definition d) _

lemma scans_selectIntervals_none : Fragment.Scans ⟨.quiet, 0⟩ (selectIntervals none) ⟨.quiet, 0⟩
    [RelationName.intervals.text] := Fragment.scans_text (scans_ofList rfl)

lemma scans_selectIntervals_some (page : PageRequest) :
    Fragment.Scans ⟨.quiet, 0⟩ (selectIntervals (some page)) ⟨.quiet, 0⟩
      ([RelationName.intervals.text, RelationName.ids.text] ++ [RelationName.anchor.text]) := by
  intro n
  simp only [selectIntervals, textFrom_append, textFrom_text, String.append_assoc]
  exact .append (b := ⟨.fresh, 0⟩) (scans_ofList rfl) <| .andLast (b := ⟨.quiet, 0⟩) (scans_ofList rfl) <|
    (Fragment.scans_bind _ 0 _).andThen <| scans_ofList rfl

lemma scans_selectNext (size : Nat) : Fragment.Scans ⟨.quiet, 0⟩ (selectNext size) ⟨.quiet, 0⟩
    [RelationName.ids.text, RelationName.anchor.text] := by
  intro n
  rw [selectNext, textFrom_append, textFrom_text]
  exact .andLast (b := ⟨.quiet, 0⟩) (scans_ofList rfl) <| Fragment.scans_bind _ 0 _

lemma scans_selectPrev (size : Nat) : Fragment.Scans ⟨.quiet, 0⟩ (selectPrev size) ⟨.quiet, 0⟩
    [RelationName.ids.text, RelationName.anchor.text] := by
  intro n
  simp only [selectPrev, textFrom_append, textFrom_text, String.append_assoc]
  exact .andLast (b := ⟨.fresh, 0⟩) (scans_ofList rfl) <| .literal ⟨.quiet, 1⟩ rfl <|
    (Fragment.scans_bind _ 1 _).andThen <| scans_ofList rfl

lemma scans_selectCount : Fragment.Scans ⟨.quiet, 0⟩ selectCount ⟨.quiet, 0⟩ [RelationName.ids.text] :=
  Fragment.scans_text (scans_ofList rfl)

end EntityHistory.Sql
