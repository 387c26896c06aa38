/-
Literals as they are written.

A literal is a text in quotes, a list of such texts in square brackets, a range between two of them, or a truth
value. Its written form is read as its value wherever it makes sense: texts for every target but times, and
truth values not for the unit and the data set, which are texts.

* `Literal.ofLiteral_chars`: a written literal is read as its value;
* `Literal.check_value`: operators that fit a literal pass the check for it.
-/
import Mathlib.Data.List.Forall2
import Mathlib.Tactic.Lemma
import EntityHistory.Proofs.Query.Reading
import EntityHistory.Proofs.Text.Pieces
import EntityHistory.Proofs.Text.Quoted

namespace EntityHistory

open Text (isBlank joinWith quote trim)

/-- The value of a comparison, made of texts or a truth value. -/
inductive Literal where
  | text (s : String)
  | list (first : String) (rest : List String)
  | range (low high : String)
  | boolean (b : Bool)

namespace Literal

/-- A text in quotes. -/
def quoted (s : String) : List Char := quote s.toList

/-- The written form of a literal. -/
def chars : Literal → List Char
  | .text s => quoted s
  | .list first rest => '[' :: (joinWith [','] ((first :: rest).map quoted) ++ [']'])
  | .range low high => quoted low ++ '.' :: '.' :: quoted high
  | .boolean true => "true".toList
  | .boolean false => "false".toList

/-- The value of a literal. -/
def value : Literal → QueryValue
  | .text s => .text s
  | .list first rest => .list ((first :: rest).map .text)
  | .range low high => .range (.text low) (.text high)
  | .boolean b => .boolean b

/-- Whether an operator can compare a target with a literal: texts are also ordered, and truth values are not
compared with the unit and the data set. -/
def Fits (operator : Operator) (target : ValueTarget) : Literal → Prop
  | .text _ => operator.isPattern = false
  | .list _ _ => operator.isEquality = true
  | .range _ _ => operator.isEquality = true
  | .boolean _ => operator.isEquality = true ∧ target ≠ .unitCode ∧ target ≠ .datasetId

variable {operator : Operator} {target : ValueTarget} {literal : Literal}

lemma isPattern_of_isEquality (h : operator.isEquality = true) : operator.isPattern = false := by
  revert h
  cases operator <;> decide

lemma Fits.isPattern_eq_false (h : literal.Fits operator target) : operator.isPattern = false := by
  cases literal with
  | text s => exact h
  | list first rest => exact isPattern_of_isEquality h
  | range low high => exact isPattern_of_isEquality h
  | boolean b => exact isPattern_of_isEquality h.1

/-! ### The written form -/

/-- A written literal stands between two characters that are no blanks, and the first of them does not go on
with the symbol of an operator. -/
lemma exists_chars_eq (literal : Literal) : ∃ c inner d,
    literal.chars = c :: (inner ++ [d]) ∧ isBlank c = false ∧ c ≠ '=' ∧ isBlank d = false := by
  cases literal with
  | text s => exact ⟨'"', Text.escape s.toList, '"', rfl, rfl, by decide, rfl⟩
  | list first rest => exact ⟨'[', _, ']', rfl, rfl, by decide, rfl⟩
  | range low high =>
    refine ⟨'"', Text.escape low.toList ++ '"' :: '.' :: '.' :: '"' :: Text.escape high.toList, '"', ?_, rfl,
      by decide, rfl⟩
    simp [chars, quoted, quote]
  | boolean b =>
    cases b with
    | false => exact ⟨'f', "als".toList, 'e', rfl, rfl, by decide, rfl⟩
    | true => exact ⟨'t', "ru".toList, 'e', rfl, rfl, by decide, rfl⟩

/-- A written literal is not changed by trimming. -/
lemma trim_chars (literal : Literal) : trim literal.chars = literal.chars := by
  obtain ⟨c, inner, d, hchars, hc, -, hd⟩ := literal.exists_chars_eq
  rw [hchars, Text.trim_between_marks hc hd]

/-- A written literal keeps its parentheses and connectors in quotes. -/
lemma whole_chars (literal : Literal) : QueryTerm.Whole literal.chars := by
  have hquoted : ∀ s, QueryTerm.Whole (quoted s) := fun s => QueryTerm.whole_quote s.toList
  cases literal with
  | text s => exact hquoted s
  | list first rest =>
    have hopening : QueryTerm.Whole ['['] := rfl
    have hclosing : QueryTerm.Whole [']'] := rfl
    have hitems : ∀ item ∈ (first :: rest).map quoted, QueryTerm.Whole item := by
      intro item hitem
      obtain ⟨s, -, rfl⟩ := List.mem_map.1 hitem
      exact hquoted s
    have hcomma : QueryTerm.Whole [','] := rfl
    exact hopening.append ((QueryTerm.whole_joinWith hcomma hitems).append hclosing)
  | range low high =>
    have hdots : QueryTerm.Whole ['.', '.'] := rfl
    exact (hquoted low).append (hdots.append (hquoted high))
  | boolean b => cases b <;> rfl

/-! ### Reading -/

/-- What is told by its form: the value and the members of a compound value. -/
lemma scalar_eq_scalarByForm (htarget : target.isTemporal = false) (hunit : target ≠ .unitCode)
    (hdataset : target ≠ .datasetId) (cs : List Char) :
    QueryValue.scalar target cs = QueryValue.scalarByForm cs := by
  cases target with
  | value => rfl
  | compoundKey keys => rfl
  | unitCode => exact absurd rfl hunit
  | datasetId => exact absurd rfl hdataset
  | observedAt | createdAt | modifiedAt => cases htarget

/-- A text in quotes is read as the text, whatever it holds. -/
lemma scalar_quoted (htarget : target.isTemporal = false) (s : String) :
    QueryValue.scalar target (quoted s) = some (.text s) := by
  have hunquote : Text.unquote (quoted s) = some s.toList := Text.unquote_quote s.toList
  have hquoted : Text.isQuoted (quoted s) = true := Text.isQuoted_quote s.toList
  have hform : QueryValue.scalarByForm (quoted s) = some (.text s) := by
    rw [QueryValue.scalarByForm, if_pos hquoted, hunquote, Option.map_some, String.ofList_toList]
  have htext : QueryValue.scalarText (quoted s) = some (.text s) := by
    rw [QueryValue.scalarText, if_pos hquoted, hunquote, Option.map_some, String.ofList_toList]
  cases target with
  | value => exact hform
  | compoundKey keys => exact hform
  | unitCode | datasetId => exact htext
  | observedAt | createdAt | modifiedAt => cases htarget

lemma scalars_quoted (htarget : target.isTemporal = false) (raw : List Char) (texts : List String) :
    QueryValue.scalars target raw (texts.map quoted) = .ok (texts.map .text) := by
  refine mapM_eq_ok_of_forall₂ ?_
  rw [List.forall₂_map_left_iff, List.forall₂_map_right_iff, List.forall₂_same]
  intro s _
  rw [show trim (quoted s) = quoted s from trim_chars (.text s), scalar_quoted htarget]
  rfl

/-- A text that is no list is read as the value of its parts. -/
lemma ofLiteral_of_bracketed_eq_none {cs : List Char} {parts : List (List Char)} {v : QueryValue}
    (htrim : trim cs = cs) (hne : cs ≠ []) (hbracketed : QueryValue.bracketed cs = none)
    (hcut : Text.cutOutside "..".toList cs = some parts) (hparts : QueryValue.ofParts target cs parts = .ok v) :
    QueryValue.ofLiteral target cs = .ok v := by
  rw [QueryValue.ofLiteral]
  simp only [htrim, hne, if_false, hbracketed, hcut, hparts]
  rfl

/-- A text in square brackets is read as the list of its items. -/
lemma ofLiteral_of_bracketed_eq_some {cs inner : List Char} {items : List (List Char)}
    {values : List QueryValue} {v : QueryValue} (htrim : trim cs = cs) (hne : cs ≠ [])
    (hbracketed : QueryValue.bracketed cs = some inner)
    (hcut : Text.cutOutside ",".toList inner = some items)
    (hscalars : QueryValue.scalars target cs items = .ok values) (hlist : QueryValue.listOf cs values = .ok v) :
    QueryValue.ofLiteral target cs = .ok v := by
  have hlist' : (QueryValue.listOf cs values : Outcome QueryValue) = .ok v := by
    rw [hlist]
    rfl
  rw [QueryValue.ofLiteral]
  simp only [htrim, hne, if_false, hbracketed, hcut, hscalars]
  exact hlist'

lemma ofParts_one {cs : List Char} {v : QueryValue} (h : QueryValue.scalar target cs = some v) :
    QueryValue.ofParts target cs [cs] = .ok v := by
  simp only [QueryValue.ofParts, h]
  rfl

/-- A row of texts in quotes is cut into these texts. -/
lemma cutOutside_quoted {mark : Char} (hmark : mark ≠ '"') (separator : List Char) (first : String)
    (rest : List String) :
    Text.cutOutside (mark :: separator) (joinWith (mark :: separator) ((first :: rest).map quoted)) =
      some ((first :: rest).map quoted) := by
  have hcut := Text.cutOutside_joinWith_quote hmark separator first.toList (rest.map String.toList)
  rwa [← List.map_cons, List.map_map] at hcut

lemma ofLiteral_text (htarget : target.isTemporal = false) (s : String) :
    QueryValue.ofLiteral target (chars (.text s)) = .ok (.text s) := by
  have hcut : Text.cutOutside "..".toList (chars (.text s)) = some [quoted s] := by
    have hquoted := cutOutside_quoted (by decide : '.' ≠ '"') ['.'] s []
    rwa [List.map_singleton, Text.joinWith_one] at hquoted
  exact ofLiteral_of_bracketed_eq_none (trim_chars _) (List.cons_ne_nil _ _) rfl hcut
    (ofParts_one (scalar_quoted htarget s))

lemma ofLiteral_range (htarget : target.isTemporal = false) (low high : String) :
    QueryValue.ofLiteral target (chars (.range low high)) = .ok (.range (.text low) (.text high)) := by
  have hrow : chars (.range low high) = joinWith ['.', '.'] ([low, high].map quoted) := by
    simp [chars, joinWith]
  have hcut : Text.cutOutside "..".toList (chars (.range low high)) = some [quoted low, quoted high] := by
    rw [hrow]
    exact cutOutside_quoted (by decide : '.' ≠ '"') ['.'] low [high]
  refine ofLiteral_of_bracketed_eq_none (trim_chars _) (List.cons_ne_nil _ _) rfl hcut ?_
  have hscalars : QueryValue.scalars target (chars (.range low high)) [quoted low, quoted high] =
      .ok [.text low, .text high] := scalars_quoted htarget _ [low, high]
  rw [QueryValue.ofParts, hscalars]
  rfl

/-- A truth value is read as one where it is told by its form. -/
lemma ofLiteral_boolean (htarget : target.isTemporal = false) (hunit : target ≠ .unitCode)
    (hdataset : target ≠ .datasetId) (b : Bool) :
    QueryValue.ofLiteral target (chars (.boolean b)) = .ok (.boolean b) := by
  have hcut : Text.cutOutside "..".toList (chars (.boolean b)) = some [chars (.boolean b)] := by
    cases b <;>
      simp [chars, Text.cutOutside, Text.cutOutsideFrom, Text.afterSeparator, Text.afterPhrase, Text.growFirst]
  have hscalar : QueryValue.scalar target (chars (.boolean b)) = some (.boolean b) := by
    rw [scalar_eq_scalarByForm htarget hunit hdataset]
    cases b <;> rfl
  have hbracketed : QueryValue.bracketed (chars (.boolean b)) = none := by
    cases b <;> rfl
  have hne : chars (.boolean b) ≠ [] := by
    cases b <;> exact List.cons_ne_nil _ _
  exact ofLiteral_of_bracketed_eq_none (trim_chars _) hne hbracketed hcut (ofParts_one hscalar)

/-- A list of texts in quotes is read as the list of the texts. -/
lemma ofLiteral_list (htarget : target.isTemporal = false) (first : String) (rest : List String) :
    QueryValue.ofLiteral target (chars (.list first rest)) = .ok (.list ((first :: rest).map .text)) := by
  have hbracketed : QueryValue.bracketed (chars (.list first rest)) =
      some (joinWith [','] ((first :: rest).map quoted)) := by
    rw [chars, QueryValue.bracketed, if_pos List.getLast?_concat, List.dropLast_concat]
  have hcut : Text.cutOutside ",".toList (joinWith [','] ((first :: rest).map quoted)) =
      some ((first :: rest).map quoted) := cutOutside_quoted (by decide : ',' ≠ '"') [] first rest
  have hlist : QueryValue.listOf (chars (.list first rest)) ((first :: rest).map .text) =
      .ok (.list ((first :: rest).map .text)) := by
    rw [List.map_cons, QueryValue.listOf, if_pos (by simp [QueryValue.kind])]
    rfl
  exact ofLiteral_of_bracketed_eq_some (trim_chars _) (List.cons_ne_nil _ _) hbracketed hcut
    (scalars_quoted htarget _ (first :: rest)) hlist

/-- A written literal is read as its value. -/
theorem ofLiteral_chars (htarget : target.isTemporal = false) (h : literal.Fits operator target) :
    QueryValue.ofLiteral target literal.chars = .ok literal.value := by
  cases literal with
  | text s => exact ofLiteral_text htarget s
  | list first rest => exact ofLiteral_list htarget first rest
  | range low high => exact ofLiteral_range htarget low high
  | boolean b => exact ofLiteral_boolean htarget h.2.1 h.2.2 b

/-! ### The check -/

/-- What is compared for equality only, is only compared so by an operator that fits. -/
lemma Fits.isScalar_or_isEquality (h : literal.Fits operator target) :
    ((!literal.value.isScalar || literal.value.kind = .boolean) && !operator.isEquality) = false := by
  cases literal with
  | text s => rfl
  | list first rest => simp [show operator.isEquality = true from h]
  | range low high => simp [show operator.isEquality = true from h]
  | boolean b => simp [h.1]

/-- A literal is made of texts, unless it is a truth value. -/
lemma elementKind_value (literal : Literal) :
    literal.value.elementKind = .text ∨ ∃ b, literal = .boolean b := by
  cases literal with
  | text s => exact Or.inl rfl
  | list first rest => exact Or.inl rfl
  | range low high => exact Or.inl rfl
  | boolean b => exact Or.inr ⟨b, rfl⟩

/-- Operators that fit a literal pass the check for it. -/
theorem check_value [PatternEngine] (h : literal.Fits operator target) :
    operator.check literal.value target = .ok () := by
  unfold Operator.check
  simp only [h.isPattern_eq_false, h.isScalar_or_isEquality]
  rcases elementKind_value literal with hkind | ⟨b, rfl⟩
  · cases target <;> simp [hkind] <;> rfl
  · obtain ⟨-, hunit, hdataset⟩ := h
    cases target with
    | unitCode => exact absurd rfl hunit
    | datasetId => exact absurd rfl hdataset
    | _ => rfl

end Literal

end EntityHistory
