/-
Layouts of a query.

One term can be written in many ways: its comparisons are texts, a row has its connectors between its members
and parentheses around those members that are rows, and around any part there may be more parentheses or
blanks. A layout is one such way; it determines the text and the term. Reading the text gives the term back,
whatever the texts of the comparisons hold between their quotes.

* `QueryTerm.Layout.areRead_memberTexts`: the members of a row are whole, and each is read as its term;
* `QueryTerm.Layout.ofText_render`: a layout is read as its term.
-/
import EntityHistory.Proofs.Query.Spelling

namespace EntityHistory.QueryTerm

open Text (AllBlank trim)

/-- A way to write a term. -/
inductive Layout where
  /-- A comparison as it is written. -/
  | leaf (text : String) (c : Comparison)
  | row (members : List Layout) (connectors : List Connector)
  /-- Parentheses around a part. -/
  | enclosed (inner : Layout)
  /-- Blanks around a part. -/
  | spaced (before : List Char) (inner : Layout) (after : List Char)

namespace Layout

/-- Whether the connectors of a row stand outside all parentheses. -/
def isRow : Layout → Bool
  | .leaf _ _ => false
  | .row _ _ => true
  | .enclosed _ => false
  | .spaced _ inner _ => inner.isRow

mutual

/-- The text of a layout. -/
def render : Layout → List Char
  | .leaf text _ => text.toList
  | .row members connectors => joined (memberTexts members) connectors
  | .enclosed inner => '(' :: (inner.render ++ [')'])
  | .spaced before inner after => before ++ (inner.render ++ after)

/-- The texts of the members of a row; those that are rows stand in parentheses. -/
def memberTexts : List Layout → List (List Char)
  | [] => []
  | l :: members => (if l.isRow then '(' :: (l.render ++ [')']) else l.render) :: memberTexts members

end

mutual

/-- The term that is written. -/
def term : Layout → QueryTerm
  | .leaf _ c => .comparison c
  | .row members connectors => .logical (terms members) connectors
  | .enclosed inner => inner.term
  | .spaced _ inner _ => inner.term

/-- The terms that are written. -/
def terms : List Layout → List QueryTerm
  | [] => []
  | l :: members => l.term :: terms members

end

mutual

/-- Whether the comparisons are what their texts are read as, each row has several members and a connector
between each two neighbours, and there is only white space where blanks are to be. -/
def Valid [PatternEngine] (context : Context) : Layout → Prop
  | .leaf text c => ofText context text = .ok (.comparison c)
  | .row members connectors =>
    2 ≤ members.length ∧ connectors.length = members.length - 1 ∧ AllValid context members
  | .enclosed inner => inner.Valid context
  | .spaced before inner after => AllBlank before ∧ inner.Valid context ∧ AllBlank after

/-- Whether all of some layouts are valid. -/
def AllValid [PatternEngine] (context : Context) : List Layout → Prop
  | [] => True
  | l :: members => l.Valid context ∧ AllValid context members

end

/-- Layouts by induction: what holds of leaves, of a row when it holds of its members, and of a part with
parentheses or blanks around it when it holds of the part, holds of every layout. -/
@[elab_as_elim]
theorem induction {motive : Layout → Prop} (leaf : ∀ text c, motive (.leaf text c))
    (row : ∀ members connectors, (∀ l ∈ members, motive l) → motive (.row members connectors))
    (enclosed : ∀ inner, motive inner → motive (.enclosed inner))
    (spaced : ∀ before inner after, motive inner → motive (.spaced before inner after))
    (l : Layout) : motive l := by
  refine @Layout.rec motive (fun members => ∀ l ∈ members, motive l) leaf row enclosed spaced ?_ ?_ l
  · simp
  · intro l members hl hmembers
    exact List.forall_mem_cons.2 ⟨hl, hmembers⟩

variable {context : Context} {l inner : Layout} {members : List Layout} {before after : List Char}

lemma allValid_iff [PatternEngine] : AllValid context members ↔ ∀ l ∈ members, l.Valid context := by
  induction members with
  | nil => simp [AllValid]
  | cons l members ih => simp [AllValid, ih]

lemma length_memberTexts (members : List Layout) : (memberTexts members).length = members.length := by
  induction members with
  | nil => rfl
  | cons l members ih => rw [memberTexts, List.length_cons, ih, List.length_cons]

/-! ### Reading a layout -/

section Engine

variable [PatternEngine]

/-- What the reader makes of a layout: it is nested, whole unless it is a row, and read as its term. -/
structure IsRead (context : Context) (l : Layout) : Prop where
  nested : Nested l.render
  whole : l.isRow = false → Whole l.render
  read_eq : read context l.render = .ok l.term

/-- A nested text in parentheses is read as the text. -/
lemma read_enclosed {cs : List Char} (h : Nested cs) :
    read context ('(' :: (cs ++ [')'])) = read context cs := by
  refine read_of_parenthesized ?_
  rw [Text.trim_between_marks (by rfl) (by rfl)]
  exact parenthesized_eq_some_iff.2 ⟨rfl, h⟩

lemma isRead_leaf {text : String} {c : Comparison} (h : ofText context text = .ok (.comparison c)) :
    IsRead context (.leaf text c) where
  nested := (whole_of_read_comparison h).nested
  whole _ := whole_of_read_comparison h
  read_eq := h

lemma IsRead.enclosed (h : IsRead context inner) : IsRead context (.enclosed inner) where
  nested := h.nested.enclosed.nested
  whole _ := h.nested.enclosed
  read_eq := (read_enclosed h.nested).trans h.read_eq

lemma IsRead.spaced (h : IsRead context inner) (hbefore : AllBlank before) (hafter : AllBlank after) :
    IsRead context (.spaced before inner after) where
  nested := (whole_of_allBlank hbefore).nested.append (h.nested.append (whole_of_allBlank hafter).nested)
  whole hrow := (whole_of_allBlank hbefore).append ((h.whole hrow).append (whole_of_allBlank hafter))
  read_eq := (read_congr (Text.trim_between_blanks hbefore hafter)).trans h.read_eq

/-- The texts of the members of a row are whole and read as their terms, also of those that are rows. -/
lemma areRead_memberTexts (h : ∀ l ∈ members, IsRead context l) :
    AreRead context (memberTexts members) (terms members) := by
  induction members with
  | nil => exact .nil
  | cons l members ih =>
    obtain ⟨hl, hmembers⟩ := List.forall_mem_cons.1 h
    refine .cons ?_ (ih hmembers)
    -- a row has connectors to cut at, so it needs its parentheses to be whole
    split
    case isTrue => exact ⟨hl.enclosed.whole rfl, hl.enclosed.read_eq⟩
    case isFalse hrow => exact ⟨hl.whole (by simpa using hrow), hl.read_eq⟩

lemma isRead_row {connectors : List Connector} (htwo : 2 ≤ members.length)
    (hconnectors : connectors.length = members.length - 1) (h : ∀ l ∈ members, IsRead context l) :
    IsRead context (.row members connectors) := by
  have hmembers := areRead_memberTexts h
  have hlength : (memberTexts members).length = connectors.length + 1 := by
    rw [length_memberTexts]
    omega
  have hne : connectors ≠ [] := by
    rintro rfl
    rw [List.length_nil] at hconnectors
    omega
  exact
    { nested := nested_joined hlength ((List.forall₂_and_left ..).1 hmembers).1
      whole := fun hrow => Bool.noConfusion hrow
      read_eq := read_joined hlength hne hmembers }

/-- A valid layout is read as it should be. -/
theorem isRead_of_valid (h : l.Valid context) : IsRead context l := by
  induction l using Layout.induction with
  | leaf text c => exact isRead_leaf h
  | row members connectors ih =>
    obtain ⟨htwo, hconnectors, hvalid⟩ := h
    exact isRead_row htwo hconnectors fun l hl => ih l hl (allValid_iff.1 hvalid l hl)
  | enclosed inner ih => exact (ih h).enclosed
  | spaced before inner after ih =>
    obtain ⟨hbefore, hinner, hafter⟩ := h
    exact (ih hinner).spaced hbefore hafter

/-- **Reading undoes writing.** The text of a layout, with its rows, redundant parentheses and blanks, is
read as the term that was written: the same comparisons and connectors in the same places. -/
theorem ofText_render (h : l.Valid context) : ofText context (String.ofList l.render) = .ok l.term := by
  rw [ofText, String.toList_ofList]
  exact (isRead_of_valid h).read_eq

end Engine

/-- The comparison `s==text`, as it is spelled. -/
def spelled (text : String) : Spelling where
  name := ⟨"s", by decide⟩
  subName := none
  suffix := .none
  operator := .equal
  literal := .text text
  system?_eq_none := fun sub h => absurd h (Option.not_mem_none sub)
  fits := rfl

/-- What `s==text` is read as. -/
def equals (text : String) : Comparison := ⟨"urn:s", none, .value, .equal, .text text⟩

/-- A row that begins and ends with parentheses that do not belong together. -/
def twoGroups : Layout :=
  .spaced [' '] (.row [.enclosed (.leaf (String.ofList (spelled ")").chars) (equals ")")),
    .row [.leaf (String.ofList (spelled "a\"|b").chars) (equals "a\"|b"),
      .spaced ['\n'] (.leaf (String.ofList (spelled ";").chars) (equals ";")) []] [.and]] [.or]) ['\n']

theorem ofText_render_twoGroups :
    twoGroups.Valid { terms := [("s", "urn:s")] } ∧
      ofText { terms := [("s", "urn:s")] } " (s==\")\")|(s==\"a\\\"|b\";\ns==\";\")\n" =
        .ok (.logical [.comparison (equals ")"),
          .logical [.comparison (equals "a\"|b"), .comparison (equals ";")] [.and]] [.or]) := by
  have hleaf : ∀ text,
      (leaf (String.ofList (spelled text).chars) (equals text)).Valid { terms := [("s", "urn:s")] } := by
    intro text
    rw [Valid, ofText, String.toList_ofList]
    exact (spelled text).read_chars rfl rfl
  have hvalid : twoGroups.Valid { terms := [("s", "urn:s")] } :=
    ⟨by decide, ⟨by decide, rfl, hleaf _,
      ⟨by decide, rfl, hleaf _, ⟨by decide, hleaf _, by decide⟩, trivial⟩, trivial⟩, by decide⟩
  have htext : String.ofList twoGroups.render = " (s==\")\")|(s==\"a\\\"|b\";\ns==\";\")\n" := rfl
  rw [← htext]
  exact ⟨hvalid, ofText_render hvalid⟩

end Layout

end EntityHistory.QueryTerm
