/-
Quoted strings in a text.

The quoted form of a text is read back as the text, whatever it holds. A scan that begins a quoted form inside
the quotes gets outside of them with its last character and not before, so separators in it are not seen: a cut
outside quotes passes a quoted form, and cuts a row of them at the separators between them only.

* `Text.unquote_quote`: a quoted form is read back as its text;
* `Text.closes_escape`: only the last quote of a quoted form ends it;
* `Text.cutOutside_joinWith_quote`: a row of quoted forms is cut into these forms.
-/
import Mathlib.Tactic.Lemma
import EntityHistory.Text.Quoted

namespace EntityHistory.Text

variable {separator cs ds : List Char} {c : Char} {q : Quoting}

/-- The characters of a text put before the first of some pieces. -/
def growAll (cs : List Char) (pieces : List (List Char)) : List (List Char) := cs.foldr growFirst pieces

lemma growAll_cons (cs piece : List Char) (pieces : List (List Char)) :
    growAll cs (piece :: pieces) = (cs ++ piece) :: pieces := by
  induction cs with
  | nil => rfl
  | cons c cs ih => rw [growAll, List.foldr_cons, ← growAll, ih]; rfl

lemma growAll_nil (pieces : List (List Char)) : growAll [] pieces = pieces := rfl

lemma growAll_concat (cs : List Char) (c : Char) (pieces : List (List Char)) :
    growAll (cs ++ [c]) pieces = growAll cs (growFirst c pieces) := List.foldr_append

/-! ### Escaping -/

lemma escape_cons_of_mark (hc : c = '"' ∨ c = '\\') (cs : List Char) :
    escape (c :: cs) = '\\' :: c :: escape cs := by
  rw [escape, if_pos hc]

lemma escape_cons_of_not_mark (hc : ¬ (c = '"' ∨ c = '\\')) (cs : List Char) :
    escape (c :: cs) = c :: escape cs := by
  rw [escape, if_neg hc]

lemma unescape_cons_of_not_mark (hc : ¬ (c = '"' ∨ c = '\\')) (cs : List Char) :
    unescape (c :: cs) = (unescape cs).map (c :: ·) := by
  rw [not_or] at hc
  cases cs with
  | nil => simp [unescape, hc]
  | cons d cs => simp [unescape, hc]

theorem unescape_escape (cs : List Char) : unescape (escape cs) = some cs := by
  induction cs with
  | nil => rfl
  | cons c cs ih =>
    by_cases hc : c = '"' ∨ c = '\\'
    · rw [escape_cons_of_mark hc, unescape, if_pos rfl, ih, Option.map_some]
    · rw [escape_cons_of_not_mark hc, unescape_cons_of_not_mark hc, ih, Option.map_some]

/-! ### Quoting -/

lemma quote_eq (cs : List Char) : quote cs = '"' :: (escape cs ++ ['"']) := rfl

lemma isQuoted_quote (cs : List Char) : isQuoted (quote cs) = true := by
  rw [isQuoted, quote, List.getLast?_concat]
  simp

/-- A quoted form is read back as its text. -/
theorem unquote_quote (cs : List Char) : unquote (quote cs) = some cs := by
  rw [quote_eq, unquote, if_pos List.getLast?_concat, List.dropLast_concat, unescape_escape]

/-- A text that leads out of a quoted string with its last character and not before. -/
inductive Closes : Quoting → List Char → Prop
  | last : Closes .inside ['"']
  | next {q : Quoting} {c : Char} {cs : List Char} (hq : q ≠ .outside) (h : Closes (q.next c) cs) :
    Closes q (c :: cs)

/-- Only the last quote of a quoted form ends it: the others have a backslash before them, and a backslash
has another before it. -/
lemma closes_escape (cs : List Char) : Closes .inside (escape cs ++ ['"']) := by
  induction cs with
  | nil => exact .last
  | cons c cs ih =>
    by_cases hc : c = '"' ∨ c = '\\'
    · rw [escape_cons_of_mark hc]
      have hrest : Closes ((Quoting.inside.next '\\').next c) (escape cs ++ ['"']) := ih
      exact .next (by decide) (.next (by decide) hrest)
    · rw [escape_cons_of_not_mark hc]
      rw [not_or] at hc
      have hnext : Quoting.inside.next c = .inside := by simp [Quoting.next, hc]
      exact .next (by decide) (by rwa [hnext])

/-! ### Cutting outside quotes -/

lemma cutOutsideFrom_cons_of_inside (hq : ¬ (q = .outside ∧ c ≠ '"')) (cs : List Char) :
    cutOutsideFrom separator q (c :: cs) = (cutOutsideFrom separator (q.next c) cs).map (growFirst c) := by
  rw [cutOutsideFrom, if_neg hq]

/-- A cut sees nothing of the rest of a quoted string. -/
lemma cutOutsideFrom_of_closes (h : Closes q ds) (cs : List Char) :
    cutOutsideFrom separator q (ds ++ cs) = (cutOutsideFrom separator .outside cs).map (growAll ds) := by
  induction h with
  | last =>
    rw [List.singleton_append, cutOutsideFrom_cons_of_inside (by simp)]
    rfl
  | next hq h ih =>
    rw [List.cons_append, cutOutsideFrom_cons_of_inside (by simp [hq]), ih, Option.map_map]
    rfl

/-- A cut passes a quoted form. -/
lemma cutOutsideFrom_quote_append (ds cs : List Char) :
    cutOutsideFrom separator .outside (quote ds ++ cs) =
      (cutOutsideFrom separator .outside cs).map (growAll (quote ds)) := by
  rw [quote_eq, List.cons_append, cutOutsideFrom_cons_of_inside (by simp),
    show Quoting.outside.next '"' = .inside from rfl, cutOutsideFrom_of_closes (closes_escape ds),
    Option.map_map]
  rfl

/-- Outside quotes a cut is made where a separator is found. -/
lemma cutOutsideFrom_cons_of_found (hc : c ≠ '"') (h : afterSeparator separator (c :: cs) = some ds) :
    cutOutsideFrom separator .outside (c :: cs) = (cutOutsideFrom separator .outside ds).map ([] :: ·) := by
  rw [cutOutsideFrom, if_pos ⟨rfl, hc⟩]
  split
  case h_1 rest hrest =>
    obtain rfl := Option.some.inj (hrest.symm.trans h)
    rfl
  case h_2 hnone => cases hnone.symm.trans h

/-- Where none is found, the cut goes on if the character is a single byte. -/
lemma cutOutsideFrom_cons_of_not_found (hc : c ≠ '"') (h : afterSeparator separator (c :: cs) = none) :
    cutOutsideFrom separator .outside (c :: cs) =
      if c.toNat < 128 then (cutOutsideFrom separator .outside cs).map (growFirst c) else none := by
  rw [cutOutsideFrom, if_pos ⟨rfl, hc⟩]
  split
  case h_1 rest hrest => cases hrest.symm.trans h
  case h_2 => rfl

/-- A cut is made at a separator, which must not begin with a quote. -/
lemma cutOutsideFrom_separator_append {s : Char} (hs : s ≠ '"') (separator cs : List Char) :
    cutOutsideFrom (s :: separator) .outside (s :: separator ++ cs) =
      (cutOutsideFrom (s :: separator) .outside cs).map ([] :: ·) := by
  refine cutOutsideFrom_cons_of_found hs ?_
  rw [afterSeparator, if_neg (by simp)]
  exact afterPhrase_eq_some_iff.2 rfl

/-- A row of quoted forms with separators between them is cut into these forms. -/
theorem cutOutside_joinWith_quote {s : Char} (hs : s ≠ '"') (separator text : List Char)
    (texts : List (List Char)) :
    cutOutside (s :: separator) (joinWith (s :: separator) ((text :: texts).map quote)) =
      some ((text :: texts).map quote) := by
  have hend : cutOutsideFrom (s :: separator) .outside [] = some [[]] := by rw [cutOutsideFrom]
  induction texts generalizing text with
  | nil =>
    have hjoin : joinWith (s :: separator) ([text].map quote) = quote text ++ [] := rfl
    rw [cutOutside, hjoin, cutOutsideFrom_quote_append, hend, Option.map_some, growAll_cons, List.append_nil]
    rfl
  | cons next texts ih =>
    have hjoin : joinWith (s :: separator) ((text :: next :: texts).map quote) =
        quote text ++ (s :: separator ++ joinWith (s :: separator) ((next :: texts).map quote)) := rfl
    rw [cutOutside, hjoin, cutOutsideFrom_quote_append, cutOutsideFrom_separator_append hs, ← cutOutside,
      ih next, Option.map_some, Option.map_some, growAll_cons, List.append_nil]
    rfl

end EntityHistory.Text
