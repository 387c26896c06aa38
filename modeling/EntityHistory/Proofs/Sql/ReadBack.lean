/-
Statements that are read back.

The text of a fragment is fixed text with a placeholder for each value, and the fixed texts that occur are
clear: they hold no placeholder sign, and they do not begin with a digit that would lengthen the number in
front of them. So the placeholders that are found in the text are the ones that were written, numbered from
one on, and reading the statement back gives the fragment itself, with neighbouring texts joined. A fragment
that was rendered by itself can therefore go into another statement in place of the fragment.

* `Fragment.marks_textFrom`: what stands in the text of a clear fragment
* `Fragment.aligned_render`: the placeholders and the values of a statement agree
* `Fragment.IsClear.continuedBy_respliced`: reading back does not change what a fragment adds to a statement
-/
import EntityHistory.Sql.Fragment
import Mathlib.Data.List.Basic
import Mathlib.Tactic.MkIffOfInductiveProp

namespace EntityHistory.Sql

namespace Fragment

@[simp] lemma textFrom_text (n : Nat) (s : String) : textFrom n (text s) = s := String.append_empty

@[simp] lemma textFrom_bind (n : Nat) (v : Value) : textFrom n (bind v) = "$" ++ toString (n + 1) :=
  String.append_empty

@[simp] lemma values_text (s : String) : (text s).values = [] := rfl

@[simp] lemma values_bind (v : Value) : (bind v).values = [v] := rfl

end Fragment

/-! ### Clear texts -/

/-- Whether characters are without a placeholder sign and do not begin with a digit. -/
def clearChars (cs : List Char) : Bool := cs.all (· != '$') && !(cs.headD ' ').isDigit

/-- A text that neither has a placeholder nor lengthens the number of one in front of it. -/
structure IsClearText (s : String) : Prop where
  sign_not_mem : '$' ∉ s.toList
  not_isDigit : (s.toList.headD ' ').isDigit = false

/-- The form in which a fixed text is checked. -/
lemma isClearText_ofList {cs : List Char} (h : clearChars cs = true) : IsClearText (String.ofList cs) := by
  simp only [clearChars, Bool.and_eq_true, List.all_eq_true] at h
  refine ⟨fun hs => ?_, ?_⟩
  · rw [String.toList_ofList] at hs
    simpa using h.1 _ hs
  · rw [String.toList_ofList]
    simpa using h.2

/-- Text after a clear text may begin with a digit, since a letter or a blank is in front of it. -/
lemma IsClearText.append_of_ne {s t : String} (hs : IsClearText s) (hne : s ≠ "") (ht : '$' ∉ t.toList) :
    IsClearText (s ++ t) := by
  have hcons : s.toList ≠ [] := by simpa using hne
  obtain ⟨c, cs, hcs⟩ := List.exists_cons_of_ne_nil hcons
  have hfirst := hs.not_isDigit
  refine ⟨by simp [hs.sign_not_mem, ht], ?_⟩
  rw [hcs] at hfirst
  rwa [String.toList_append, hcs]

lemma IsClearText.append {s t : String} (hs : IsClearText s) (ht : IsClearText t) :
    IsClearText (s ++ t) := by
  by_cases hne : s = ""
  · simpa [hne] using ht
  · exact hs.append_of_ne hne ht.sign_not_mem

namespace Fragment

/-- A fragment all of whose texts are clear. -/
@[mk_iff] structure IsClear (f : Fragment) : Prop where
  isClearText : ∀ s, .text s ∈ f → IsClearText s

@[simp] lemma isClear_nil : IsClear [] := ⟨by simp⟩

@[simp] lemma isClear_cons_text {s : String} {f : Fragment} :
    IsClear (.text s :: f) ↔ IsClearText s ∧ IsClear f := by
  simp [isClear_iff]

@[simp] lemma isClear_cons_bind {v : Value} {f : Fragment} : IsClear (.bind v :: f) ↔ IsClear f := by
  simp [isClear_iff]

@[simp] lemma isClear_text {s : String} : IsClear (text s) ↔ IsClearText s := by simp [text]

@[simp] lemma isClear_bind (v : Value) : IsClear (bind v) := by simp [bind]

@[simp] lemma isClear_append {f g : Fragment} : IsClear (f ++ g) ↔ IsClear f ∧ IsClear g := by
  simp [isClear_iff, or_imp, forall_and]

lemma isClear_separated {separator : String} (hsep : IsClearText separator) {fs : List Fragment}
    (hfs : ∀ f ∈ fs, IsClear f) : IsClear (separated separator fs) := by
  induction fs with
  | nil => exact isClear_nil
  | cons f fs ih =>
    have hf := hfs f (by simp)
    have hrest := ih fun g hg => hfs g (by simp [hg])
    cases fs with
    | nil => exact hf
    | cons g gs => simpa [separated, hf, hsep] using hrest

end Fragment

/-! ### What stands in a text -/

namespace Statement

lemma marks_append {cs : List Char} (h : '$' ∉ cs) (rest : List Char) :
    marks (cs ++ rest) = cs.map .character ++ marks rest := by
  induction cs with
  | nil => rfl
  | cons c cs ih =>
    obtain ⟨hc, hcs⟩ : '$' ≠ c ∧ '$' ∉ cs := by simpa using h
    rw [List.cons_append, marks, if_neg hc.symm, ih hcs, List.map_cons, List.cons_append]

lemma sign_not_mem_of_isDigit {digits : List Char} (h : ∀ c ∈ digits, c.isDigit = true) :
    '$' ∉ digits := fun hs => absurd (h _ hs) (by decide)

/-- A placeholder has the digits that follow its sign, up to the next character that is none. -/
lemma marks_placeholder {digits rest : List Char} (hdigits : ∀ c ∈ digits, c.isDigit = true)
    (hrest : (rest.headD ' ').isDigit = false) :
    marks ('$' :: (digits ++ rest)) = .placeholder digits :: marks rest := by
  have hend : rest.takeWhile Char.isDigit = [] := by
    cases rest with
    | nil => rfl
    | cons c cs => exact List.takeWhile_cons_of_neg (by simpa using hrest)
  have htake : (digits ++ rest).takeWhile Char.isDigit = digits := by
    rw [List.takeWhile_append_of_pos hdigits, hend, List.append_nil]
  rw [marks, if_pos rfl, htake, marks_append (sign_not_mem_of_isDigit hdigits)]
  simp

/-- Characters of a text in front of what is read after them. -/
lemma fill_characters (values : List Value) {cs : List Char} (hcs : cs ≠ []) (rest : List Mark) :
    fill values (cs.map .character ++ rest) = (fill values rest).prependText (String.ofList cs) := by
  induction cs with
  | nil => exact absurd rfl hcs
  | cons c cs ih =>
    rw [List.map_cons, List.cons_append, fill]
    by_cases hnil : cs = []
    · simp [hnil]
    · rw [ih hnil]
      rcases fill values rest with _ | ⟨p | v, f⟩ <;>
        simp [Fragment.prependText, String.ofList_cons, String.append_assoc]

/-- The digits of a number stand for the value at its place. -/
lemma valueAt_toDigits (values : List Value) (n : Nat) :
    valueAt values (Nat.toDigits 10 (n + 1)) = values[n]? := by
  have hvalue : digitsValue (Nat.toDigits 10 (n + 1)) = n + 1 := Nat.ofDigitChars_ten_toDigits
  rw [valueAt, hvalue, if_neg (by simp [Nat.toDigits_ne_nil]), Nat.add_sub_cancel]

end Statement

/-! ### Reading back -/

namespace Fragment

open Statement

/-- What stands in the text of a fragment when so many placeholders stand before it. -/
def marksFrom (placeholders : Nat) : Fragment → List Mark
  | [] => []
  | .text s :: rest => s.toList.map .character ++ marksFrom placeholders rest
  | .bind _ :: rest =>
    .placeholder (Nat.toDigits 10 (placeholders + 1)) :: marksFrom (placeholders + 1) rest

/-- A fragment with neighbouring texts joined and empty texts left out. -/
def merged : Fragment → Fragment
  | [] => []
  | .text s :: rest => if s = "" then merged rest else (merged rest).prependText s
  | .bind v :: rest => .bind v :: merged rest

lemma toList_textFrom_bind (n : Nat) (v : Value) (f : Fragment) :
    (textFrom n (.bind v :: f)).toList = '$' :: (Nat.toDigits 10 (n + 1) ++ (textFrom (n + 1) f).toList) := by
  simp [textFrom]

lemma IsClear.headD_textFrom {f : Fragment} (hf : IsClear f) (n : Nat) :
    ((textFrom n f).toList.headD ' ').isDigit = false := by
  induction f with
  | nil => rfl
  | cons p f ih =>
    cases p with
    | bind v => rw [toList_textFrom_bind]; rfl
    | text s =>
      obtain ⟨hs, hf⟩ := isClear_cons_text.mp hf
      rw [textFrom, String.toList_append]
      rcases hcs : s.toList with _ | ⟨c, cs⟩
      · exact ih hf
      · simpa [hcs] using hs.not_isDigit

/-- What is found in the text of a clear fragment is what was written. -/
theorem marks_textFrom {f : Fragment} (hf : IsClear f) (n : Nat) :
    marks (textFrom n f).toList = marksFrom n f := by
  induction f generalizing n with
  | nil => rfl
  | cons p f ih =>
    cases p with
    | text s =>
      obtain ⟨hs, hf⟩ := isClear_cons_text.mp hf
      rw [textFrom, String.toList_append, marks_append hs.sign_not_mem, ih hf, marksFrom]
    | bind v =>
      have hf := isClear_cons_bind.mp hf
      have hdigits : ∀ c ∈ Nat.toDigits 10 (n + 1), c.isDigit = true := fun c hc =>
        Nat.isDigit_of_mem_toDigits (by decide) (by decide) hc
      rw [toList_textFrom_bind, marks_placeholder hdigits (hf.headD_textFrom (n + 1)), ih hf, marksFrom]

/-- The values take their places again. -/
theorem fill_marksFrom (before : List Value) (f : Fragment) :
    fill (before ++ values f) (marksFrom before.length f) = merged f := by
  induction f generalizing before with
  | nil => rfl
  | cons p f ih =>
    cases p with
    | text s =>
      rw [marksFrom, values, merged]
      by_cases hs : s = ""
      · simpa [hs] using ih before
      · rw [fill_characters _ (by simpa using hs), ih before, if_neg hs, String.ofList_toList]
    | bind v =>
      have hat : (before ++ v :: values f)[before.length]? = some v := by simp
      have hrest := ih (before ++ [v])
      rw [List.append_assoc, List.singleton_append, List.length_append, List.length_singleton] at hrest
      rw [marksFrom, values, fill, valueAt_toDigits, hat, merged]
      exact congrArg _ hrest

theorem IsClear.fragment_render {f : Fragment} (hf : IsClear f) : f.render.fragment = f.merged := by
  have hfill := fill_marksFrom [] f
  simpa [render, Statement.fragment, continuedBy, marks_textFrom hf] using hfill

end Fragment

/-! ### Agreement of placeholders and values -/

/-- The placeholders of a statement from left to right, by their digits. -/
def Statement.placeholders (s : Statement) : List String :=
  (marks s.sql.toList).filterMap fun
    | .placeholder digits => some (String.ofList digits)
    | .character _ => none

/-- The statement has one placeholder for each value, numbered in order from one on, and where a fragment has
a value, the statement has the placeholder of that value. -/
structure Aligned (s : Statement) (f : Fragment) : Prop where
  placeholders : s.placeholders = (List.range' 1 s.values.length).map toString
  values : s.values = f.values
  fragment : s.fragment = f.merged

namespace Fragment

open Statement

lemma placeholders_marksFrom (n : Nat) (f : Fragment) :
    ((marksFrom n f).filterMap fun
      | .placeholder digits => some (String.ofList digits)
      | .character _ => none) = (List.range' (n + 1) (values f).length).map toString := by
  induction f generalizing n with
  | nil => rfl
  | cons p f ih =>
    cases p with
    | text s => simpa [marksFrom, values, List.filterMap_append, List.filterMap_map, Function.comp_def]
        using ih n
    | bind v =>
      rw [marksFrom, values, List.length_cons, List.range'_succ, List.map_cons, List.filterMap_cons, ih (n + 1),
        Nat.toString_eq_ofList_toDigits]

theorem aligned_render {f : Fragment} (hf : IsClear f) : Aligned f.render f where
  placeholders := by
    have hmarks := placeholders_marksFrom 0 f
    simpa [Statement.placeholders, render, continuedBy, marks_textFrom hf] using hmarks
  values := by simp [render, continuedBy]
  fragment := hf.fragment_render

lemma values_prependText (s : String) (f : Fragment) : (f.prependText s).values = f.values := by
  rcases f with _ | ⟨_ | _, _⟩ <;> rfl

lemma textFrom_prependText (n : Nat) (s : String) (f : Fragment) :
    textFrom n (f.prependText s) = s ++ textFrom n f := by
  rcases f with _ | ⟨_ | _, _⟩ <;> simp [prependText, textFrom, String.append_assoc]

lemma values_merged (f : Fragment) : f.merged.values = f.values := by
  induction f with
  | nil => rfl
  | cons p f ih =>
    cases p with
    | text s =>
      rw [merged, values]
      split
      · exact ih
      · rw [values_prependText, ih]
    | bind v => rw [merged, values, values, ih]

lemma textFrom_merged (n : Nat) (f : Fragment) : textFrom n f.merged = textFrom n f := by
  induction f generalizing n with
  | nil => rfl
  | cons p f ih =>
    cases p with
    | text s =>
      rw [merged, textFrom]
      split
      · next hs => rw [hs, ih, String.empty_append]
      · rw [textFrom_prependText, ih]
    | bind v => rw [merged, textFrom, textFrom, ih]

lemma IsClear.values_respliced {f : Fragment} (hf : IsClear f) : f.respliced.values = f.values := by
  rw [respliced, hf.fragment_render, values_merged]

lemma IsClear.textFrom_respliced {f : Fragment} (hf : IsClear f) (n : Nat) :
    textFrom n f.respliced = textFrom n f := by
  rw [respliced, hf.fragment_render, textFrom_merged]

/-- A fragment that was rendered by itself and read back adds to a statement what the fragment adds. -/
theorem IsClear.continuedBy_respliced {f : Fragment} (hf : IsClear f) (s : Statement) :
    s.continuedBy f.respliced = s.continuedBy f := by
  rw [continuedBy, continuedBy, hf.textFrom_respliced, hf.values_respliced]

lemma IsClear.prependText {s : String} {f : Fragment} (hs : IsClearText s) (hf : IsClear f) :
    IsClear (f.prependText s) := by
  rcases f with _ | ⟨t | v, f⟩
  · exact isClear_text.mpr hs
  · obtain ⟨ht, hf⟩ := isClear_cons_text.mp hf
    exact isClear_cons_text.mpr ⟨hs.append ht, hf⟩
  · exact isClear_cons_text.mpr ⟨hs, hf⟩

lemma IsClear.merged {f : Fragment} (hf : IsClear f) : IsClear f.merged := by
  induction f with
  | nil => exact isClear_nil
  | cons p f ih =>
    cases p with
    | text s =>
      obtain ⟨hs, hf⟩ := isClear_cons_text.mp hf
      rw [Fragment.merged]
      split
      · exact ih hf
      · exact (ih hf).prependText hs
    | bind v => exact isClear_cons_bind.mpr (ih (isClear_cons_bind.mp hf))

lemma IsClear.respliced {f : Fragment} (hf : IsClear f) : IsClear f.respliced := by
  rw [Fragment.respliced, hf.fragment_render]
  exact hf.merged

end Fragment

end EntityHistory.Sql
