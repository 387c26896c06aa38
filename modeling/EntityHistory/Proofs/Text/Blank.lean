/-
Trimming.

Trimming takes the blanks off both ends of a text and leaves what is between them. It sees no blanks that are
put around a text, and where the ends of a text have something to stand on it sees nothing of the middle.

* `Text.exists_eq_append_trim`: a text is what trimming leaves with blanks around it;
* `Text.trim_between_blanks`: blanks around a text do not change what trimming leaves;
* `Text.trim_eq_self`: a text without blanks at its ends is not changed.
-/
import Mathlib.Data.List.DropRight
import Mathlib.Tactic.Lemma
import EntityHistory.Text.Blank

namespace EntityHistory.Text

variable {cs ds bs : List Char} {c : Char}

/-- A text of nothing but white space. -/
def AllBlank (cs : List Char) : Prop := ∀ c ∈ cs, isBlank c = true

instance (cs : List Char) : Decidable (AllBlank cs) := List.decidableBAll _ cs

lemma trimEnd_eq_rdropWhile (cs : List Char) : trimEnd cs = cs.rdropWhile isBlank := rfl

/-! ### What is taken off -/

lemma exists_eq_append_trimStart (cs : List Char) : ∃ before, AllBlank before ∧ cs = before ++ trimStart cs :=
  ⟨cs.takeWhile isBlank, fun _ => List.mem_takeWhile_imp, List.takeWhile_append_dropWhile.symm⟩

lemma exists_eq_trimEnd_append (cs : List Char) : ∃ after, AllBlank after ∧ cs = trimEnd cs ++ after :=
  ⟨cs.rtakeWhile isBlank, fun _ => List.mem_rtakeWhile_imp, (List.rdropWhile_append_rtakeWhile ..).symm⟩

/-- A text is what trimming leaves of it, with blanks before and after. -/
lemma exists_eq_append_trim (cs : List Char) :
    ∃ before after, AllBlank before ∧ AllBlank after ∧ cs = before ++ (trim cs ++ after) := by
  obtain ⟨before, hbefore, hcs⟩ := exists_eq_append_trimStart cs
  obtain ⟨after, hafter, hstart⟩ := exists_eq_trimEnd_append (trimStart cs)
  refine ⟨before, after, hbefore, hafter, ?_⟩
  rw [trim, ← hstart]
  exact hcs

/-- Trimming leaves nothing of a text of blanks only. -/
lemma trim_eq_nil_iff : trim cs = [] ↔ AllBlank cs := by
  constructor
  · intro h
    obtain ⟨before, after, hbefore, hafter, hcs⟩ := exists_eq_append_trim cs
    rw [hcs, h, List.nil_append]
    exact List.forall_mem_append.2 ⟨hbefore, hafter⟩
  · intro h
    have hstart : trimStart cs = [] := List.dropWhile_eq_nil_iff.2 h
    rw [trim, hstart]
    rfl

/-! ### Blanks at the ends -/

lemma trimStart_append_of_allBlank (h : AllBlank bs) : trimStart (bs ++ cs) = trimStart cs :=
  List.dropWhile_append_of_pos h

lemma trimEnd_append_of_allBlank (h : AllBlank bs) : trimEnd (cs ++ bs) = trimEnd cs := by
  rw [trimEnd, List.reverse_append, trimStart_append_of_allBlank (by simpa [AllBlank] using h), trimEnd]

lemma trimStart_append_of_ne_nil (h : trimStart cs ≠ []) : trimStart (cs ++ ds) = trimStart cs ++ ds := by
  have hempty : (cs.dropWhile isBlank).isEmpty = false := List.isEmpty_eq_false_iff.2 h
  rw [trimStart, List.dropWhile_append, hempty]
  rfl

lemma trimEnd_append_of_ne_nil (h : trimEnd ds ≠ []) : trimEnd (cs ++ ds) = cs ++ trimEnd ds := by
  have hne : trimStart ds.reverse ≠ [] := by simpa [trimEnd] using h
  rw [trimEnd, List.reverse_append, trimStart_append_of_ne_nil hne, List.reverse_append,
    List.reverse_reverse, trimEnd]

lemma trimStart_eq_nil_iff : trimStart cs = [] ↔ AllBlank cs := List.dropWhile_eq_nil_iff

lemma trimEnd_eq_nil_iff : trimEnd cs = [] ↔ AllBlank cs := by
  rw [trimEnd_eq_rdropWhile, List.rdropWhile_eq_nil_iff]
  rfl

/-- Blanks around a text do not change what trimming leaves. -/
lemma trim_between_blanks (hbs : AllBlank bs) (hds : AllBlank ds) : trim (bs ++ (cs ++ ds)) = trim cs := by
  rw [trim, trimStart_append_of_allBlank hbs]
  by_cases h : trimStart cs = []
  · have hall : AllBlank (cs ++ ds) := List.forall_mem_append.2 ⟨trimStart_eq_nil_iff.1 h, hds⟩
    rw [trimStart_eq_nil_iff.2 hall, trim, h]
  · rw [trimStart_append_of_ne_nil h, trimEnd_append_of_allBlank hds, trim]

@[simp] lemma trim_trim (cs : List Char) : trim (trim cs) = trim cs := by
  obtain ⟨before, after, hbefore, hafter, hcs⟩ := exists_eq_append_trim cs
  conv_rhs => rw [hcs, trim_between_blanks hbefore hafter]

lemma trim_trimStart (cs : List Char) : trim (trimStart cs) = trim cs :=
  congrArg trimEnd (List.dropWhile_idempotent ..)

lemma trim_trimEnd (cs : List Char) : trim (trimEnd cs) = trim cs := by
  obtain ⟨after, hafter, hcs⟩ := exists_eq_trimEnd_append cs
  have hnil : AllBlank [] := fun _ hc => absurd hc List.not_mem_nil
  conv_rhs => rw [hcs, ← List.nil_append (trimEnd cs ++ after), trim_between_blanks hnil hafter]

/-- A text that neither begins nor ends with a blank is not changed by trimming. -/
lemma trim_eq_self (hstart : ∀ c ∈ cs.head?, isBlank c = false)
    (hend : ∀ c ∈ cs.getLast?, isBlank c = false) : trim cs = cs := by
  cases cs with
  | nil => rfl
  | cons c rest =>
    rw [trim, trimStart_cons_of_not_isBlank (hstart c rfl), trimEnd_eq_rdropWhile,
      List.rdropWhile_eq_self_iff]
    intro hne
    rw [hend _ (List.getLast?_eq_some_getLast hne)]
    exact Bool.false_ne_true

lemma trim_between_marks {d : Char} (hc : isBlank c = false) (hd : isBlank d = false) (cs : List Char) :
    trim (c :: (cs ++ [d])) = c :: (cs ++ [d]) := by
  refine trim_eq_self (fun c' hc' => ?_) (fun d' hd' => ?_)
  · obtain rfl := Option.some.inj hc'
    exact hc
  · rw [← List.cons_append, List.getLast?_concat] at hd'
    obtain rfl := Option.some.inj hd'
    exact hd

end EntityHistory.Text
