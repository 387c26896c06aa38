/-
Rows of texts with separators.

Texts that do not hold a separator are what a cut makes of their row, and the separator hides nothing: a phrase
without the separator in it occurs in a row only where it occurs in one of the texts.

* `Text.pieces_joinWith`: a row of texts without the separator is cut into these texts;
* `Text.mentions_joinWith`: a row mentions no phrase that none of its texts mentions;
* `Text.mentions_iff_exists_mem_pieces`: a text mentions a phrase just when one of its pieces does.
-/
import Mathlib.Tactic.Contrapose
import Mathlib.Tactic.Lemma
import Mathlib.Tactic.Push
import EntityHistory.Text.Pieces

namespace EntityHistory.Text

variable {separator : List Char} {s c : Char} {phrase cs : List Char} {parts : List (List Char)}

lemma joinWith_one (separator part : List Char) : joinWith separator [part] = part := by
  simp [joinWith]

lemma joinWith_cons_cons (separator part next : List Char) (parts : List (List Char)) :
    joinWith separator (part :: next :: parts) = part ++ (separator ++ joinWith separator (next :: parts)) := rfl

lemma mem_joinWith (h : c ∈ joinWith separator parts) : c ∈ separator ∨ ∃ part ∈ parts, c ∈ part := by
  induction parts with
  | nil => cases h
  | cons part parts ih =>
    cases parts with
    | nil =>
      rw [joinWith_one] at h
      exact Or.inr ⟨part, by simp, h⟩
    | cons next parts =>
      rw [joinWith_cons_cons, List.mem_append, List.mem_append] at h
      rcases h with h | h | h
      · exact Or.inr ⟨part, by simp, h⟩
      · exact Or.inl h
      · rcases ih h with h | ⟨part', hpart', hc⟩
        · exact Or.inl h
        · exact Or.inr ⟨part', List.mem_cons_of_mem part hpart', hc⟩

/-! ### Cutting a row -/

lemma pieces_of_not_mem (h : s ∉ cs) : pieces s cs = [cs] := by
  induction cs with
  | nil => rfl
  | cons c cs ih =>
    rw [List.mem_cons, not_or] at h
    rw [pieces, if_neg (Ne.symm h.1), ih h.2]

/-- No piece holds the separator. -/
lemma not_mem_of_mem_pieces {part : List Char} (h : part ∈ pieces s cs) : s ∉ part := by
  induction cs generalizing part with
  | nil =>
    rw [pieces, List.mem_singleton] at h
    simp [h]
  | cons c cs ih =>
    rw [pieces] at h
    split at h
    · rcases List.mem_cons.1 h with rfl | h
      · simp
      · exact ih h
    · rename_i hc
      split at h
      · rw [List.mem_singleton] at h
        simpa [h] using Ne.symm hc
      · rename_i piece rest heq
        have hpiece : s ∉ piece := ih (by simp [heq])
        rcases List.mem_cons.1 h with rfl | h
        · simpa using ⟨Ne.symm hc, hpiece⟩
        · exact ih (by simp [heq, h])

/-- A text is cut on each side of a separator on its own. -/
lemma pieces_append_cons (s : Char) (cs rest : List Char) :
    pieces s (cs ++ s :: rest) = pieces s cs ++ pieces s rest := by
  induction cs with
  | nil => simp [pieces]
  | cons c cs ih =>
    rw [List.cons_append, pieces, pieces, ih]
    split
    case isTrue hc => rw [List.cons_append]
    case isFalse hc =>
      obtain ⟨piece, pieces, heq⟩ := List.exists_cons_of_ne_nil (pieces_ne_nil s cs)
      rw [heq]
      rfl

/-- A row of texts is cut into what each of them is cut into. -/
lemma pieces_joinWith_eq_flatMap (hne : parts ≠ []) : pieces s (joinWith [s] parts) = parts.flatMap (pieces s) := by
  induction parts with
  | nil => exact absurd rfl hne
  | cons part parts ih =>
    cases parts with
    | nil => rw [joinWith_one, List.flatMap_singleton]
    | cons next parts =>
      rw [List.flatMap_cons, joinWith_cons_cons, List.singleton_append, pieces_append_cons, ih (by simp)]

/-- A row of texts without the separator is cut into these texts. -/
theorem pieces_joinWith (hne : parts ≠ []) (h : ∀ part ∈ parts, s ∉ part) :
    pieces s (joinWith [s] parts) = parts := by
  have hone : parts.map (pieces s) = parts.map fun part => [part] :=
    List.map_congr_left fun part hpart => pieces_of_not_mem (h part hpart)
  rw [pieces_joinWith_eq_flatMap hne, List.flatMap_def, hone, ← List.flatMap_def, List.flatMap_singleton']

lemma infix_joinWith {part : List Char} (h : part ∈ parts) : part <:+: joinWith separator parts := by
  induction parts with
  | nil => cases h
  | cons first parts ih =>
    cases parts with
    | nil => simp [List.mem_singleton.1 h, joinWith_one]
    | cons next parts =>
      rw [joinWith_cons_cons]
      rcases List.mem_cons.1 h with rfl | h
      · exact (List.prefix_append _ _).isInfix
      · exact (ih h).trans ((List.suffix_append _ _).trans (List.suffix_append _ _)).isInfix

/-- A piece is a part of the text. -/
lemma infix_of_mem_pieces {part : List Char} (h : part ∈ pieces s cs) : part <:+: cs := by
  have hpart : part <:+: joinWith [s] (pieces s cs) := infix_joinWith h
  rwa [joinWith_pieces] at hpart

/-! ### Cutting once -/

lemma cutOnce_append_cons (h : s ∉ cs) (rest : List Char) : cutOnce s (cs ++ s :: rest) = some (cs, rest) := by
  induction cs with
  | nil => rw [List.nil_append, cutOnce, if_pos rfl]
  | cons c cs ih =>
    rw [List.mem_cons, not_or] at h
    rw [List.cons_append, cutOnce, if_neg (Ne.symm h.1), ih h.2]
    rfl

lemma cutOnce_eq_none (h : s ∉ cs) : cutOnce s cs = none := by
  induction cs with
  | nil => rfl
  | cons c cs ih =>
    rw [List.mem_cons, not_or] at h
    rw [cutOnce, if_neg (Ne.symm h.1), ih h.2]
    rfl

/-! ### Phrases in a row -/

lemma afterPhrase_append_separator (hs : s ∉ phrase) (h : afterPhrase phrase cs = none) (rest : List Char) :
    afterPhrase phrase (cs ++ s :: rest) = none := by
  induction phrase generalizing cs with
  | nil => cases h
  | cons p phrase ih =>
    rw [List.mem_cons, not_or] at hs
    cases cs with
    | nil => rw [List.nil_append, afterPhrase, if_neg (Ne.symm hs.1)]
    | cons c cs =>
      rw [afterPhrase] at h
      rw [List.cons_append, afterPhrase]
      split at h
      case isTrue hp => rw [if_pos hp, ih hs.2 h]
      case isFalse hp => rw [if_neg hp]

lemma mentions_nil_eq_false_iff : mentions phrase [] = false ↔ afterPhrase phrase [] = none := by
  simp [mentions, cutPhrase]

lemma mentions_cons_eq_false_iff :
    mentions phrase (c :: cs) = false ↔ afterPhrase phrase (c :: cs) = none ∧ mentions phrase cs = false := by
  rw [mentions, cutPhrase]
  cases afterPhrase phrase (c :: cs) with
  | none => simp [mentions]
  | some rest => simp

/-- A phrase that holds no separator occurs on one of its sides if it occurs at all. -/
lemma mentions_append_separator (hs : s ∉ phrase) {rest : List Char} (hcs : mentions phrase cs = false)
    (hrest : mentions phrase rest = false) : mentions phrase (cs ++ s :: rest) = false := by
  induction cs with
  | nil =>
    have hphrase := afterPhrase_append_separator hs (mentions_nil_eq_false_iff.1 hcs) rest
    exact mentions_cons_eq_false_iff.2 ⟨hphrase, hrest⟩
  | cons c cs ih =>
    obtain ⟨hphrase, hcs⟩ := mentions_cons_eq_false_iff.1 hcs
    exact mentions_cons_eq_false_iff.2 ⟨afterPhrase_append_separator hs hphrase rest, ih hcs⟩

/-- A row mentions no phrase without the separator that none of its texts mentions. -/
theorem mentions_joinWith (hs : s ∉ phrase) (hne : parts ≠ [])
    (h : ∀ part ∈ parts, mentions phrase part = false) : mentions phrase (joinWith [s] parts) = false := by
  induction parts with
  | nil => exact absurd rfl hne
  | cons part parts ih =>
    rw [List.forall_mem_cons] at h
    cases parts with
    | nil => rw [joinWith_one, h.1]
    | cons next parts => exact mentions_append_separator hs h.1 (ih (by simp) h.2)

/-! ### Phrases as parts of a text -/

lemma afterPhrase_eq_none_iff : afterPhrase phrase cs = none ↔ ¬ phrase <+: cs := by
  rw [Option.eq_none_iff_forall_ne_some, List.IsPrefix, not_exists]
  exact forall_congr' fun rest => by rw [ne_eq, afterPhrase_eq_some_iff, eq_comm]

lemma mentions_eq_false_iff : mentions phrase cs = false ↔ ¬ phrase <:+: cs := by
  induction cs with
  | nil => rw [mentions_nil_eq_false_iff, afterPhrase_eq_none_iff, List.prefix_nil, List.infix_nil]
  | cons c cs ih =>
    rw [mentions_cons_eq_false_iff, afterPhrase_eq_none_iff, ih, List.infix_cons_iff, not_or]

/-- A text that lacks a character of a phrase does not mention the phrase. -/
lemma mentions_eq_false_of_not_mem (hc : c ∈ phrase) (h : c ∉ cs) : mentions phrase cs = false :=
  mentions_eq_false_iff.2 fun hpart => h (hpart.subset hc)

/-- A text mentions a phrase just when the phrase is a part of it. -/
lemma mentions_eq_true_iff : mentions phrase cs = true ↔ phrase <:+: cs := by
  rw [← not_iff_not, Bool.not_eq_true, mentions_eq_false_iff]

lemma mentions_append_cons_iff (hs : s ∉ phrase) {rest : List Char} :
    mentions phrase (cs ++ s :: rest) = true ↔ mentions phrase cs = true ∨ mentions phrase rest = true := by
  constructor
  · contrapose!
    simp only [ne_eq, Bool.not_eq_true]
    exact fun h => mentions_append_separator hs h.1 h.2
  · simp only [mentions_eq_true_iff]
    rintro (h | h)
    · exact h.trans (List.prefix_append _ _).isInfix
    · exact h.trans ((List.suffix_cons _ _).trans (List.suffix_append _ _)).isInfix

/-- A text mentions a phrase without the separator just when one of its pieces does. -/
theorem mentions_iff_exists_mem_pieces (hs : s ∉ phrase) :
    mentions phrase cs = true ↔ ∃ part ∈ pieces s cs, mentions phrase part = true := by
  constructor
  · contrapose!
    simp only [ne_eq, Bool.not_eq_true]
    intro h
    rw [← joinWith_pieces s cs]
    exact mentions_joinWith hs (pieces_ne_nil s cs) h
  · rintro ⟨part, hpart, h⟩
    exact mentions_eq_true_iff.2 ((mentions_eq_true_iff.1 h).trans (infix_of_mem_pieces hpart))

end EntityHistory.Text
