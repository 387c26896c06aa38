/-
Reading a query by cases.

What a query is read as depends on the text between the blanks at its ends. Such a text is read as its inside
if it is enclosed; otherwise it is cut, and read as a comparison if the cut leaves one piece and as a row of
the readings of its pieces if it leaves more. A text that is read as a comparison is whole, so that it stays
in one piece when it stands in a row.

* `QueryTerm.read_eq`: a query that is not empty is read in one of these three ways;
* `QueryTerm.read_congr`: blanks at its ends do not change what a query is read as;
* `QueryTerm.whole_of_read_comparison`: what is read as a comparison is whole;
* `QueryTerm.read_joined`: a row of whole texts is read as the row of their readings.
-/
import Mathlib.Data.List.Forall2
import Mathlib.Tactic.Lemma
import EntityHistory.Proofs.Query.Nesting
import EntityHistory.Proofs.Text.Blank

namespace EntityHistory

/-- A list is read by reading each of its items. -/
lemma mapM_eq_ok_of_forall₂ {ε α β : Type} {f : α → Except ε β} {xs : List α} {ys : List β}
    (h : List.Forall₂ (fun x y => f x = .ok y) xs ys) : xs.mapM f = .ok ys := by
  induction h with
  | nil => rfl
  | cons hx hxs ih =>
    rw [List.mapM_cons, hx, ih]
    rfl

namespace QueryTerm

open Position (next?_eq_some_iff)
open Text (Quoting AllBlank isBlank trim trimStart trimEnd)

variable {context : Context} {text text' inner cs bs : List Char} {p p' : Position} {c : Char}

/-! ### Blanks and positions -/

lemma ne_of_isBlank {d : Char} (h : isBlank c = true) (hd : isBlank d = false) : c ≠ d := by
  rintro rfl
  rw [h] at hd
  cases hd

/-- A blank leads out of quotes only where it stands outside of them. -/
lemma next_eq_outside_iff_of_isBlank {q : Quoting} (hc : isBlank c = true) :
    q.next c = .outside ↔ q = .outside := by
  have hquote : c ≠ '"' := ne_of_isBlank hc (by rfl)
  cases q with
  | outside => simp [Quoting.next, hquote]
  | inside =>
    simp only [Quoting.next, hquote, if_false]
    split <;> simp
  | escaped => simp [Quoting.next]

/-- A blank does not open or close a parenthesis. -/
lemma next?_of_isBlank (hc : isBlank c = true) : p.next? c = some ⟨p.depth, p.quoting.next c⟩ := by
  have hopening : c ≠ '(' := ne_of_isBlank hc (by rfl)
  have hclosing : c ≠ ')' := ne_of_isBlank hc (by rfl)
  simp [Position.next?, hopening, hclosing]

/-- A blank leads to the top only from the top. -/
lemma next?_eq_top_iff_of_isBlank (hc : isBlank c = true) : p.next? c = some .top ↔ p = .top := by
  obtain ⟨d, q⟩ := p
  rw [next?_of_isBlank hc]
  simp [Position.top, next_eq_outside_iff_of_isBlank hc]

lemma not_mem_queryMarks_of_isBlank (hc : isBlank c = true) : c ∉ queryMarks := by
  intro hmark
  simp only [queryMarks, List.mem_cons, List.not_mem_nil, or_false] at hmark
  rcases hmark with rfl | rfl | rfl | rfl | rfl <;> cases hc

lemma whole_of_allBlank (h : AllBlank bs) : Whole bs :=
  whole_of_plain fun c hc => not_mem_queryMarks_of_isBlank (h c hc)

lemma eq_top_of_walkWhole_allBlank (hbs : AllBlank bs) (h : walkWhole p bs = some .top) : p = .top := by
  induction bs generalizing p with
  | nil => exact Option.some.inj h
  | cons c bs ih =>
    obtain ⟨hc, hbs⟩ := List.forall_mem_cons.1 hbs
    obtain ⟨-, q, hq, hwalk⟩ := walkWhole_cons_eq_some_iff.1 h
    obtain rfl := ih hbs hwalk
    exact (next?_eq_top_iff_of_isBlank hc).1 (next?_eq_some_iff.2 hq)

lemma Whole.trimStart (h : Whole cs) : Whole (trimStart cs) := by
  obtain ⟨before, hbefore, hcs⟩ := Text.exists_eq_append_trimStart cs
  rwa [Whole, hcs, walkWhole_append, whole_of_allBlank hbefore] at h

lemma Whole.trimEnd (h : Whole cs) : Whole (trimEnd cs) := by
  obtain ⟨after, hafter, hcs⟩ := Text.exists_eq_trimEnd_append cs
  rw [Whole, hcs, walkWhole_append] at h
  obtain ⟨r, hr, hwalk⟩ := Option.bind_eq_some_iff.1 h
  obtain rfl := eq_top_of_walkWhole_allBlank hafter hwalk
  exact hr

/-- Blanks around a text keep it whole. -/
lemma whole_of_whole_trim (h : Whole (trim cs)) : Whole cs := by
  obtain ⟨before, after, hbefore, hafter, hcs⟩ := Text.exists_eq_append_trim cs
  rw [hcs]
  exact (whole_of_allBlank hbefore).append (h.append (whole_of_allBlank hafter))

/-! ### The cases of the reader -/

section Engine

variable [PatternEngine]

/-- What is read when blanks are taken off: the inside of an enclosed text, a comparison, or a row. -/
lemma read_eq (context : Context) (text : List Char) : read context text =
    if trim text = [] then refuse .emptyTerm
    else
      match parenthesized (trim text) with
      | some inner => read context inner
      | none =>
        match cut (trim text) with
        | .error .unbalanced => refuse (.unbalanced (String.ofList (trim text)))
        | .error .unterminated => refuse (.unterminated (String.ofList (trim text)))
        | .ok (_, []) => .comparison <$> readComparison context (trim text)
        | .ok (pieces, k :: ks) => (fun terms => .logical terms (k :: ks)) <$> pieces.mapM (read context) := by
  rw [read]
  by_cases hempty : trim text = []
  · rw [if_pos hempty, if_pos hempty]
  · rw [if_neg hempty, if_neg hempty]
    split
    case h_1 inner hinner => rw [hinner]
    case h_2 hnone =>
      rw [hnone]
      dsimp only
      -- the reader takes each piece with the proof that it is one, which the reading does not use
      split <;> simp [*]

/-- Blanks at its ends do not change what a query is read as. -/
lemma read_congr (h : trim text = trim text') : read context text = read context text' := by
  rw [read_eq, h, ← read_eq]

/-- An enclosed text is read as its inside. -/
lemma read_of_parenthesized (h : parenthesized (trim text) = some inner) :
    read context text = read context inner := by
  have hne : trim text ≠ [] := by
    rintro hempty
    rw [hempty] at h
    cases h
  rw [read_eq, if_neg hne, h]

/-- A text without connectors that is not enclosed is read as a comparison. -/
lemma read_of_whole (hne : trim text ≠ []) (hopen : parenthesized (trim text) = none)
    (hwhole : Whole (trim text)) :
    read context text = .comparison <$> readComparison context (trim text) := by
  rw [read_eq, if_neg hne, hopen, cut_of_whole hwhole]

/-- What is read as a comparison is whole. -/
lemma whole_of_read_comparison {comparison : Comparison}
    (h : read context text = .ok (.comparison comparison)) : Whole text := by
  refine whole_of_whole_trim ?_
  rw [read_eq] at h
  split at h
  case isTrue => cases h
  case isFalse =>
    split at h
    case h_1 inner hinner => exact whole_of_parenthesized hinner
    case h_2 =>
      split at h
      case h_1 => cases h
      case h_2 => cases h
      case h_3 pieces hcut => exact whole_of_cut hcut
      case h_4 pieces k ks hcut =>
        -- the reading of a row is a row
        cases hterms : pieces.mapM (read context) <;> rw [hterms] at h <;> cases h

/-- A comparison is read when its path, operator and literal are found and read, and go together. -/
lemma readComparison_eq_ok {raw before after : List Char} {operator : Operator} {path : Path}
    {attributeId : String} {subAttribute : Option String} {value : QueryValue}
    (hcut : cutOperator 0 raw = some (before, operator, after)) (hpath : readPath (trim before) = .ok path)
    (hexpand : path.expand context = .ok (attributeId, subAttribute))
    (hvalue : QueryValue.ofLiteral path.target after = .ok value)
    (hcheck : operator.check value path.target = .ok ()) :
    readComparison context raw = .ok { attributeId, subAttribute, target := path.target, operator, value } := by
  have hpath' : (readPath (trim before) : Outcome Path) = pure path := by rw [hpath]; rfl
  have hexpand' : (path.expand context : Outcome (String × Option String)) = pure (attributeId, subAttribute) := by
    rw [hexpand]
    rfl
  have hvalue' : QueryValue.ofLiteral path.target after = pure value := hvalue
  have hcheck' : (operator.check value path.target : Outcome Unit) = pure () := by rw [hcheck]; rfl
  rw [readComparison, hcut]
  simp only [hpath', pure_bind, hexpand', hvalue', hcheck']
  rfl

end Engine

/-! ### Rows -/

variable {xs ys : List (List Char)} {ks : List Connector} {k : Connector} {x y : List Char}

/-- The blanks on the other side of a connector stay. -/
lemma trimStart_append_symbol (x : List Char) (k : Connector) (cs : List Char) :
    trimStart (x ++ k.symbol :: cs) = trimStart x ++ k.symbol :: cs := by
  by_cases hx : trimStart x = []
  · rw [hx, Text.trimStart_append_of_allBlank (Text.trimStart_eq_nil_iff.1 hx)]
    exact Text.trimStart_cons_of_not_isBlank (by cases k <;> rfl)
  · exact Text.trimStart_append_of_ne_nil hx

lemma trimEnd_append_symbol (x : List Char) (k : Connector) (cs : List Char) :
    trimEnd (x ++ k.symbol :: cs) = x ++ k.symbol :: trimEnd cs := by
  by_cases hcs : trimEnd cs = []
  · rw [hcs, List.append_cons, Text.trimEnd_append_of_allBlank (Text.trimEnd_eq_nil_iff.1 hcs)]
    exact Text.trimEnd_append_of_not_isBlank x (by cases k <;> rfl)
  · rw [List.append_cons, Text.trimEnd_append_of_ne_nil hcs, ← List.append_cons]

/-- A text with some of the blanks at its ends taken off. -/
def Shaves (x y : List Char) : Prop := trim y = trim x ∧ (Whole x → Whole y)

lemma Shaves.trimStart (x : List Char) : Shaves x (trimStart x) := ⟨Text.trim_trimStart x, Whole.trimStart⟩

lemma Shaves.trimEnd (x : List Char) : Shaves x (trimEnd x) := ⟨Text.trim_trimEnd x, Whole.trimEnd⟩

lemma Shaves.trim (x : List Char) : Shaves x (trim x) :=
  ⟨Text.trim_trim x, fun h => h.trimStart.trimEnd⟩

/-- Whole texts with their readings; such texts may be the members of a row. -/
def AreRead [PatternEngine] (context : Context) : List (List Char) → List QueryTerm → Prop :=
  List.Forall₂ fun x t => Whole x ∧ read context x = .ok t

/-- Members of a row are read the same when some of their blanks are taken off. -/
lemma AreRead.shaved [PatternEngine] {terms : List QueryTerm} (h : AreRead context xs terms)
    (hys : List.Forall₂ Shaves xs ys) : AreRead context ys terms := by
  induction hys generalizing terms with
  | nil => exact h
  | cons hy hys ih =>
    cases h with
    | cons hx hxs => exact .cons ⟨hy.2 hx.1, (read_congr hy.1).trans hx.2⟩ (ih hxs)

/-- Blanks at the end of a row are taken off its last member. -/
lemma exists_trimEnd_joined (h : xs.length = ks.length + 1) :
    ∃ ys, trimEnd (joined xs ks) = joined ys ks ∧ List.Forall₂ Shaves xs ys := by
  induction xs, ks, h using row_cons_induction with
  | one x => exact ⟨[trimEnd x], by simp only [joined_one], .cons (.trimEnd x) .nil⟩
  | cons x k xs ks h ih =>
    obtain ⟨ys, htrim, hys⟩ := ih
    refine ⟨x :: ys, ?_, .cons ⟨rfl, id⟩ hys⟩
    rw [joined_cons, trimEnd_append_symbol, htrim, joined_cons]

/-- Blanks at the ends of a row are taken off its first and its last member. -/
lemma exists_trim_joined (h : xs.length = ks.length + 1) :
    ∃ ys, trim (joined xs ks) = joined ys ks ∧ List.Forall₂ Shaves xs ys := by
  obtain ⟨x, xs, rfl⟩ := List.exists_cons_of_length_eq_add_one h
  cases ks with
  | nil =>
    obtain rfl := List.eq_nil_of_length_eq_zero (Nat.succ.inj h)
    exact ⟨[trim x], by simp only [joined_one], .cons (.trim x) .nil⟩
  | cons k ks =>
    -- the connector keeps the two ends apart
    obtain ⟨ys, htrim, hys⟩ := exists_trimEnd_joined (Nat.succ.inj h)
    refine ⟨trimStart x :: ys, ?_, .cons (.trimStart x) hys⟩
    rw [joined_cons, Text.trim, trimStart_append_symbol, trimEnd_append_symbol, htrim, joined_cons]

/-- A row of whole texts is read as the row of their readings. -/
theorem read_joined [PatternEngine] {terms : List QueryTerm} (h : xs.length = ks.length + 1) (hks : ks ≠ [])
    (hxs : AreRead context xs terms) : read context (joined xs ks) = .ok (.logical terms ks) := by
  obtain ⟨ys, htrim, hys⟩ := exists_trim_joined h
  have hlength : ys.length = ks.length + 1 := hys.length_eq ▸ h
  obtain ⟨hwhole, hread⟩ := (List.forall₂_and_left ..).1 (hxs.shaved hys)
  obtain ⟨k, ks, rfl⟩ := List.exists_cons_of_ne_nil hks
  have hne : joined ys (k :: ks) ≠ [] := by
    obtain ⟨y, ys, rfl⟩ := List.exists_cons_of_length_eq_add_one hlength
    simp [joined_cons]
  rw [read_eq, htrim, if_neg hne, parenthesized_joined hlength hks hwhole, cut_joined hlength hwhole]
  dsimp only
  rw [mapM_eq_ok_of_forall₂ hread]
  rfl

end QueryTerm

end EntityHistory
