/-
Queries without an answer.

A query is taken apart before any of its comparisons is read, and then these are read from left to right, up to the
first that fails. Of what is done to a comparison only one thing can leave it without an answer: the body of its
literal is cut outside quotes, and a wide character stands there. So a query has no answer just when this is what
happens to a comparison and all the parts before it are in order; such a character then stands outside quotes in the
query as well.

* `QueryTerm.parts`: what a query is taken apart into;
* `QueryTerm.read_eq_error_iff`: a query fails as the first of its parts that fails does;
* `QueryTerm.readComparison_eq_cut_iff`: when a comparison has no answer;
* `QueryTerm.ofText_eq_cut_iff`: when a query has none.
-/
import EntityHistory.Pattern.Reader
import EntityHistory.Proofs.Query.Accepted
import EntityHistory.Proofs.Query.Positions

namespace EntityHistory

open Text (BeginsOutside Exposed IsWide Quoting trim)

/-! ### Loops that may fail -/

section Loops

variable {ε α β γ : Type} {e : ε} {l : List α}

/-- A loop that may fail ends in the first failure of its steps. -/
lemma forM_eq_error_iff {f : α → Except ε PUnit} : forM l f = .error e ↔
    ∃ before a after, l = before ++ a :: after ∧ (∀ b ∈ before, f b = .ok ()) ∧ f a = .error e := by
  induction l with
  | nil =>
    constructor
    · intro h
      cases h
    · rintro ⟨before, a, after, h, -⟩
      simp at h
  | cons b l ih =>
    rw [List.forM_cons]
    cases hb : f b with
    | error e' =>
      constructor
      · intro h
        cases h
        exact ⟨[], b, l, rfl, by simp, hb⟩
      · rintro ⟨before, a, after, heq, hbefore, ha⟩
        cases before with
        | nil =>
          obtain ⟨rfl, -⟩ := List.cons.inj heq
          rw [← ha, hb]
          rfl
        | cons c before =>
          obtain ⟨rfl, -⟩ := List.cons.inj heq
          cases hb.symm.trans (hbefore b List.mem_cons_self)
    | ok _ =>
      refine Iff.trans ih ?_
      constructor
      · rintro ⟨before, a, after, rfl, hbefore, ha⟩
        exact ⟨b :: before, a, after, rfl, List.forall_mem_cons.2 ⟨hb, hbefore⟩, ha⟩
      · rintro ⟨before, a, after, heq, hbefore, ha⟩
        cases before with
        | nil =>
          obtain ⟨rfl, -⟩ := List.cons.inj heq
          cases hb.symm.trans ha
        | cons c before =>
          obtain ⟨rfl, rfl⟩ := List.cons.inj heq
          exact ⟨before, a, after, rfl, (List.forall_mem_cons.1 hbefore).2, ha⟩

/-- If each item fails as a loop over its parts does, a list fails as a loop over all parts does. -/
lemma map_mapM_eq_forM {f : α → Except ε β} {parts : α → List γ} {check : γ → Except ε PUnit}
    (h : ∀ a ∈ l, (fun _ => ⟨⟩) <$> f a = forM (parts a) check) :
    (fun _ => ⟨⟩) <$> l.mapM f = forM (l.flatMap parts) check := by
  induction l with
  | nil => rfl
  | cons a l ih =>
    obtain ⟨ha, hl⟩ := List.forall_mem_cons.1 h
    rw [List.mapM_cons, List.flatMap_cons, List.forM_append, ← ha, ← ih hl]
    cases f a with
    | error e => rfl
    | ok b => cases l.mapM f <;> rfl

end Loops

/-! ### Specification -/

namespace QueryValue

/-- The body of a literal: what is between the brackets of a list, or all of it. -/
def body (text : List Char) : List Char := (bracketed (trim text)).getD (trim text)

end QueryValue

namespace QueryTerm

/-- What a query is taken apart into. -/
inductive Part where
  /-- A comparison. -/
  | comparison (raw : List Char)
  /-- A text that cannot be one, with the reason. -/
  | refused (fault : QueryFault)
deriving DecidableEq, Repr

/-- The parts of a query from left to right. -/
def parts (text : List Char) : List Part :=
  if trim text = [] then [.refused .emptyTerm]
  else
    match _inner : parenthesized (trim text) with
    | some inner => parts inner
    | none =>
      match _pieces : cut (trim text) with
      | .error .unbalanced => [.refused (.unbalanced (String.ofList (trim text)))]
      | .error .unterminated => [.refused (.unterminated (String.ofList (trim text)))]
      | .ok (_, []) => [.comparison (trim text)]
      | .ok (pieces, _ :: _) => pieces.attach.flatMap fun ⟨piece, _⟩ => parts piece
termination_by text.length
decreasing_by
  · exact Nat.lt_of_lt_of_le (length_parenthesized _inner) (Text.length_trim_le _)
  · exact Nat.lt_of_lt_of_le (length_lt_of_cut _pieces (by simp) ‹_›) (Text.length_trim_le _)

/-- Whether a part is in order: a comparison is read, and a text that is refused fails. -/
def Part.check [PatternEngine] (context : Context) : Part → Outcome PUnit
  | .comparison raw => (fun _ => ⟨⟩) <$> readComparison context raw
  | .refused fault => refuse fault

/-! ### Reading part by part -/

variable {context : Context} {text raw : List Char} {failure : Failure}

lemma parts_eq (text : List Char) : parts text =
    if trim text = [] then [.refused .emptyTerm]
    else
      match parenthesized (trim text) with
      | some inner => parts inner
      | none =>
        match cut (trim text) with
        | .error .unbalanced => [.refused (.unbalanced (String.ofList (trim text)))]
        | .error .unterminated => [.refused (.unterminated (String.ofList (trim text)))]
        | .ok (_, []) => [.comparison (trim text)]
        | .ok (pieces, _ :: _) => pieces.flatMap parts := by
  rw [parts]
  by_cases hempty : trim text = []
  · rw [if_pos hempty, if_pos hempty]
  · rw [if_neg hempty, if_neg hempty]
    split
    case h_1 inner hinner => rw [hinner]
    case h_2 hnone =>
      rw [hnone]
      dsimp only
      -- each piece comes with the proof that it is one
      split <;> simp [*]

/-- A query is in order if its parts are, one after the other. -/
lemma map_read_eq_forM [PatternEngine] (context : Context) (text : List Char) :
    (fun _ => ⟨⟩) <$> read context text = forM (parts text) (Part.check context) := by
  induction hlength : text.length using Nat.strong_induction_on generalizing text with
  | _ n ih =>
    subst hlength
    rw [read_eq, parts_eq]
    split
    case isTrue => rfl
    case isFalse =>
      cases hinner : parenthesized (trim text) with
      | some inner =>
        exact ih _ (Nat.lt_of_lt_of_le (length_parenthesized hinner) (Text.length_trim_le _)) inner rfl
      | none =>
        dsimp only
        match hpieces : cut (trim text) with
        | .error .unbalanced => rfl
        | .error .unterminated => rfl
        | .ok (_, []) =>
          cases hcomparison : readComparison context (trim text) <;> simp [Part.check, hcomparison]
        | .ok (pieces, k :: ks) =>
          dsimp only
          rw [← map_mapM_eq_forM (f := read context) fun piece hpiece =>
            ih _ (Nat.lt_of_lt_of_le (length_lt_of_cut hpieces (by simp) hpiece) (Text.length_trim_le _)) piece rfl]
          cases pieces.mapM (read context) <;> rfl

/-- **First failures.**  A query fails just as the first of its parts that fails does. -/
theorem read_eq_error_iff [PatternEngine] : read context text = .error failure ↔
    ∃ before part after, parts text = before ++ part :: after ∧ (∀ p ∈ before, p.check context = .ok ()) ∧
      part.check context = .error failure := by
  rw [← forM_eq_error_iff, ← map_read_eq_forM]
  cases read context text with
  | error e => simp
  | ok term => simp

end QueryTerm

/-! ### Computations that have an answer -/

/-- A computation that has an answer, be it a value or an error that is reported. -/
def Answers {α : Type} (x : Outcome α) : Prop := x ≠ .error .cutInsideCharacter

section Answering

variable {α β : Type} {x : Outcome α} {f : α → Outcome β}

lemma answers_pure (a : α) : Answers (pure a : Outcome α) := by
  intro h
  cases h

lemma answers_refuse (fault : QueryFault) : Answers (refuse fault : Outcome α) := by
  intro h
  cases h

lemma answers_queryFault (x : Except QueryFault α) : Answers (liftM x : Outcome α) := by
  intro h
  cases x <;> cases h

lemma answers_expansionFault (x : Except ExpansionFault α) : Answers (liftM x : Outcome α) := by
  intro h
  cases x <;> cases h

lemma eq_ok_of_expansion {x : Except ExpansionFault α} {a : α} (h : (liftM x : Outcome α) = .ok a) : x = .ok a := by
  cases x with
  | error fault => cases h
  | ok a' =>
    cases h
    rfl

lemma bind_eq_cut_iff : x >>= f = .error .cutInsideCharacter ↔
    x = .error .cutInsideCharacter ∨ ∃ a, x = .ok a ∧ f a = .error .cutInsideCharacter := by
  cases x with
  | error e => simp [bind, Except.bind]
  | ok a => simp [bind, Except.bind]

lemma Answers.bind (hx : Answers x) (hf : ∀ a, Answers (f a)) : Answers (x >>= f) := by
  rw [Answers, ne_eq, bind_eq_cut_iff]
  rintro (h | ⟨a, -, h⟩)
  · exact hx h
  · exact hf a h

end Answering

/-! ### Literals and comparisons -/

namespace QueryValue

variable {target : ValueTarget} {text : List Char}

/-- A literal has no value, not even a wrong one, just when a wide character stands outside quotes in its body. -/
theorem ofLiteral_eq_cut_iff : ofLiteral target text = .error .cutInsideCharacter ↔ Exposed .outside (body text) := by
  have hcomma : ∀ s ∈ ",".toList, s ≠ '"' ∧ ¬ IsWide s := by simp [IsWide]
  have hdots : ∀ s ∈ "..".toList, s ≠ '"' ∧ ¬ IsWide s := by simp [IsWide]
  rw [ofLiteral, body]
  dsimp only
  split
  case isTrue hempty =>
    rw [hempty]
    exact iff_of_false (answers_refuse _) (Text.not_exposed_nil _)
  case isFalse =>
    cases bracketed (trim text) with
    | some inner =>
      rw [Option.getD_some, ← Text.cutOutside_eq_none_iff hcomma]
      dsimp only
      cases Text.cutOutside ",".toList inner with
      | none => exact iff_of_true rfl rfl
      | some parts =>
        refine iff_of_false ?_ (by simp)
        exact (answers_queryFault _).bind fun values => answers_queryFault _
    | none =>
      rw [Option.getD_none, ← Text.cutOutside_eq_none_iff hdots]
      dsimp only
      cases Text.cutOutside "..".toList (trim text) with
      | none => exact iff_of_true rfl rfl
      | some parts =>
        refine iff_of_false ?_ (by simp)
        dsimp only
        rw [if_neg (by simp)]
        exact answers_queryFault _

end QueryValue

namespace QueryTerm

variable {context : Context} {text raw : List Char}

/-- A comparison has no answer just when its path is read and expanded and a wide character stands outside quotes in
the body of its literal. -/
theorem readComparison_eq_cut_iff [PatternEngine] : readComparison context raw = .error .cutInsideCharacter ↔
    ∃ before operator literal path names, cutOperator 0 raw = some (before, operator, literal) ∧
      readPath (trim before) = .ok path ∧ path.expand context = .ok names ∧
      Exposed .outside (QueryValue.body literal) := by
  rw [readComparison]
  cases hcut : cutOperator 0 raw with
  | none => exact iff_of_false (answers_refuse _) (by simp)
  | some found =>
    obtain ⟨before, operator, literal⟩ := found
    constructor
    · intro h
      rcases bind_eq_cut_iff.1 h with h | ⟨path, hpath, h⟩
      · exact absurd h (answers_queryFault _)
      rcases bind_eq_cut_iff.1 h with h | ⟨names, hnames, h⟩
      · exact absurd h (answers_expansionFault _)
      rcases bind_eq_cut_iff.1 h with h | ⟨value, -, h⟩
      · exact ⟨before, operator, literal, path, names, rfl, eq_ok_of_liftM_eq_ok hpath, eq_ok_of_expansion hnames,
          QueryValue.ofLiteral_eq_cut_iff.1 h⟩
      · exact absurd h ((answers_queryFault _).bind fun _ => answers_pure _)
    · rintro ⟨before', operator', literal', path, names, hfound, hpath, hnames, hexposed⟩
      cases hfound
      refine bind_eq_cut_iff.2 (Or.inr ⟨path, by rw [hpath]; rfl, ?_⟩)
      refine bind_eq_cut_iff.2 (Or.inr ⟨names, by rw [hnames]; rfl, ?_⟩)
      exact bind_eq_cut_iff.2 (Or.inl (QueryValue.ofLiteral_eq_cut_iff.2 hexposed))

/-! ### Parts of a query -/

lemma beginsOutside_trim (text : List Char) : BeginsOutside (trim text) text := by
  obtain ⟨before, after, hbefore, -, htext⟩ := Text.exists_eq_append_trim text
  have hquote : '"' ∉ before := fun h => by cases hbefore '"' h
  exact ⟨before, after, htext, Text.after_eq_outside hquote⟩

/-- The first of the pieces of a text begins where the text does, and all others outside quotes. -/
def PiecesBegin (q : Quoting) (cs : List Char) : List (List Char) → Prop
  | [] => False
  | first :: rest =>
    first <+: cs ∧ ∀ piece ∈ rest, ∃ before after, cs = before ++ (piece ++ after) ∧ q.after before = .outside

namespace PiecesBegin

variable {q : Quoting} {c : Char} {cs : List Char} {pieces : List (List Char)}

/-- One more character belongs to the first piece. -/
lemma growFirst (h : PiecesBegin (q.next c) cs pieces) : PiecesBegin q (c :: cs) (Text.growFirst c pieces) := by
  cases pieces with
  | nil => exact h.elim
  | cons first rest =>
    obtain ⟨hfirst, hrest⟩ := h
    refine ⟨List.cons_prefix_cons.2 ⟨rfl, hfirst⟩, fun piece hpiece => ?_⟩
    obtain ⟨before, after, rfl, hout⟩ := hrest piece hpiece
    exact ⟨c :: before, after, rfl, hout⟩

/-- A cut before the text makes all its pieces begin outside quotes. -/
lemma cons_nil (hc : Quoting.outside.next c = .outside) (h : PiecesBegin .outside cs pieces) :
    PiecesBegin .outside (c :: cs) ([] :: pieces) := by
  cases pieces with
  | nil => exact h.elim
  | cons first rest =>
    obtain ⟨⟨after, rfl⟩, hrest⟩ := h
    refine ⟨List.nil_prefix, List.forall_mem_cons.2 ⟨⟨[c], after, rfl, hc⟩, fun piece hpiece => ?_⟩⟩
    obtain ⟨before, after', heq, hout⟩ := hrest piece hpiece
    refine ⟨c :: before, after', by rw [heq]; rfl, ?_⟩
    rw [Quoting.after_cons, hc, hout]

end PiecesBegin

lemma piecesBegin_of_cutFrom {p : Position} {cs : List Char} {pieces : List (List Char)}
    {connectors : List Connector} (h : cutFrom p.depth p.quoting cs = .ok (pieces, connectors)) :
    PiecesBegin p.quoting cs pieces := by
  induction cs generalizing p pieces connectors with
  | nil =>
    rw [cutFrom] at h
    split at h
    case isTrue => cases h
    case isFalse =>
      split at h
      case isTrue => cases h
      case isFalse =>
        cases h
        exact ⟨List.nil_prefix, by simp⟩
  | cons c cs ih =>
    rcases Position.exists_step_or p c with ⟨p', hstep⟩ | ⟨rfl, rfl⟩
    · by_cases hcuts : p.cutsAt c
      · obtain ⟨rfl, hk⟩ := hcuts
        obtain ⟨k, rfl⟩ := eq_symbol_of_isSome hk
        rw [Position.top, cutFrom_symbol] at h
        cases hcut : cutFrom 0 .outside cs with
        | error fault =>
          rw [hcut] at h
          cases h
        | ok result =>
          rw [hcut] at h
          cases h
          exact .cons_nil (by cases k <;> rfl) (ih (p := .top) hcut)
      · rw [cutFrom_cons hcuts hstep] at h
        cases hcut : cutFrom p'.depth p'.quoting cs with
        | error fault =>
          rw [hcut] at h
          cases h
        | ok result =>
          rw [hcut] at h
          cases h
          exact .growFirst (hstep.quoting_eq ▸ ih hcut)
    · cases h

lemma beginsOutside_of_cut {cs piece : List Char} {pieces : List (List Char)} {connectors : List Connector}
    (h : cut cs = .ok (pieces, connectors)) (hpiece : piece ∈ pieces) : BeginsOutside piece cs := by
  have hpieces := piecesBegin_of_cutFrom (p := .top) h
  cases pieces with
  | nil => exact hpieces.elim
  | cons first rest =>
    obtain ⟨⟨after, hafter⟩, hrest⟩ := hpieces
    rcases List.mem_cons.1 hpiece with rfl | hpiece
    · exact ⟨[], after, hafter.symm, rfl⟩
    · exact hrest piece hpiece

/-- Each comparison of a query begins outside quotes. -/
lemma beginsOutside_of_mem_parts (h : .comparison raw ∈ parts text) : BeginsOutside raw text := by
  induction hlength : text.length using Nat.strong_induction_on generalizing text with
  | _ n ih =>
    subst hlength
    refine BeginsOutside.trans ?_ (beginsOutside_trim text)
    rw [parts_eq] at h
    split at h
    case isTrue => simp at h
    case isFalse =>
      cases hinner : parenthesized (trim text) with
      | some inner =>
        rw [hinner] at h
        have hraw := ih _ (Nat.lt_of_lt_of_le (length_parenthesized hinner) (Text.length_trim_le _)) h rfl
        obtain ⟨htrim, -⟩ := parenthesized_eq_some_iff.1 hinner
        exact hraw.trans ⟨['('], [')'], htrim, rfl⟩
      | none =>
        rw [hinner] at h
        dsimp only at h
        match hpieces : cut (trim text) with
        | .error .unbalanced => simp [hpieces] at h
        | .error .unterminated => simp [hpieces] at h
        | .ok (_, []) =>
          obtain rfl : raw = trim text := by simpa [hpieces] using h
          exact .refl _
        | .ok (pieces, k :: ks) =>
          rw [hpieces] at h
          obtain ⟨piece, hpiece, hraw⟩ := List.mem_flatMap.1 h
          have hlt := length_lt_of_cut hpieces (by simp) hpiece
          exact (ih _ (Nat.lt_of_lt_of_le hlt (Text.length_trim_le _)) hraw rfl).trans
            (beginsOutside_of_cut hpieces hpiece)

/-- So do the literals of comparisons, and their bodies. -/
lemma beginsOutside_of_cutOperator {before literal : List Char} {operator : Operator}
    (h : cutOperator 0 raw = some (before, operator, literal)) : BeginsOutside (QueryValue.body literal) raw := by
  obtain ⟨rfl, hbefore⟩ := eq_append_of_cutOperator h
  have hsymbol : '"' ∉ operator.symbol.toList := by cases operator <;> decide
  have hliteral : BeginsOutside literal (before ++ (operator.symbol.toList ++ literal)) := by
    refine ⟨before ++ operator.symbol.toList, [], by simp, Text.after_eq_outside ?_⟩
    simp [hbefore, hsymbol]
  refine BeginsOutside.trans ?_ ((beginsOutside_trim literal).trans hliteral)
  rw [QueryValue.body]
  cases hinner : QueryValue.bracketed (trim literal) with
  | none => exact .refl _
  | some inner => exact ⟨['['], [']'], QueryValue.bracketed_eq_some_iff.1 hinner, rfl⟩

/-! ### Queries -/

lemma check_eq_cut_iff [PatternEngine] {part : Part} : part.check context = .error .cutInsideCharacter ↔
    ∃ raw, part = .comparison raw ∧ readComparison context raw = .error .cutInsideCharacter := by
  cases part with
  | comparison raw => cases hraw : readComparison context raw <;> simp [Part.check, hraw]
  | refused fault => exact iff_of_false (answers_refuse fault) (by simp)

/-- **Answers.**  Taking slices between byte positions, the reader reads every query as it does going through the
characters: none of the slices is out of bounds or inside a character, and no position is taken back beyond the start,
up to the cut of a literal outside quotes. That cut leaves a query without an answer just when a wide character stands
outside quotes in the body of the literal of a comparison whose path is read, and all parts of the query before this
comparison are in order. Such a character stands outside quotes in the query, too. -/
theorem ofText_eq_cut_iff [PatternEngine] (context : Context) (q : String) :
    readAt context q.toList = ofText context q ∧
      (ofText context q = .error .cutInsideCharacter ↔
        ∃ done raw others, parts q.toList = done ++ .comparison raw :: others ∧
          (∀ part ∈ done, part.check context = .ok ⟨⟩) ∧
          ∃ before operator literal path names, cutOperator 0 raw = some (before, operator, literal) ∧
            readPath (trim before) = .ok path ∧ path.expand context = .ok names ∧
            Exposed .outside (QueryValue.body literal)) ∧
      (ofText context q = .error .cutInsideCharacter → Exposed .outside q.toList) := by
  have hcut : ofText context q = .error .cutInsideCharacter ↔
      ∃ done raw others, parts q.toList = done ++ .comparison raw :: others ∧
        (∀ part ∈ done, part.check context = .ok ⟨⟩) ∧
        ∃ before operator literal path names, cutOperator 0 raw = some (before, operator, literal) ∧
          readPath (trim before) = .ok path ∧ path.expand context = .ok names ∧
          Exposed .outside (QueryValue.body literal) := by
    rw [ofText, read_eq_error_iff]
    constructor
    · rintro ⟨done, part, others, hparts, hdone, hpart⟩
      obtain ⟨raw, rfl, hraw⟩ := check_eq_cut_iff.1 hpart
      exact ⟨done, raw, others, hparts, hdone, readComparison_eq_cut_iff.1 hraw⟩
    · rintro ⟨done, raw, others, hparts, hdone, hraw⟩
      exact ⟨done, _, others, hparts, hdone, check_eq_cut_iff.2 ⟨raw, rfl, readComparison_eq_cut_iff.2 hraw⟩⟩
  refine ⟨readAt_eq_read context q.toList, hcut, fun h => ?_⟩
  obtain ⟨done, raw, others, hparts, -, before, operator, literal, path, names, hoperator, -, -, hexposed⟩ := hcut.1 h
  have hraw : BeginsOutside raw q.toList := beginsOutside_of_mem_parts (by simp [hparts])
  exact ((beginsOutside_of_cutOperator hoperator).trans hraw).exposed hexposed

/-- A comparison with a wide character that stands without quotes. -/
theorem ofText_eq_cut_unquoted :
    ofText { vocab := some "https://e.org/v/" } "a==é" = .error .cutInsideCharacter := by
  have hcomparison : readComparison { vocab := some "https://e.org/v/" } "a==é".toList =
      .error .cutInsideCharacter :=
    readComparison_eq_cut_iff.2 ⟨['a'], .equal, ['é'], ⟨"a", none, .value⟩, ("https://e.org/v/a", none), rfl, rfl, rfl,
      by decide⟩
  have htrim : trim "a==é".toList = "a==é".toList := rfl
  have hopen : parenthesized "a==é".toList = none := rfl
  have hpieces : cut "a==é".toList = .ok (["a==é".toList], []) := rfl
  rw [ofText, read_eq, htrim, if_neg (by decide), hopen, hpieces]
  dsimp only
  rw [hcomparison]
  rfl

/-- Within quotes there is nothing to cut. -/
example : ¬ Exposed .outside "a==\"é\"".toList := by decide

end QueryTerm

end EntityHistory
