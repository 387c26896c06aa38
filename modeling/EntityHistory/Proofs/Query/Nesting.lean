/-
Parentheses, quotes and connectors.

Two scans go through the text of a query: one looks for the parenthesis that closes the first one, the other
cuts the text at its outermost connectors. Both follow the same position, the number of open parentheses and
the place with respect to quotes. A text is nested when it leads from outside all parentheses and quotes back
there without closing a parenthesis that it did not open; it is whole when, besides, all its connectors stand in
parentheses or quotes. A nested text is what one pair of parentheses encloses, and whole texts are what a cut
leaves in one piece.

* `QueryTerm.parenthesized_eq_some_iff`: enclosed texts are those in parentheses with a nested text inside;
* `QueryTerm.cut_joined`: texts that are whole, joined by connectors, are cut into these texts;
* `QueryTerm.parenthesized_joined`: such a row is not enclosed, even if it begins and ends with parentheses.
-/
import Mathlib.Tactic.Lemma
import EntityHistory.Proofs.Query.Infix
import EntityHistory.Proofs.Text.Pieces
import EntityHistory.Proofs.Text.Quoted
import EntityHistory.Query.Reader

namespace EntityHistory.QueryTerm

open Text (Quoting growFirst growAll growAll_cons)

/-! ### Positions -/

/-- Where a scan stands: how many parentheses are open, and where it is with respect to quotes. -/
structure Position where
  depth : Nat
  quoting : Quoting
deriving DecidableEq

namespace Position

/-- The position outside all parentheses and quotes. -/
def top : Position := ⟨0, .outside⟩

/-- The position with one more parenthesis open around it. -/
def raise (p : Position) : Position := ⟨p.depth + 1, p.quoting⟩

/-- Whether a connector at a position is one to cut at. -/
def cutsAt (p : Position) (c : Char) : Prop := p = top ∧ (Connector.ofChar? c).isSome

instance (p : Position) (c : Char) : Decidable (p.cutsAt c) :=
  inferInstanceAs (Decidable (p = top ∧ (Connector.ofChar? c).isSome))

/-- The position after one more character; a parenthesis that is not open cannot be closed. -/
def next? (p : Position) (c : Char) : Option Position :=
  if p.quoting = .outside ∧ c = '(' then some ⟨p.depth + 1, .outside⟩
  else if p.quoting = .outside ∧ c = ')' then
    if p.depth = 0 then none else some ⟨p.depth - 1, .outside⟩
  else some ⟨p.depth, p.quoting.next c⟩

/-- What one character does: it opens a parenthesis, closes one, or only counts for the quotes. -/
inductive Step : Position → Char → Position → Prop
  | opening (d : Nat) : Step ⟨d, .outside⟩ '(' ⟨d + 1, .outside⟩
  | closing (d : Nat) : Step ⟨d + 1, .outside⟩ ')' ⟨d, .outside⟩
  | other (d : Nat) (q : Quoting) (c : Char) (h : ¬ (q = .outside ∧ c = '('))
    (h' : ¬ (q = .outside ∧ c = ')')) : Step ⟨d, q⟩ c ⟨d, q.next c⟩

lemma next?_eq_some_iff {p p' : Position} {c : Char} : p.next? c = some p' ↔ Step p c p' := by
  constructor
  · intro h
    obtain ⟨d, q⟩ := p
    unfold next? at h
    split at h
    case isTrue hc =>
      obtain ⟨rfl, rfl⟩ := hc
      obtain rfl := Option.some.inj h
      exact .opening d
    case isFalse hc =>
      split at h
      case isTrue hc' =>
        obtain ⟨rfl, rfl⟩ := hc'
        cases d with
        | zero => cases h
        | succ d =>
          obtain rfl := Option.some.inj h
          exact .closing d
      case isFalse hc' =>
        obtain rfl := Option.some.inj h
        exact .other d q c hc hc'
  · rintro (d | d | ⟨d, q, c, h, h'⟩)
    · rfl
    · rfl
    · simp only [next?, h, h', if_false]

lemma Step.quoting_eq {p p' : Position} {c : Char} (h : Step p c p') : p'.quoting = p.quoting.next c := by
  cases h <;> rfl

/-- The only character that has no place is a closing parenthesis outside all parentheses and quotes. -/
lemma exists_step_or (p : Position) (c : Char) : (∃ p', Step p c p') ∨ p = top ∧ c = ')' := by
  obtain ⟨d, q⟩ := p
  by_cases h : q = .outside ∧ c = '('
  · obtain ⟨rfl, rfl⟩ := h
    exact Or.inl ⟨_, .opening d⟩
  · by_cases h' : q = .outside ∧ c = ')'
    · obtain ⟨rfl, rfl⟩ := h'
      cases d with
      | zero => exact Or.inr ⟨rfl, rfl⟩
      | succ d => exact Or.inl ⟨_, .closing d⟩
    · exact Or.inl ⟨_, .other d q c h h'⟩

end Position

open Position (Step next?_eq_some_iff exists_step_or)

/-- The position after a text. -/
def walk (p : Position) (cs : List Char) : Option Position := cs.foldlM Position.next? p

/-- The position after a text in which there is no connector to cut at. -/
def walkWhole (p : Position) (cs : List Char) : Option Position :=
  cs.foldlM (fun p c => if p.cutsAt c then none else p.next? c) p

variable {p p' : Position} {c : Char} {cs ds inner after : List Char} {k : Connector}

lemma walk_cons_eq_some_iff :
    walk p (c :: cs) = some p' ↔ ∃ q, Step p c q ∧ walk q cs = some p' := by
  rw [walk, List.foldlM_cons]
  exact Option.bind_eq_some_iff.trans (by simp only [next?_eq_some_iff]; rfl)

lemma walk_append : walk p (cs ++ ds) = (walk p cs).bind fun p' => walk p' ds := List.foldlM_append

lemma walkWhole_cons_eq_some_iff :
    walkWhole p (c :: cs) = some p' ↔ ¬ p.cutsAt c ∧ ∃ q, Step p c q ∧ walkWhole q cs = some p' := by
  rw [walkWhole, List.foldlM_cons]
  refine Option.bind_eq_some_iff.trans ?_
  by_cases h : p.cutsAt c
  · simp [h]
  · simp only [h, if_false, not_false_eq_true, true_and, next?_eq_some_iff]
    rfl

lemma walkWhole_append : walkWhole p (cs ++ ds) = (walkWhole p cs).bind fun p' => walkWhole p' ds :=
  List.foldlM_append

lemma walk_of_walkWhole (h : walkWhole p cs = some p') : walk p cs = some p' := by
  induction cs generalizing p with
  | nil => exact h
  | cons c cs ih =>
    obtain ⟨-, q, hq, hcs⟩ := walkWhole_cons_eq_some_iff.1 h
    exact walk_cons_eq_some_iff.2 ⟨q, hq, ih hcs⟩

lemma Position.Step.raise (h : Step p c p') : Step p.raise c p'.raise := by
  cases h with
  | opening d => exact .opening (d + 1)
  | closing d => exact .closing (d + 1)
  | other d q c h h' => exact .other (d + 1) q c h h'

lemma not_cutsAt_raise : ¬ p.raise.cutsAt c := by
  rintro ⟨h, -⟩
  cases h

/-- Inside one more pair of parentheses there are no connectors to cut at. -/
lemma walkWhole_raise (h : walk p cs = some p') : walkWhole p.raise cs = some p'.raise := by
  induction cs generalizing p with
  | nil =>
    obtain rfl := Option.some.inj h
    rfl
  | cons c cs ih =>
    obtain ⟨q, hq, hcs⟩ := walk_cons_eq_some_iff.1 h
    exact walkWhole_cons_eq_some_iff.2 ⟨not_cutsAt_raise, q.raise, hq.raise, ih hcs⟩

/-! ### The scans and the position -/

lemma cutFrom_cons (hcut : ¬ p.cutsAt c) (h : Step p c p') :
    cutFrom p.depth p.quoting (c :: cs) =
      (cutFrom p'.depth p'.quoting cs).map fun (pieces, ks) => (growFirst c pieces, ks) := by
  cases h with
  | opening d => simp [cutFrom]
  | closing d => simp [cutFrom]
  | other d q c h h' =>
    rw [cutFrom, if_neg h, if_neg h']
    split
    case h_1 connector hconnector =>
      rw [if_neg]
      rintro ⟨rfl, rfl⟩
      exact hcut ⟨rfl, by rw [hconnector]; rfl⟩
    · rfl

lemma untilClosed_cons (h : Step p c p') :
    untilClosed (p.depth + 1) p.quoting (c :: cs) =
      (untilClosed (p'.depth + 1) p'.quoting cs).map fun (inner, after) => (c :: inner, after) := by
  cases h with
  | opening d => simp [untilClosed]
  | closing d => simp [untilClosed]
  | other d q c h h' => rw [untilClosed, if_neg h, if_neg h']

/-- A cut goes on where a text without connectors to cut at has led. -/
lemma cutFrom_append (h : walkWhole p cs = some p') (ds : List Char) :
    cutFrom p.depth p.quoting (cs ++ ds) =
      (cutFrom p'.depth p'.quoting ds).map fun (pieces, ks) => (growAll cs pieces, ks) := by
  induction cs generalizing p with
  | nil =>
    obtain rfl := Option.some.inj h
    exact (congrFun Except.map_id (cutFrom p.depth p.quoting ds)).symm
  | cons c cs ih =>
    obtain ⟨hcut, q, hq, hcs⟩ := walkWhole_cons_eq_some_iff.1 h
    rw [List.cons_append, cutFrom_cons hcut hq, ih hcs]
    cases cutFrom p'.depth p'.quoting ds <;> rfl

/-- The search for a closing parenthesis goes on where a text has led. -/
lemma untilClosed_append (h : walk p cs = some p') (ds : List Char) :
    untilClosed (p.depth + 1) p.quoting (cs ++ ds) =
      (untilClosed (p'.depth + 1) p'.quoting ds).map fun (inner, after) => (cs ++ inner, after) := by
  induction cs generalizing p with
  | nil =>
    obtain rfl := Option.some.inj h
    simp
  | cons c cs ih =>
    obtain ⟨q, hq, hcs⟩ := walk_cons_eq_some_iff.1 h
    rw [List.cons_append, untilClosed_cons hq, ih hcs, Option.map_map]
    rfl

lemma cutFrom_symbol (k : Connector) (cs : List Char) :
    cutFrom 0 .outside (k.symbol :: cs) =
      (cutFrom 0 .outside cs).map fun (pieces, ks) => ([] :: pieces, k :: ks) := by
  cases k <;> simp [cutFrom, Connector.symbol, Connector.ofChar?]

lemma eq_symbol_of_isSome (h : (Connector.ofChar? c).isSome) : ∃ k : Connector, c = k.symbol := by
  unfold Connector.ofChar? at h
  split at h
  · exact ⟨.and, ‹_›⟩
  · split at h
    · exact ⟨.or, ‹_›⟩
    · cases h

/-- A text that a cut leaves in one piece has no connectors to cut at. -/
lemma walkWhole_of_cutFrom {pieces : List (List Char)}
    (h : cutFrom p.depth p.quoting cs = .ok (pieces, [])) : walkWhole p cs = some .top := by
  induction cs generalizing p pieces with
  | nil =>
    obtain ⟨d, q⟩ := p
    rw [cutFrom] at h
    split at h
    · cases h
    · split at h
      · cases h
      · simp_all [walkWhole, Position.top]
  | cons c cs ih =>
    rcases exists_step_or p c with ⟨p', hstep⟩ | ⟨rfl, rfl⟩
    · by_cases hcut : p.cutsAt c
      · -- a cut here would leave a connector
        obtain ⟨rfl, hk⟩ := hcut
        obtain ⟨k, rfl⟩ := eq_symbol_of_isSome hk
        rw [Position.top, cutFrom_symbol] at h
        cases hc : cutFrom 0 .outside cs <;> rw [hc] at h <;> cases h
      · rw [cutFrom_cons hcut hstep] at h
        cases hc : cutFrom p'.depth p'.quoting cs with
        | error fault =>
          rw [hc] at h
          cases h
        | ok result =>
          obtain ⟨pieces', ks⟩ := result
          rw [hc] at h
          obtain ⟨-, rfl⟩ := Prod.mk.inj (Except.ok.inj h)
          exact walkWhole_cons_eq_some_iff.2 ⟨hcut, p', hstep, ih hc⟩
    · cases h

/-- What a search for a closing parenthesis passes leads to the top. -/
lemma walk_of_untilClosed (h : untilClosed (p.depth + 1) p.quoting cs = some (inner, after)) :
    cs = inner ++ ')' :: after ∧ walk p inner = some .top := by
  induction cs generalizing p inner with
  | nil => cases h
  | cons c cs ih =>
    rcases exists_step_or p c with ⟨p', hstep⟩ | ⟨rfl, rfl⟩
    · rw [untilClosed_cons hstep, Option.map_eq_some_iff] at h
      obtain ⟨⟨inner', after'⟩, hcs, heq⟩ := h
      obtain ⟨rfl, rfl⟩ := Prod.mk.inj heq
      obtain ⟨rfl, hwalk⟩ := ih hcs
      exact ⟨rfl, walk_cons_eq_some_iff.2 ⟨p', hstep, hwalk⟩⟩
    · obtain ⟨rfl, rfl⟩ := Prod.mk.inj (Option.some.inj h)
      exact ⟨rfl, rfl⟩

/-! ### Nested and whole texts -/

/-- A text whose parentheses and quotes are closed within it, each parenthesis after it was opened. -/
def Nested (cs : List Char) : Prop := walk .top cs = some .top

/-- A nested text all of whose connectors stand in parentheses or quotes. -/
def Whole (cs : List Char) : Prop := walkWhole .top cs = some .top

lemma Whole.nested (h : Whole cs) : Nested cs := walk_of_walkWhole h

lemma Nested.append (hcs : Nested cs) (hds : Nested ds) : Nested (cs ++ ds) := by
  rw [Nested, walk_append, hcs]
  exact hds

lemma Whole.append (hcs : Whole cs) (hds : Whole ds) : Whole (cs ++ ds) := by
  rw [Whole, walkWhole_append, hcs]
  exact hds

/-- Whole texts with a whole separator between them are whole. -/
lemma whole_joinWith {separator : List Char} {parts : List (List Char)} (hseparator : Whole separator)
    (h : ∀ part ∈ parts, Whole part) : Whole (Text.joinWith separator parts) := by
  induction parts with
  | nil => rfl
  | cons part parts ih =>
    obtain ⟨hpart, hparts⟩ := List.forall_mem_cons.1 h
    cases parts with
    | nil => rwa [Text.joinWith_one]
    | cons next parts => exact hpart.append (hseparator.append (ih hparts))

lemma nested_symbol (k : Connector) : Nested [k.symbol] := by
  cases k <;> rfl

/-- A nested text in parentheses is whole. -/
lemma Nested.enclosed (h : Nested cs) : Whole ('(' :: (cs ++ [')'])) := by
  refine walkWhole_cons_eq_some_iff.2 ⟨?_, Position.top.raise, .opening 0, ?_⟩
  · rintro ⟨-, h⟩
    cases h
  · rw [walkWhole_append, walkWhole_raise h]
    rfl

/-- Parentheses and connectors in the rest of a quoted string count for nothing. -/
lemma walkWhole_of_closes {q : Quoting} (h : Text.Closes q cs) (d : Nat) :
    walkWhole ⟨d, q⟩ cs = some ⟨d, .outside⟩ := by
  have step : ∀ {q : Quoting} {c : Char} {cs : List Char}, q ≠ .outside →
      walkWhole ⟨d, q.next c⟩ cs = some ⟨d, .outside⟩ → walkWhole ⟨d, q⟩ (c :: cs) = some ⟨d, .outside⟩ := by
    intro q c cs hq hcs
    have hcut : ¬ (Position.mk d q).cutsAt c := fun hcut => hq (Position.mk.inj hcut.1).2
    exact walkWhole_cons_eq_some_iff.2 ⟨hcut, _, .other d q c (fun h => hq h.1) (fun h => hq h.1), hcs⟩
  induction h with
  | last => exact step (by decide) rfl
  | next hq h ih => exact step hq ih

/-- A quoted form is whole. -/
lemma whole_quote (cs : List Char) : Whole (Text.quote cs) := by
  rw [Text.quote_eq]
  refine walkWhole_cons_eq_some_iff.2 ⟨?_, ⟨0, .inside⟩, .other 0 .outside '"' (by decide) (by decide), ?_⟩
  · rintro ⟨-, h⟩
    cases h
  · exact walkWhole_of_closes (Text.closes_escape cs) 0

/-- The characters that have a meaning for the nesting. -/
def queryMarks : List Char := ['(', ')', '"', ';', '|']

/-- A text in which nothing has a meaning for the nesting is whole. -/
lemma whole_of_plain (h : ∀ c ∈ cs, c ∉ queryMarks) : Whole cs := by
  induction cs with
  | nil => rfl
  | cons c cs ih =>
    obtain ⟨hc, hcs⟩ := List.forall_mem_cons.1 h
    simp only [queryMarks, List.mem_cons, List.not_mem_nil, or_false, not_or] at hc
    have hcut : ¬ Position.top.cutsAt c := by
      rintro ⟨-, hk⟩
      obtain ⟨k, rfl⟩ := eq_symbol_of_isSome hk
      cases k
      · exact hc.2.2.2.1 rfl
      · exact hc.2.2.2.2 rfl
    have hstep : Step .top c .top := by
      rw [← next?_eq_some_iff]
      simp [Position.top, Position.next?, Quoting.next, hc]
    exact walkWhole_cons_eq_some_iff.2 ⟨hcut, _, hstep, ih hcs⟩

/-- Enclosed texts are those in parentheses with a nested text inside. -/
lemma parenthesized_eq_some_iff : parenthesized cs = some inner ↔
    cs = '(' :: (inner ++ [')']) ∧ Nested inner := by
  constructor
  · intro h
    unfold parenthesized at h
    split at h
    case h_1 rest =>
      split at h
      case h_1 inner' hrest =>
        obtain rfl := Option.some.inj h
        obtain ⟨rfl, hwalk⟩ := walk_of_untilClosed (p := .top) hrest
        exact ⟨rfl, hwalk⟩
      · cases h
    · cases h
  · rintro ⟨rfl, h⟩
    have hclosed := untilClosed_append h [')']
    rw [parenthesized]
    rw [Position.top] at hclosed
    simp [hclosed, untilClosed]

lemma whole_of_parenthesized (h : parenthesized cs = some inner) : Whole cs := by
  obtain ⟨rfl, hinner⟩ := parenthesized_eq_some_iff.1 h
  exact hinner.enclosed

lemma whole_of_cut {pieces : List (List Char)} (h : cut cs = .ok (pieces, [])) : Whole cs :=
  walkWhole_of_cutFrom (p := .top) h

/-! ### Rows -/

/-- Texts joined by connectors, each connector after its text. -/
def joined : List (List Char) → List Connector → List Char
  | [], _ => []
  | x :: xs, [] => x ++ joined xs []
  | x :: xs, k :: ks => x ++ k.symbol :: joined xs ks

variable {x : List Char} {xs : List (List Char)} {ks : List Connector}

lemma joined_one (x : List Char) : joined [x] [] = x := List.append_nil x

lemma joined_cons (x : List Char) (xs : List (List Char)) (k : Connector) (ks : List Connector) :
    joined (x :: xs) (k :: ks) = x ++ k.symbol :: joined xs ks := rfl

/-- A whole text before another one goes to the first of its pieces. -/
lemma cut_append (hx : Whole x) {piece : List Char} (h : cut cs = .ok (piece :: xs, ks)) :
    cut (x ++ cs) = .ok ((x ++ piece) :: xs, ks) := by
  rw [cut] at h
  refine (cutFrom_append (p := .top) hx cs).trans ?_
  rw [Position.top, h, ← growAll_cons]
  rfl

/-- A whole text before a connector is a piece of its own. -/
lemma cut_append_symbol (hx : Whole x) (k : Connector) (h : cut cs = .ok (xs, ks)) :
    cut (x ++ k.symbol :: cs) = .ok (x :: xs, k :: ks) := by
  have hsymbol : cut (k.symbol :: cs) = .ok ([] :: xs, k :: ks) := by
    rw [cut, cutFrom_symbol, ← cut, h]
    rfl
  rw [cut_append hx hsymbol, List.append_nil]

lemma cut_of_whole (hx : Whole x) : cut x = .ok ([x], []) := by
  have hnil : cut [] = .ok ([[]], []) := rfl
  have h := cut_append hx hnil
  rwa [List.append_nil] at h

/-- A row of whole texts is cut into these texts. -/
lemma cut_joined (h : xs.length = ks.length + 1) (hwhole : ∀ x ∈ xs, Whole x) :
    cut (joined xs ks) = .ok (xs, ks) := by
  induction xs, ks, h using row_cons_induction with
  | one x =>
    rw [joined_one]
    exact cut_of_whole (hwhole x List.mem_cons_self)
  | cons x k xs ks h ih =>
    rw [List.forall_mem_cons] at hwhole
    exact cut_append_symbol hwhole.1 k (ih hwhole.2)

/-- A row of whole texts is nested. -/
lemma nested_joined (h : xs.length = ks.length + 1) (hwhole : ∀ x ∈ xs, Whole x) :
    Nested (joined xs ks) := by
  induction xs, ks, h using row_cons_induction with
  | one x =>
    rw [joined_one]
    exact (hwhole x List.mem_cons_self).nested
  | cons x k xs ks h ih =>
    rw [List.forall_mem_cons] at hwhole
    exact hwhole.1.nested.append ((nested_symbol k).append (ih hwhole.2))

/-- A whole text with a connector after it is not enclosed, whatever follows: a parenthesis that the whole
text opens is closed within it, and so before the end. -/
lemma parenthesized_append_symbol (hx : Whole x) (k : Connector) (cs : List Char) :
    parenthesized (x ++ k.symbol :: cs) = none := by
  refine Option.eq_none_iff_forall_ne_some.2 fun inner hinner => ?_
  obtain ⟨heq, hnested⟩ := parenthesized_eq_some_iff.1 hinner
  cases x with
  | nil =>
    have hk : k.symbol = '(' := (List.cons.inj heq).1
    cases k <;> cases hk
  | cons c x =>
    obtain ⟨rfl, hcs⟩ := List.cons.inj heq
    -- what stands before the connector belongs to the inside
    obtain ⟨rest, hrest⟩ : ∃ rest, inner = x ++ rest := by
      rcases List.append_eq_append_iff.1 hcs with ⟨rest, hrest, -⟩ | ⟨rest, hrest, hclosing⟩
      · exact ⟨rest, hrest⟩
      · cases rest with
        | nil => exact ⟨[], by simpa using hrest.symm⟩
        | cons d rest =>
          have : rest ++ k.symbol :: cs = [] := (List.cons.inj hclosing).2.symm
          simp at this
    -- so it cannot lead back to the top, where it would be at the end of the whole text
    obtain ⟨-, q, hq, hwalk⟩ := walkWhole_cons_eq_some_iff.1 hx
    cases hq with
    | opening d =>
      rw [Nested, hrest, walk_append] at hnested
      obtain ⟨r, hr, -⟩ := Option.bind_eq_some_iff.1 hnested
      have hraised := walkWhole_raise hr
      cases hraised.symm.trans hwalk
    | other d q c h h' => exact h ⟨rfl, rfl⟩

/-- A row of several whole texts is not enclosed, even if it begins and ends with parentheses. -/
lemma parenthesized_joined (h : xs.length = ks.length + 1) (hks : ks ≠ []) (hwhole : ∀ x ∈ xs, Whole x) :
    parenthesized (joined xs ks) = none := by
  obtain ⟨k, ks, rfl⟩ := List.exists_cons_of_ne_nil hks
  obtain ⟨x, xs, rfl⟩ := List.exists_cons_of_length_eq_add_one h
  exact parenthesized_append_symbol (hwhole x List.mem_cons_self) k _

end EntityHistory.QueryTerm
