/-
The infix form of a query.

Written out, a term is a row of symbols: comparisons with connectors between them, where a term that is itself
a row stands in parentheses. Such rows are read by a grammar in which conjunction binds tighter than
disjunction. The grammar says nothing about how a reading is found; here it is shown to be unambiguous, and
every proper term to have the reading that its groups give it.

* `QueryTerm.Reads.value_eq`: an infix form has at most one reading;
* `QueryTerm.reads_tokens`: the reading of a row is that any of its groups is true as a whole.
-/
import Mathlib.Tactic.Lemma
import EntityHistory.Query.Term

namespace EntityHistory

/-! ### Groups -/

section Groups

variable {α β : Type} {items : List α} {connectors : List Connector}

/-- Rows by induction: a row is one item, or an item with a connector before another row. -/
@[elab_as_elim]
theorem row_cons_induction
    {motive : (items : List α) → (connectors : List Connector) → items.length = connectors.length + 1 → Prop}
    (one : ∀ a, motive [a] [] rfl)
    (cons : ∀ a k items connectors h, motive items connectors h →
      motive (a :: items) (k :: connectors) (congrArg (· + 1) h))
    (items : List α) (connectors : List Connector) (h : items.length = connectors.length + 1) :
    motive items connectors h := by
  induction connectors generalizing items with
  | nil =>
    obtain ⟨a, rfl⟩ := List.length_eq_one_iff.1 h
    exact one a
  | cons k connectors ih =>
    obtain ⟨a, items, rfl⟩ := List.exists_cons_of_length_eq_add_one h
    have h' : items.length = connectors.length + 1 := by simpa using h
    exact cons a k items connectors h' (ih items h')

/-- Rows by induction, with a case for either connector. -/
@[elab_as_elim]
theorem row_induction
    {motive : (items : List α) → (connectors : List Connector) → items.length = connectors.length + 1 → Prop}
    (one : ∀ a, motive [a] [] rfl)
    (and : ∀ a items connectors h, motive items connectors h →
      motive (a :: items) (.and :: connectors) (congrArg (· + 1) h))
    (or : ∀ a items connectors h, motive items connectors h →
      motive (a :: items) (.or :: connectors) (congrArg (· + 1) h))
    (items : List α) (connectors : List Connector) (h : items.length = connectors.length + 1) :
    motive items connectors h := by
  induction items, connectors, h using row_cons_induction with
  | one a => exact one a
  | cons a k items connectors h ih =>
    cases k with
    | and => exact and a items connectors h ih
    | or => exact or a items connectors h ih

/-- The items before a row go into its first group. -/
lemma exists_groupsFrom_eq (h : items.length = connectors.length + 1) :
    ∃ group rest, ∀ current, groupsFrom current items connectors = (current ++ group) :: rest := by
  induction items, connectors, h using row_induction with
  | one a => exact ⟨[a], [], fun current => by simp [groupsFrom]⟩
  | and a items connectors h ih =>
    obtain ⟨group, rest, hgroups⟩ := ih
    refine ⟨a :: group, rest, fun current => ?_⟩
    simp only [groupsFrom, hgroups, List.append_assoc, List.cons_append, List.nil_append]
  | or a items connectors h ih => exact ⟨[a], groups items connectors, fun current => rfl⟩

lemma groups_one (a : α) : groups [a] [] = [[a]] := rfl

lemma groups_or (a : α) (items : List α) (connectors : List Connector) :
    groups (a :: items) (.or :: connectors) = [a] :: groups items connectors := rfl

/-- An item with a conjunction after it joins the first group of what follows. -/
lemma exists_groups_and (a : α) (h : items.length = connectors.length + 1) :
    ∃ group rest, groups items connectors = group :: rest ∧
      groups (a :: items) (.and :: connectors) = (a :: group) :: rest := by
  obtain ⟨group, rest, hgroups⟩ := exists_groupsFrom_eq h
  exact ⟨group, rest, hgroups [], hgroups [a]⟩

/-- The groups of a row hold its items in their order. -/
lemma flatten_groups (h : items.length = connectors.length + 1) :
    (groups items connectors).flatten = items := by
  induction items, connectors, h using row_induction with
  | one a => rfl
  | and a items connectors h ih =>
    obtain ⟨group, rest, hgroups, hand⟩ := exists_groups_and a h
    rw [hgroups] at ih
    rw [hand, ← ih]
    rfl
  | or a items connectors h ih => rw [groups_or, List.flatten_cons, ih, List.singleton_append]

/-- No group of a row is empty. -/
lemma ne_nil_of_mem_groups (h : items.length = connectors.length + 1) :
    ∀ group ∈ groups items connectors, group ≠ [] := by
  induction items, connectors, h using row_induction with
  | one a => simp [groups_one]
  | and a items connectors h ih =>
    obtain ⟨group, rest, hgroups, hand⟩ := exists_groups_and a h
    rw [hgroups, List.forall_mem_cons] at ih
    rw [hand, List.forall_mem_cons]
    exact ⟨List.cons_ne_nil a group, ih.2⟩
  | or a items connectors h ih =>
    rw [groups_or, List.forall_mem_cons]
    exact ⟨List.cons_ne_nil a [], ih⟩

/-- Changing the items of a row changes those of its groups. -/
lemma groups_map (f : α → β) (h : items.length = connectors.length + 1) :
    groups (items.map f) connectors = (groups items connectors).map (List.map f) := by
  induction items, connectors, h using row_induction with
  | one a => rfl
  | and a items connectors h ih =>
    obtain ⟨group, rest, hgroups, hand⟩ := exists_groups_and a h
    have h' : (items.map f).length = connectors.length + 1 := by rw [List.length_map, h]
    obtain ⟨group', rest', hgroups', hand'⟩ := exists_groups_and (f a) h'
    rw [hgroups, hgroups', List.map_cons, List.cons.injEq] at ih
    rw [List.map_cons, hand', hand, ih.1, ih.2]
    rfl
  | or a items connectors h ih => rw [List.map_cons, groups_or, ih, groups_or]; rfl

end Groups

namespace QueryTerm

/-! ### Terms -/

mutual

/-- Whether each row of a term has several members and a connector between each two neighbours. -/
def Proper : QueryTerm → Prop
  | .comparison _ => True
  | .logical terms connectors =>
    2 ≤ terms.length ∧ connectors.length = terms.length - 1 ∧ AllProper terms

/-- Whether all of some terms are proper. -/
def AllProper : List QueryTerm → Prop
  | [] => True
  | t :: terms => Proper t ∧ AllProper terms

end

lemma allProper_iff {terms : List QueryTerm} : AllProper terms ↔ ∀ t ∈ terms, t.Proper := by
  induction terms with
  | nil => simp [AllProper]
  | cons t terms ih => simp [AllProper, ih]

/-- Terms by induction: what holds of comparisons, and of a row when it holds of all its members, holds of
every term. -/
@[elab_as_elim]
theorem induction {motive : QueryTerm → Prop} (comparison : ∀ c, motive (.comparison c))
    (logical : ∀ terms connectors, (∀ t ∈ terms, motive t) → motive (.logical terms connectors))
    (t : QueryTerm) : motive t := by
  refine @QueryTerm.rec motive (fun terms => ∀ t ∈ terms, motive t) comparison logical ?_ ?_ t
  · simp
  · intro t terms ht hterms
    exact List.forall_mem_cons.2 ⟨ht, hterms⟩

/-- A proper row has one connector less than members, and these are proper. -/
lemma proper_logical_iff {terms : List QueryTerm} {connectors : List Connector} :
    (logical terms connectors).Proper ↔
      2 ≤ terms.length ∧ terms.length = connectors.length + 1 ∧ ∀ t ∈ terms, t.Proper := by
  rw [Proper, allProper_iff]
  constructor
  · rintro ⟨htwo, hconnectors, hproper⟩
    exact ⟨htwo, by omega, hproper⟩
  · rintro ⟨htwo, hterms, hproper⟩
    exact ⟨htwo, by omega, hproper⟩

/-! ### The infix form -/

/-- A symbol of the infix form. -/
inductive Token where
  | comparison (c : Comparison)
  | connector (k : Connector)
  | opening
  | closing

mutual

/-- The infix form of a term. -/
def tokens : QueryTerm → List Token
  | .comparison c => [.comparison c]
  | .logical terms connectors => rowTokens terms connectors

/-- The infix form of a member of a row: it stands in parentheses if it is itself a row. -/
def memberTokens : QueryTerm → List Token
  | .comparison c => [.comparison c]
  | .logical terms connectors => .opening :: (rowTokens terms connectors ++ [.closing])

/-- The infix form of a row. -/
def rowTokens : List QueryTerm → List Connector → List Token
  | [], _ => []
  | t :: terms, [] => memberTokens t ++ rowTokens terms []
  | t :: terms, k :: connectors => memberTokens t ++ .connector k :: rowTokens terms connectors

end

/-- The kinds of phrase of the grammar. -/
inductive Phrase where
  | operand
  | conjunction
  | disjunction

/-- The grammar of infix forms, with the value of each phrase. A disjunction is made of conjunctions, a
conjunction of operands, and an operand is a comparison or a disjunction in parentheses. -/
inductive Reads (truth : Comparison → Bool) : Phrase → List Token → Bool → Prop
  | comparison (c : Comparison) : Reads truth .operand [.comparison c] (truth c)
  | enclosed {ts : List Token} {b : Bool} (h : Reads truth .disjunction ts b) :
    Reads truth .operand (.opening :: (ts ++ [.closing])) b
  | operand {ts : List Token} {b : Bool} (h : Reads truth .operand ts b) : Reads truth .conjunction ts b
  | and {ts us : List Token} {b c : Bool} (h : Reads truth .operand ts b)
    (h' : Reads truth .conjunction us c) :
    Reads truth .conjunction (ts ++ .connector .and :: us) (b && c)
  | conjunction {ts : List Token} {b : Bool} (h : Reads truth .conjunction ts b) :
    Reads truth .disjunction ts b
  | or {ts us : List Token} {b c : Bool} (h : Reads truth .conjunction ts b)
    (h' : Reads truth .disjunction us c) :
    Reads truth .disjunction (ts ++ .connector .or :: us) (b || c)

/-- Whether a phrase cannot go on with the symbols after it. -/
def Phrase.EndsBefore (phrase : Phrase) (rest : List Token) : Prop :=
  match phrase with
  | .operand => True
  | .conjunction => rest.head? ≠ some (.connector .and)
  | .disjunction => ∀ k, rest.head? ≠ some (.connector k)

variable {truth : Comparison → Bool} {phrase : Phrase} {ts ts' rest rest' : List Token} {b b' : Bool}

/-- A text begins with at most one phrase of a kind that cannot go on. -/
lemma Reads.unique_of_append (h : Reads truth phrase ts b) (h' : Reads truth phrase ts' b')
    (hrest : phrase.EndsBefore rest) (hrest' : phrase.EndsBefore rest') (heq : ts ++ rest = ts' ++ rest') :
    ts = ts' ∧ b = b' := by
  induction h generalizing ts' b' rest rest' with
  | comparison c =>
    cases h' with
    | comparison c' =>
      obtain rfl : c = c' := by simpa using (List.cons.inj heq).1
      exact ⟨rfl, rfl⟩
    | enclosed => simp at heq
  | @enclosed us c h ih =>
    cases h' with
    | comparison c' => simp at heq
    | @enclosed us' c' h' =>
      have hus : us ++ Token.closing :: rest = us' ++ Token.closing :: rest' := by simpa using heq
      obtain ⟨rfl, rfl⟩ := ih h' (by simp [Phrase.EndsBefore]) (by simp [Phrase.EndsBefore]) hus
      exact ⟨rfl, rfl⟩
  | operand h ih =>
    cases h' with
    | operand h' => exact ih h' trivial trivial heq
    | @and vs ws c d h' h'' =>
      -- the second reading goes on with a conjunction where the first has ended
      obtain ⟨rfl, -⟩ := ih h' trivial trivial (heq.trans (List.append_assoc ..))
      obtain rfl : rest = Token.connector .and :: (ws ++ rest') := by simpa using heq
      exact absurd rfl hrest
  | @and us vs c d h h₂ ih ih₂ =>
    rw [List.append_assoc] at heq
    cases h' with
    | operand h' =>
      obtain ⟨rfl, -⟩ := ih h' trivial trivial heq
      obtain rfl : Token.connector .and :: (vs ++ rest) = rest' := by simpa using heq
      exact absurd rfl hrest'
    | and h' h₂' =>
      obtain ⟨rfl, rfl⟩ := ih h' trivial trivial (heq.trans (List.append_assoc ..))
      obtain ⟨rfl, rfl⟩ := ih₂ h₂' hrest hrest' (by simpa using heq)
      exact ⟨rfl, rfl⟩
  | conjunction h ih =>
    cases h' with
    | conjunction h' => exact ih h' (hrest .and) (hrest' .and) heq
    | @or vs ws c d h' h'' =>
      obtain ⟨rfl, -⟩ := ih h' (hrest .and) (by simp [Phrase.EndsBefore])
        (heq.trans (List.append_assoc ..))
      obtain rfl : rest = Token.connector .or :: (ws ++ rest') := by simpa using heq
      exact absurd rfl (hrest .or)
  | @or us vs c d h h₂ ih ih₂ =>
    rw [List.append_assoc] at heq
    cases h' with
    | conjunction h' =>
      obtain ⟨rfl, -⟩ := ih h' (by simp [Phrase.EndsBefore]) (hrest' .and) heq
      obtain rfl : Token.connector .or :: (vs ++ rest) = rest' := by simpa using heq
      exact absurd rfl (hrest' .or)
    | or h' h₂' =>
      obtain ⟨rfl, rfl⟩ := ih h' (by simp [Phrase.EndsBefore]) (by simp [Phrase.EndsBefore])
        (heq.trans (List.append_assoc ..))
      obtain ⟨rfl, rfl⟩ := ih₂ h₂' hrest hrest' (by simpa using heq)
      exact ⟨rfl, rfl⟩

/-- An infix form has at most one reading. -/
lemma Reads.value_eq (h : Reads truth .disjunction ts b) (h' : Reads truth .disjunction ts b') : b = b' :=
  (h.unique_of_append h' (by simp [Phrase.EndsBefore]) (by simp [Phrase.EndsBefore])
    (show ts ++ [] = ts ++ [] from rfl)).2

/-! ### The reading of a term -/

/-- The symbols after the first group of a row: there are none, or a disjunction with the other groups. -/
def ReadsRest (truth : Comparison → Bool) (value : QueryTerm → Bool) (others : List (List QueryTerm))
    (rest : List Token) : Prop :=
  others = [] ∧ rest = [] ∨ ∃ ts, rest = .connector .or :: ts ∧
    Reads truth .disjunction ts (others.any fun group => group.all value)

variable {value : QueryTerm → Bool} {others : List (List QueryTerm)}

lemma Reads.append_rest (h : Reads truth .conjunction ts b) (hrest : ReadsRest truth value others rest) :
    Reads truth .disjunction (ts ++ rest) (b || others.any fun group => group.all value) := by
  rcases hrest with ⟨rfl, rfl⟩ | ⟨us, rfl, hus⟩
  · simpa using Reads.conjunction h
  · exact Reads.or h hus

/-- A row is read group by group: first its first group, and then, after a disjunction, the others. -/
lemma exists_reads_rowTokens {terms : List QueryTerm} {connectors : List Connector}
    (h : terms.length = connectors.length + 1)
    (hterms : ∀ t ∈ terms, Reads truth .operand t.memberTokens (value t)) :
    ∃ group others us rest, groups terms connectors = group :: others ∧
      rowTokens terms connectors = us ++ rest ∧ Reads truth .conjunction us (group.all value) ∧
      ReadsRest truth value others rest := by
  induction terms, connectors, h using row_induction with
  | one t =>
    have ht := Reads.operand (hterms t (by simp))
    exact ⟨[t], [], t.memberTokens, [], rfl, by simp [rowTokens], by simpa using ht, Or.inl ⟨rfl, rfl⟩⟩
  | and t terms connectors h ih =>
    rw [List.forall_mem_cons] at hterms
    obtain ⟨group, others, us, rest, hgroups, hus, hgroup, hrest⟩ := ih hterms.2
    obtain ⟨group', others', hgroups', hand⟩ := exists_groups_and t h
    obtain ⟨rfl, rfl⟩ := List.cons.inj (hgroups.symm.trans hgroups')
    refine ⟨t :: group, others, t.memberTokens ++ .connector .and :: us, rest, hand, ?_, ?_, hrest⟩
    · simp [rowTokens, hus]
    · rw [List.all_cons]
      exact Reads.and hterms.1 hgroup
  | or t terms connectors h ih =>
    rw [List.forall_mem_cons] at hterms
    obtain ⟨group, others, us, rest, hgroups, hus, hgroup, hrest⟩ := ih hterms.2
    refine ⟨[t], group :: others, t.memberTokens, .connector .or :: (us ++ rest), ?_, ?_, ?_, ?_⟩
    · rw [groups_or, hgroups]
    · rw [rowTokens, hus]
    · simpa using Reads.operand hterms.1
    · exact Or.inr ⟨us ++ rest, rfl, hgroup.append_rest hrest⟩

/-- The infix form of a row reads as: any of its groups is true as a whole. -/
lemma reads_rowTokens {terms : List QueryTerm} {connectors : List Connector}
    (h : terms.length = connectors.length + 1)
    (hterms : ∀ t ∈ terms, Reads truth .operand t.memberTokens (value t)) :
    Reads truth .disjunction (rowTokens terms connectors)
      ((groups terms connectors).any fun group => group.all value) := by
  obtain ⟨group, others, us, rest, hgroups, hus, hgroup, hrest⟩ := exists_reads_rowTokens h hterms
  rw [hgroups, hus, List.any_cons]
  exact hgroup.append_rest hrest

/-- A truth value for each term, by which a comparison has its own and a row is true when any of its groups
is true as a whole, is the reading of infix forms. -/
lemma reads_tokens (value : QueryTerm → Bool) (hcomparison : ∀ c, value (.comparison c) = truth c)
    (hlogical : ∀ terms connectors, terms.length = connectors.length + 1 →
      value (.logical terms connectors) = (groups terms connectors).any fun group => group.all value)
    {t : QueryTerm} (ht : t.Proper) :
    Reads truth .disjunction t.tokens (value t) ∧ Reads truth .operand t.memberTokens (value t) := by
  induction t using QueryTerm.induction with
  | comparison c =>
    rw [hcomparison, tokens, memberTokens]
    exact ⟨.conjunction (.operand (.comparison c)), .comparison c⟩
  | logical terms connectors ih =>
    obtain ⟨-, h, hproper⟩ := proper_logical_iff.1 ht
    have hrow := reads_rowTokens h fun t ht => (ih t ht (hproper t ht)).2
    rw [hlogical terms connectors h, tokens, memberTokens]
    exact ⟨hrow, .enclosed hrow⟩

end QueryTerm

end EntityHistory
