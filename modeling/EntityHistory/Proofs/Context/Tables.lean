/-
The tables of a context.

A context keeps two tables: from terms to full names, and back from full names to terms. The second one is filled by
going through the first, and of two terms of the same meaning the preferred one is kept; the well-known names are
entered last. A table is gone through in any order. But the least term of a meaning is the same in all of them, so that
neither the tables nor the short names depend on the order: a short name is a well-known name, the least term with the
meaning, or what follows the namespace.

* `Context.isPreferred_iff_comesBefore`: the order of the terms, by their bytes;
* `Context.get?_foldl_enter`: the term that is kept for a full name;
* `Context.Iteration.compact_eq`: in any order the tables give the same short name;
* `Context.compact_iff_compacts`: which short name it is.
-/
import EntityHistory.Proofs.Context.Definitions
import EntityHistory.Proofs.Sorting
import EntityHistory.Proofs.Text.ByteOrder
import Mathlib.Data.Prod.Lex

namespace EntityHistory.Context

variable {documents : List Document} {c : Context} {name iri term other vocab short definition : String}
  {table : Named String} {entry : String × String}

/-! ### Specification -/

/-- The last definition of a term: neither is the term defined again behind it in its document, nor in a document
that comes later. -/
def IsLastDefinition (documents : List Document) (term definition : String) : Prop :=
  ∃ before document after earlier later, documents = before ++ document :: after ∧
    document.terms = earlier ++ (term, definition) :: later ∧ (∀ entry ∈ later, entry.1 ≠ term) ∧
    ∀ d ∈ after, ∀ entry ∈ d.terms, entry.1 ≠ term

/-- The last namespace that is defined. -/
def IsLastVocab (documents : List Document) (vocab : String) : Prop :=
  ∃ before document after, documents = before ++ document :: after ∧ document.vocab = some vocab ∧
    ∀ d ∈ after, d.vocab = none

/-- A full name is what the last definition of a term is expanded to. -/
def Means (documents : List Document) (term iri : String) : Prop :=
  ∃ definition, IsLastDefinition documents term definition ∧
    expandDefinition (definitions documents) definition = iri

/-- A text comes before another: it has fewer bytes, or as many and these come first. -/
def ComesBefore (s t : String) : Prop :=
  (Text.bytes s.toList).length < (Text.bytes t.toList).length ∨
    (Text.bytes s.toList).length = (Text.bytes t.toList).length ∧ Text.bytes s.toList < Text.bytes t.toList

/-- How a full name comes to its short name. -/
inductive Compacts (documents : List Document) : String → String → Prop
  | wellKnown {name : String} (hknown : isWellKnown name = true) : Compacts documents (coreNamespace ++ name) name
  /-- The least of the terms with this meaning. -/
  | term {iri term : String} (hne : ∀ name, isWellKnown name = true → iri ≠ coreNamespace ++ name)
      (hmeans : Means documents term iri) (hleast : ∀ other, Means documents other iri → other ≠ term →
        ComesBefore term other) : Compacts documents iri term
  | namespaced {vocab name : String}
      (hne : ∀ other, isWellKnown other = true → vocab ++ name ≠ coreNamespace ++ other)
      (hnone : ∀ term, ¬ Means documents term (vocab ++ name)) (hvocab : IsLastVocab documents vocab)
      (hplain : isPlainTerm name.toList = true) : Compacts documents (vocab ++ name) name
  | itself {iri : String} (hne : ∀ name, isWellKnown name = true → iri ≠ coreNamespace ++ name)
      (hnone : ∀ term, ¬ Means documents term iri)
      (hother : ∀ vocab name, IsLastVocab documents vocab → iri = vocab ++ name → isPlainTerm name.toList = false) :
      Compacts documents iri iri

/-- The reverse table with a term entered, unless one that is preferred has been entered for its full name. -/
def enter (reverse : Named String) (entry : String × String) : Named String :=
  match Named.get? reverse entry.2 with
  | some kept => if isPreferred entry.1 kept then Named.insert entry.2 entry.1 reverse else reverse
  | none => Named.insert entry.2 entry.1 reverse

/-- The reverse table with well-known names entered in any case. -/
def enterNames (names : List String) (reverse : Named String) : Named String :=
  names.foldl (fun reverse name => Named.insert (coreNamespace ++ name) name reverse) reverse

/-- The tables of a context, gone through in any order: the definitions for the terms, and these for the reverse
table. -/
structure Iteration (documents : List Document) where
  definitions : List (String × String)
  definitions_perm : definitions.Perm (Context.definitions documents)
  terms : List (String × String)
  terms_perm : terms.Perm (Named.ofList
    (definitions.map fun entry => (entry.1, expandDefinition (Context.definitions documents) entry.2)))

namespace Iteration

/-- The table from full names to terms. -/
def reverse (order : Iteration documents) : Named String := enterNames wellKnownNames (order.terms.foldl enter [])

/-- The short name that the tables give for a full name. -/
def compact (order : Iteration documents) (iri : String) : String :=
  match Named.get? order.reverse iri with
  | some term => term
  | none => ((documents.filterMap Document.vocab).getLast?.bind fun vocab => afterNamespace vocab iri).getD iri

end Iteration

/-! ### The last definitions -/

lemma lastValue?_terms_eq_some_iff : Named.lastValue? (documents.flatMap Document.terms) term = some definition ↔
    IsLastDefinition documents term definition := by
  rw [Named.lastValue?_flatMap, Named.getLast?_filterMap_eq_some_iff]
  constructor
  · rintro ⟨before, document, after, rfl, hlast, hafter⟩
    obtain ⟨earlier, later, hterms, hlater⟩ := Named.lastValue?_eq_some_iff.1 hlast
    exact ⟨before, document, after, earlier, later, rfl, hterms, hlater,
      fun d hd => Named.lastValue?_eq_none_iff.1 (hafter d hd)⟩
  · rintro ⟨before, document, after, earlier, later, rfl, hterms, hlater, hafter⟩
    exact ⟨before, document, after, rfl, Named.lastValue?_eq_some_iff.2 ⟨earlier, later, hterms, hlater⟩,
      fun d hd => Named.lastValue?_eq_none_iff.2 (hafter d hd)⟩

lemma means_iff_mem_terms : Means documents term iri ↔ (term, iri) ∈ (ofDocuments documents).terms := by
  rw [← (sorted_terms_ofDocuments documents).get?_eq_some_iff, get?_terms_eq_some_iff, Means]
  refine exists_congr fun definition => and_congr_left fun _ => ?_
  rw [← lastValue?_terms_eq_some_iff, definitions, Named.get?_ofList]

lemma vocab_ofDocuments_eq_some_iff : (ofDocuments documents).vocab = some vocab ↔ IsLastVocab documents vocab :=
  Named.getLast?_filterMap_eq_some_iff

/-! ### The order of the terms -/

lemma isPreferred_iff_comesBefore : isPreferred term other = true ↔ ComesBefore term other := by
  rw [isPreferred, ComesBefore, Text.utf8ByteSize_eq_length_bytes, Text.utf8ByteSize_eq_length_bytes,
    Text.bytes_lt_bytes_iff, ← String.lt_iff_toList_lt]
  simp

/-- What terms are preferred by. -/
def termKey (term : String) : Nat ×ₗ String := toLex (term.utf8ByteSize, term)

lemma termKey_injective : Function.Injective termKey := by
  intro term other h
  exact congrArg (fun key => (ofLex key).2) h

lemma isPreferred_iff_termKey_lt (term other : String) :
    isPreferred term other = true ↔ termKey term < termKey other := by
  simp [isPreferred, termKey, Prod.Lex.toLex_lt_toLex]

lemma termKey_le_iff : termKey term ≤ termKey other ↔ other ≠ term → ComesBefore term other := by
  rw [le_iff_eq_or_lt, ← isPreferred_iff_termKey_lt, isPreferred_iff_comesBefore, termKey_injective.eq_iff]
  constructor
  · rintro (rfl | h) hne
    · exact absurd rfl hne
    · exact h
  · intro h
    by_cases heq : other = term
    · exact Or.inl heq.symm
    · exact Or.inr (h heq)

/-- The terms that stand for a full name among entries of a table. -/
def termsOf (entries : List (String × String)) (iri : String) : List String :=
  (entries.filter fun entry => entry.2 = iri).map (·.1)

lemma mem_termsOf {entries : List (String × String)} : term ∈ termsOf entries iri ↔ (term, iri) ∈ entries := by
  simp [termsOf]

/-- The least of the terms that stand for a full name. -/
def leastTerm (entries : List (String × String)) (iri : String) : Option String :=
  (termsOf entries iri).foldl (keepBetter isPreferred) none

lemma leastTerm_eq_some_iff {entries : List (String × String)} : leastTerm entries iri = some term ↔
    (term, iri) ∈ entries ∧ ∀ other, (other, iri) ∈ entries → other ≠ term → ComesBefore term other := by
  rw [leastTerm, foldl_keepBetter_eq_some_iff termKey termKey_injective isPreferred_iff_termKey_lt, mem_termsOf]
  refine and_congr_right fun _ => forall_congr' fun other => ?_
  rw [mem_termsOf, termKey_le_iff]

/-- The least term does not depend on the order of the entries. -/
lemma leastTerm_of_perm {entries entries' : List (String × String)} (h : entries.Perm entries') (iri : String) :
    leastTerm entries iri = leastTerm entries' iri := by
  ext term
  simp only [leastTerm_eq_some_iff, h.mem_iff]

lemma preferredTerm_eq_leastTerm (c : Context) (iri : String) : c.preferredTerm iri = leastTerm c.terms iri := by
  have hbetter : better = fun best entry => keepBetter isPreferred best entry.1 := by
    funext best entry
    cases best <;> rfl
  rw [preferredTerm_eq, hbetter, leastTerm, termsOf, List.foldl_map]

/-! ### The reverse table -/

lemma sorted_enter (h : Named.Sorted table) (entry : String × String) : Named.Sorted (enter table entry) := by
  rw [enter]
  split
  · split
    · exact h.insert
    · exact h
  · exact h.insert

/-- A term is entered for its full name if it is better than what is there. -/
lemma get?_enter (h : Named.Sorted table) (entry : String × String) (iri : String) :
    Named.get? (enter table entry) iri =
      if entry.2 = iri then keepBetter isPreferred (Named.get? table iri) entry.1 else Named.get? table iri := by
  by_cases heq : entry.2 = iri
  · subst heq
    rw [if_pos rfl, enter]
    cases hkept : Named.get? table entry.2 with
    | none =>
      dsimp only
      rw [Named.get?_insert h, if_pos rfl, keepBetter]
    | some kept =>
      dsimp only
      rw [keepBetter]
      split
      · rw [Named.get?_insert h, if_pos rfl]
      · exact hkept
  · have hinsert : Named.get? (Named.insert entry.2 entry.1 table) iri = Named.get? table iri := by
      rw [Named.get?_insert h, if_neg (Ne.symm heq)]
    rw [if_neg heq, enter]
    split
    · split
      · exact hinsert
      · rfl
    · exact hinsert

/-- What is kept for a full name is the best of what is there and all its terms. -/
lemma get?_foldl_enter (entries : List (String × String)) (h : Named.Sorted table) (iri : String) :
    Named.Sorted (entries.foldl enter table) ∧ Named.get? (entries.foldl enter table) iri =
      (termsOf entries iri).foldl (keepBetter isPreferred) (Named.get? table iri) := by
  induction entries generalizing table with
  | nil => exact ⟨h, rfl⟩
  | cons entry entries ih =>
    obtain ⟨hsorted, hget⟩ := ih (sorted_enter h entry)
    refine ⟨hsorted, ?_⟩
    rw [List.foldl_cons, hget, get?_enter h, termsOf, termsOf]
    by_cases heq : entry.2 = iri
    · rw [if_pos heq, List.filter_cons_of_pos (by simpa using heq), List.map_cons, List.foldl_cons]
    · rw [if_neg heq, List.filter_cons_of_neg (by simpa using heq)]

/-- The well-known names come before all terms. -/
lemma get?_enterNames (names : List String) (h : Named.Sorted table) (iri : String) :
    Named.get? (enterNames names table) iri =
      (names.find? fun name => coreNamespace ++ name = iri).or (Named.get? table iri) := by
  induction names generalizing table with
  | nil => rfl
  | cons name names ih =>
    have hstep : enterNames (name :: names) table =
      enterNames names (Named.insert (coreNamespace ++ name) name table) := rfl
    rw [hstep, ih h.insert, Named.get?_insert h]
    by_cases heq : coreNamespace ++ name = iri
    · rw [if_pos heq.symm, List.find?_cons_of_pos (by simpa using heq), Option.some_or]
      cases hfind : names.find? fun name => coreNamespace ++ name = iri with
      | none => rfl
      | some other =>
        -- it has the same full name, so it is the same name
        have hother : coreNamespace ++ other = iri := by simpa using List.find?_some hfind
        rw [Option.some_or, core_append_inj.1 (hother.trans heq.symm)]
    · rw [if_neg (Ne.symm heq), List.find?_cons_of_neg (by simpa using heq)]

namespace Iteration

/-- Whatever the order, the table of the terms is that of the context. -/
lemma terms_perm_ofDocuments (order : Iteration documents) : order.terms.Perm (ofDocuments documents).terms := by
  have hmap := order.definitions_perm.map
    fun entry => (entry.1, expandDefinition (Context.definitions documents) entry.2)
  have hterms := Named.ofList_of_perm (sorted_terms_ofDocuments documents) hmap
  exact hterms ▸ order.terms_perm

lemma get?_reverse (order : Iteration documents) (iri : String) : Named.get? order.reverse iri =
    (wellKnownNames.find? fun name => coreNamespace ++ name = iri).or ((ofDocuments documents).preferredTerm iri) := by
  have hempty : Named.Sorted ([] : Named String) := List.Pairwise.nil
  obtain ⟨hsorted, hget⟩ := get?_foldl_enter order.terms hempty iri
  rw [reverse, get?_enterNames _ hsorted, hget, preferredTerm_eq_leastTerm,
    ← leastTerm_of_perm order.terms_perm_ofDocuments]
  rfl

/-- Whatever the order, the tables give the short name of the context. -/
theorem compact_eq (order : Iteration documents) (iri : String) :
    order.compact iri = (ofDocuments documents).compact iri := by
  rw [compact, get?_reverse, Context.compact]
  cases wellKnownNames.find? fun name => coreNamespace ++ name = iri with
  | some name => rfl
  | none => rfl

end Iteration

/-! ### Short names -/

/-- The preferred term of a full name is the least one that means it. -/
lemma preferredTerm_eq_some_iff : (ofDocuments documents).preferredTerm iri = some term ↔
    Means documents term iri ∧ ∀ other, Means documents other iri → other ≠ term → ComesBefore term other := by
  simp only [preferredTerm_eq_leastTerm, leastTerm_eq_some_iff, means_iff_mem_terms]

lemma preferredTerm_ofDocuments_eq_none_iff :
    (ofDocuments documents).preferredTerm iri = none ↔ ∀ term, ¬ Means documents term iri := by
  rw [preferredTerm_eq_none_iff]
  constructor
  · intro h term hmeans
    exact h (term, iri) (means_iff_mem_terms.1 hmeans) rfl
  · rintro h ⟨term, iri⟩ hmem rfl
    exact h term (means_iff_mem_terms.2 hmem)

/-- What follows the namespace is a short name just when it is a plain term behind the last namespace. -/
lemma bind_afterNamespace_eq_some_iff :
    ((ofDocuments documents).vocab.bind fun vocab => afterNamespace vocab iri) = some name ↔
      ∃ vocab, IsLastVocab documents vocab ∧ iri = vocab ++ name ∧ isPlainTerm name.toList = true := by
  rw [Option.bind_eq_some_iff]
  refine exists_congr fun vocab => ?_
  rw [vocab_ofDocuments_eq_some_iff, afterNamespace_eq_some_iff]

lemma compacts_compact (documents : List Document) (iri : String) :
    Compacts documents iri ((ofDocuments documents).compact iri) := by
  by_cases hne : ∀ name, isWellKnown name = true → iri ≠ coreNamespace ++ name
  · rw [compact_of_forall_ne _ hne]
    cases hterm : (ofDocuments documents).preferredTerm iri with
    | some term =>
      obtain ⟨hmeans, hleast⟩ := preferredTerm_eq_some_iff.1 hterm
      exact .term hne hmeans hleast
    | none =>
      have hnone := preferredTerm_ofDocuments_eq_none_iff.1 hterm
      cases hname : (ofDocuments documents).vocab.bind fun vocab => afterNamespace vocab iri with
      | some name =>
        obtain ⟨vocab, hvocab, rfl, hplain⟩ := bind_afterNamespace_eq_some_iff.1 hname
        exact .namespaced hne hnone hvocab hplain
      | none =>
        refine .itself hne hnone fun vocab name hvocab hiri => ?_
        by_contra hplain
        have hsome := bind_afterNamespace_eq_some_iff.2 ⟨vocab, hvocab, hiri, by simpa using hplain⟩
        rw [hname] at hsome
        cases hsome
  · push Not at hne
    obtain ⟨name, hknown, rfl⟩ := hne
    rw [compact_of_isWellKnown _ hknown]
    exact .wellKnown hknown

/-- There is one way to come to a short name. -/
lemma Compacts.unique (h : Compacts documents iri short) : (ofDocuments documents).compact iri = short := by
  cases h with
  | wellKnown hknown => exact compact_of_isWellKnown _ hknown
  | term hne hmeans hleast =>
    rw [compact_of_forall_ne _ hne, preferredTerm_eq_some_iff.2 ⟨hmeans, hleast⟩]
    rfl
  | namespaced hne hnone hvocab hplain =>
    rw [compact_of_forall_ne _ hne, preferredTerm_ofDocuments_eq_none_iff.2 hnone,
      bind_afterNamespace_eq_some_iff.2 ⟨_, hvocab, rfl, hplain⟩]
    rfl
  | itself hne hnone hother =>
    have hname : ((ofDocuments documents).vocab.bind fun vocab => afterNamespace vocab iri) = none := by
      refine Option.eq_none_iff_forall_ne_some.2 fun name hname => ?_
      obtain ⟨vocab, hvocab, hiri, hplain⟩ := bind_afterNamespace_eq_some_iff.1 hname
      rw [hother vocab name hvocab hiri] at hplain
      cases hplain
    rw [compact_of_forall_ne _ hne, preferredTerm_ofDocuments_eq_none_iff.2 hnone, hname]
    rfl

/-- **Short names do not depend on the order of the tables.**  Take any documents and any full name. In whatever order
the tables of the context are gone through, they give the same short name. It is the well-known name if the full name
is one in the core namespace. Otherwise it is the least term, by its number of bytes and then by its bytes, whose last
definition is expanded to the full name; if there is no such term, what follows the last namespace, when this is a
plain term; and else the full name itself. -/
theorem compact_iff_compacts (documents : List Document) (iri : String) :
    (∀ order : Iteration documents, order.compact iri = (ofDocuments documents).compact iri) ∧
      ∀ short, (ofDocuments documents).compact iri = short ↔ Compacts documents iri short := by
  refine ⟨fun order => order.compact_eq iri, fun short => ⟨?_, Compacts.unique⟩⟩
  rintro rfl
  exact compacts_compact documents iri

/-- The tables gone through from the end. -/
def Iteration.backward (documents : List Document) : Iteration documents where
  definitions := (Context.definitions documents).reverse
  definitions_perm := List.reverse_perm _
  terms := (Named.ofList ((Context.definitions documents).reverse.map fun entry =>
    (entry.1, expandDefinition (Context.definitions documents) entry.2))).reverse
  terms_perm := List.reverse_perm _

/-- A document in which three terms have one meaning in the end, two of them of the same length. One of these has
another meaning at first. -/
def threeTerms : Document where
  url := "https://e.org/c.jsonld"
  terms := [("sped", "https://e.org/v/other"), ("ex", "https://e.org/v/"), ("velocity", "https://e.org/v/speed"),
    ("sped", "ex:speed"), ("pace", "https://e.org/v/speed")]

/-- The tables give the same of them from the end, where it is met last, and from the beginning, where it is met
first. -/
theorem compact_iff_compacts_threeTerms :
    (Iteration.backward [threeTerms]).compact "https://e.org/v/speed" = "pace" ∧
      (ofDocuments [threeTerms]).compact "https://e.org/v/speed" = "pace" ∧
      Compacts [threeTerms] "https://e.org/v/speed" "pace" ∧
      Means [threeTerms] "sped" "https://e.org/v/speed" := by
  obtain ⟨horder, hcompacts⟩ := compact_iff_compacts [threeTerms] "https://e.org/v/speed"
  have hpace : (ofDocuments [threeTerms]).compact "https://e.org/v/speed" = "pace" := by decide +kernel
  have hsped : ("sped", "https://e.org/v/speed") ∈ (ofDocuments [threeTerms]).terms := by decide +kernel
  exact ⟨(horder _).trans hpace, hpace, (hcompacts _).1 hpace, means_iff_mem_terms.2 hsped⟩

end EntityHistory.Context
