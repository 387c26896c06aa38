/-
Short names and full names.

A context gives a full name back as a short one: as a well-known name, as the preferred one of the terms that
mean it, or as what follows the namespace. Expanding asks in another order, the well-known names first, then
the terms, and the namespace last. So a term that is called as a well-known name is never expanded as this
term, and neither is a name of the namespace that is also a term. A full name whose short name is taken in
such a way is hidden; every other one is given back when its short name is expanded.

* `Context.get?_terms_ofDocuments`: the meaning of a term in the context of several documents;
* `Context.mem_terms_of_preferredTerm`: the preferred term of a full name means it;
* `Context.expand_compact`: when expanding undoes compacting.
-/
import Mathlib.Data.List.Basic
import Mathlib.Tactic.Lemma
import EntityHistory.Context.Names
import EntityHistory.Proofs.Named

namespace EntityHistory

open Text

variable {documents : List Document} {c : Context} {name iri term vocab : String}

/-! ### Well-known names and plain terms -/

lemma core_append_inj : coreNamespace ++ name = coreNamespace ++ term ↔ name = term := by
  rw [← String.toList_inj, String.toList_append, String.toList_append, List.append_right_inj, String.toList_inj]

lemma isAlphanumeric_colon : Unicode.isAlphanumeric ':' = false := by
  have hascii : ':'.toNat < 128 := by decide
  rw [Unicode.isAlphanumeric, if_pos hascii]
  decide

lemma not_mem_of_isPlainTerm {cs : List Char} (h : isPlainTerm cs = true) : ':' ∉ cs := by
  intro hmem
  rw [isPlainTerm, Bool.and_eq_true, List.all_eq_true] at h
  have hcolon := h.2 ':' hmem
  rw [isAlphanumeric_colon] at hcolon
  exact absurd hcolon (by decide)

/-- A plain term has no prefix. -/
lemma cutPrefix_of_isPlainTerm (h : isPlainTerm name.toList = true) : cutPrefix name = none := by
  have hcut : cutOnce ':' name.toList = none := by
    cases hcut : cutOnce ':' name.toList with
    | none => rfl
    | some parts =>
      have hmem : ':' ∈ name.toList := by
        rw [eq_of_cutOnce hcut]
        simp
      exact absurd hmem (not_mem_of_isPlainTerm h)
  rw [cutPrefix, hcut, Option.map_none]

namespace Context

/-! ### The terms of a context -/

lemma sorted_terms_ofDocuments (documents : List Document) : Named.Sorted (ofDocuments documents).terms :=
  (Named.sorted_ofList _).map fun _ => expandDefinition (definitions documents)

/-- A term means what its last definition stands for. -/
theorem get?_terms_ofDocuments (documents : List Document) (name : String) :
    Named.get? (ofDocuments documents).terms name =
      (Named.lastValue? (documents.flatMap Document.terms) name).map
        (expandDefinition (definitions documents)) := by
  rw [← Named.get?_ofList]
  exact Named.get?_map fun _ => expandDefinition (definitions documents)

/-! ### Expanding -/

lemma expand_of_isWellKnown (c : Context) (h : isWellKnown name = true) :
    c.expand name = .ok (coreNamespace ++ name) := by
  rw [expand, if_pos h]
  rfl

lemma expand_of_get? (hknown : isWellKnown name = false) (h : Named.get? c.terms name = some iri) :
    c.expand name = .ok iri := by
  rw [expand, if_neg (by simp [hknown]), h]
  rfl

/-- What a name means by its prefix, if it has one that counts. -/
def byPrefix (c : Context) (name : String) : Option String :=
  (cutPrefix name).bind fun (before, after) =>
    if isAddressPart after then some name
    else
      match Named.get? c.terms before with
      | some base => some (base ++ String.ofList after)
      | none => if before = "urn" then some name else none

section NoTerm

variable (hknown : isWellKnown name = false) (hterm : Named.get? c.terms name = none)

include hknown hterm

/-- A name that is neither well known nor a term is expanded by its prefix, or else it is put after the
namespace. -/
lemma expand_of_get?_eq_none : c.expand name =
    match c.byPrefix name, c.vocab with
    | some iri, _ => .ok iri
    | none, some vocab => if isPlainTerm name.toList then .ok (vocab ++ name) else .error (.unknownName name)
    | none, none => .error (.unknownName name) := by
  rw [expand, if_neg (by simp [hknown]), hterm]
  rfl

lemma expand_of_byPrefix (hby : c.byPrefix name = some iri) : c.expand name = .ok iri := by
  rw [expand_of_get?_eq_none hknown hterm, hby]

lemma expand_of_isPlainTerm (hplain : isPlainTerm name.toList = true) (hvocab : c.vocab = some vocab) :
    c.expand name = .ok (vocab ++ name) := by
  have hby : c.byPrefix name = none := by rw [byPrefix, cutPrefix_of_isPlainTerm hplain, Option.bind_none]
  rw [expand_of_get?_eq_none hknown hterm, hby, hvocab]
  exact if_pos hplain

/-- An address is a full name. -/
lemma expand_of_isAddressPart {before : String} {after : List Char} (hcut : cutPrefix name = some (before, after))
    (haddress : isAddressPart after = true) : c.expand name = .ok name := by
  refine expand_of_byPrefix hknown hterm ?_
  rw [byPrefix, hcut]
  exact if_pos haddress

end NoTerm

/-! ### Compacting -/

/-- One of two terms of the same meaning, if there is one yet. -/
def better (best : Option String) (entry : String × String) : Option String :=
  match best with
  | none => some entry.1
  | some best => if isPreferred entry.1 best then some entry.1 else some best

lemma foldl_better_eq_some {entries : List (String × String)} {best : Option String}
    (h : entries.foldl better best = some term) : best = some term ∨ ∃ entry ∈ entries, entry.1 = term := by
  induction entries generalizing best with
  | nil => exact Or.inl h
  | cons entry entries ih =>
    rcases ih h with hbest | ⟨other, hmem, hother⟩
    · unfold better at hbest
      split at hbest
      · exact Or.inr ⟨entry, by simp, Option.some.inj hbest⟩
      · split at hbest
        · exact Or.inr ⟨entry, by simp, Option.some.inj hbest⟩
        · exact Or.inl hbest
    · exact Or.inr ⟨other, List.mem_cons_of_mem entry hmem, hother⟩

lemma isSome_foldl_better (entries : List (String × String)) (first : String) :
    (entries.foldl better (some first)).isSome = true := by
  induction entries generalizing first with
  | nil => rfl
  | cons entry entries ih =>
    rw [List.foldl_cons, better]
    split
    · exact ih entry.1
    · exact ih first

lemma preferredTerm_eq (c : Context) (iri : String) :
    c.preferredTerm iri = (c.terms.filter fun entry => entry.2 = iri).foldl better none := rfl

/-- The preferred term of a full name is one of the terms that mean it. -/
theorem mem_terms_of_preferredTerm (h : c.preferredTerm iri = some term) : (term, iri) ∈ c.terms := by
  rw [preferredTerm_eq] at h
  rcases foldl_better_eq_some h with h | ⟨entry, hmem, rfl⟩
  · cases h
  · obtain ⟨hmem, hiri⟩ := List.mem_filter.1 hmem
    rw [← of_decide_eq_true hiri]
    exact hmem

lemma preferredTerm_eq_none_iff : c.preferredTerm iri = none ↔ ∀ entry ∈ c.terms, entry.2 ≠ iri := by
  have hfilter : (c.terms.filter fun entry => entry.2 = iri) = [] ↔ ∀ entry ∈ c.terms, entry.2 ≠ iri := by
    rw [List.filter_eq_nil_iff]
    simp
  rw [← hfilter, preferredTerm_eq]
  cases c.terms.filter fun entry => entry.2 = iri with
  | nil => simp
  | cons entry entries =>
    have hsome : ((entry :: entries).foldl better none).isSome = true := isSome_foldl_better entries entry.1
    rw [← Option.isNone_iff_eq_none, ← Option.not_isSome, hsome]
    simp

/-- A well-known name is what its full name is compacted to, whatever the documents define. -/
lemma compact_of_isWellKnown (c : Context) (h : isWellKnown name = true) :
    c.compact (coreNamespace ++ name) = name := by
  rw [compact]
  split
  · rename_i other hfind
    have hother := List.find?_some hfind
    exact core_append_inj.1 (of_decide_eq_true hother)
  · rename_i hfind
    have hne := List.find?_eq_none.1 hfind name (List.contains_iff_mem.1 h)
    simp at hne

lemma compact_of_forall_ne (c : Context) (h : ∀ name, isWellKnown name = true → iri ≠ coreNamespace ++ name) :
    c.compact iri =
      (c.preferredTerm iri).getD ((c.vocab.bind fun vocab => afterNamespace vocab iri).getD iri) := by
  have hfind : (wellKnownNames.find? fun name => coreNamespace ++ name = iri) = none := by
    refine List.find?_eq_none.2 fun name hname heq => ?_
    exact h name (List.contains_iff_mem.2 hname) (of_decide_eq_true heq).symm
  rw [compact, hfind]
  cases c.preferredTerm iri <;> rfl

lemma afterNamespace_eq_some_iff : afterNamespace vocab iri = some name ↔
    iri = vocab ++ name ∧ isPlainTerm name.toList = true := by
  rw [afterNamespace]
  constructor
  · intro h
    split at h
    · rename_i rest hrest
      split at h
      · rename_i hplain
        obtain rfl := Option.some.inj h
        refine ⟨?_, by simpa using hplain⟩
        rw [← String.toList_inj, String.toList_append, String.toList_ofList]
        exact afterPhrase_eq_some_iff.1 hrest
      · cases h
    · cases h
  · rintro ⟨rfl, hplain⟩
    have hrest : afterPhrase vocab.toList (vocab ++ name).toList = some name.toList := by
      rw [afterPhrase_eq_some_iff, String.toList_append]
    rw [hrest]
    simp [hplain]

/-! ### Expanding what has been compacted -/

/-- The short name that a context has for a full name means something else there: it is a term that is called
as a well-known name, or it is a name of the namespace that is also a term or a well-known name. -/
structure Hides (c : Context) (iri : String) : Prop where
  /-- Full names of well-known names are never hidden. -/
  ne : ∀ name, isWellKnown name = true → iri ≠ coreNamespace ++ name
  taken : (∃ term, c.preferredTerm iri = some term ∧ isWellKnown term = true) ∨
    (∀ entry ∈ c.terms, entry.2 ≠ iri) ∧ ∃ vocab name, c.vocab = some vocab ∧ iri = vocab ++ name ∧
      isPlainTerm name.toList = true ∧ (isWellKnown name = true ∨ ∃ other, Named.get? c.terms name = some other)

section Hiding

variable (hne : ∀ name, isWellKnown name = true → iri ≠ coreNamespace ++ name)

include hne

/-- The preferred term of a full name hides it just when it is called as a well-known name. -/
lemma exists_expand_of_preferredTerm (hsorted : Named.Sorted c.terms) (hterm : c.preferredTerm iri = some term) :
    ∃ meaning, c.expand term = .ok meaning ∧ (meaning = iri ↔ ¬ c.Hides iri) := by
  have hmem : (term, iri) ∈ c.terms := mem_terms_of_preferredTerm hterm
  cases hknown : isWellKnown term with
  | true =>
    refine ⟨coreNamespace ++ term, expand_of_isWellKnown c hknown, ?_⟩
    exact iff_of_false (Ne.symm (hne term hknown)) (not_not_intro ⟨hne, Or.inl ⟨term, hterm, hknown⟩⟩)
  | false =>
    refine ⟨iri, expand_of_get? hknown (hsorted.get?_eq_some_iff.2 hmem), iff_of_true rfl ?_⟩
    rintro ⟨-, ⟨other, hother, hotherKnown⟩ | ⟨hnone, -⟩⟩
    · rw [hterm] at hother
      rw [Option.some.inj hother, hotherKnown] at hknown
      cases hknown
    · exact hnone _ hmem rfl

/-- A name of the namespace hides its full name just when it is also a term or a well-known name. -/
lemma exists_expand_of_namespace (hsorted : Named.Sorted c.terms) (hnone : ∀ entry ∈ c.terms, entry.2 ≠ iri)
    (hvocab : c.vocab = some vocab) (hiri : iri = vocab ++ name) (hplain : isPlainTerm name.toList = true) :
    ∃ meaning, c.expand name = .ok meaning ∧ (meaning = iri ↔ ¬ c.Hides iri) := by
  have hides (htaken : isWellKnown name = true ∨ ∃ other, Named.get? c.terms name = some other) : c.Hides iri :=
    ⟨hne, Or.inr ⟨hnone, vocab, name, hvocab, hiri, hplain, htaken⟩⟩
  cases hknown : isWellKnown name with
  | true =>
    refine ⟨coreNamespace ++ name, expand_of_isWellKnown c hknown, ?_⟩
    exact iff_of_false (Ne.symm (hne name hknown)) (not_not_intro (hides (Or.inl hknown)))
  | false =>
    cases hterm : Named.get? c.terms name with
    | some other =>
      refine ⟨other, expand_of_get? hknown hterm, ?_⟩
      have hother : other ≠ iri := hnone _ (hsorted.get?_eq_some_iff.1 hterm)
      exact iff_of_false hother (not_not_intro (hides (Or.inr ⟨other, hterm⟩)))
    | none =>
      refine ⟨vocab ++ name, expand_of_isPlainTerm hknown hterm hplain hvocab, iff_of_true hiri.symm ?_⟩
      rintro ⟨-, ⟨other, hother, -⟩ | ⟨-, vocab', name', hvocab', hiri', -, htaken⟩⟩
      · exact hnone _ (mem_terms_of_preferredTerm hother) rfl
      · -- the namespace is the same, so the name is
        obtain rfl : vocab = vocab' := Option.some.inj (hvocab.symm.trans hvocab')
        obtain rfl : name = name' := by
          have heq := hiri.symm.trans hiri'
          rwa [← String.toList_inj, String.toList_append, String.toList_append, List.append_right_inj,
            String.toList_inj] at heq
        rcases htaken with hknown' | ⟨other, hother⟩
        · rw [hknown'] at hknown
          cases hknown
        · rw [hterm] at hother
          cases hother

end Hiding

/-- **When expanding undoes compacting.**  Take the context of any documents and a full name that expanding
leaves as it is. The short name to which it is compacted can be expanded, and it is expanded to the full name
just when the context does not hide it. -/
theorem expand_compact (documents : List Document) (iri : String)
    (h : (ofDocuments documents).expand iri = .ok iri) :
    ∃ meaning, (ofDocuments documents).expand ((ofDocuments documents).compact iri) = .ok meaning ∧
      (meaning = iri ↔ ¬ (ofDocuments documents).Hides iri) := by
  have hsorted := sorted_terms_ofDocuments documents
  revert h hsorted
  generalize ofDocuments documents = c
  intro h hsorted
  by_cases hne : ∀ name, isWellKnown name = true → iri ≠ coreNamespace ++ name
  · rw [compact_of_forall_ne c hne]
    cases hterm : c.preferredTerm iri with
    | some term => exact exists_expand_of_preferredTerm hne hsorted hterm
    | none =>
      have hnone := preferredTerm_eq_none_iff.1 hterm
      cases hname : c.vocab.bind fun vocab => afterNamespace vocab iri with
      | some name =>
        obtain ⟨vocab, hvocab, hafter⟩ := Option.bind_eq_some_iff.1 hname
        obtain ⟨hiri, hplain⟩ := afterNamespace_eq_some_iff.1 hafter
        exact exists_expand_of_namespace hne hsorted hnone hvocab hiri hplain
      | none =>
        -- the full name stays as it is
        refine ⟨iri, h, iff_of_true rfl ?_⟩
        rintro ⟨-, ⟨term, hother, -⟩ | ⟨-, vocab, name, hvocab, hiri, hplain, -⟩⟩
        · rw [hterm] at hother
          cases hother
        · have hafter := Option.bind_eq_none_iff.1 hname vocab hvocab
          rw [afterNamespace_eq_some_iff.2 ⟨hiri, hplain⟩] at hafter
          cases hafter
  · push Not at hne
    obtain ⟨name, hknown, rfl⟩ := hne
    rw [compact_of_isWellKnown c hknown]
    refine ⟨_, expand_of_isWellKnown c hknown, iff_of_true rfl ?_⟩
    exact fun hides => hides.ne name hknown rfl

/-- A document with two terms for one full name, one of them with a prefix, and with the namespace of the full
name. -/
def twoTerms : Document where
  url := "https://e.org/c.jsonld"
  terms := [("ex", "https://e.org/v/"), ("velocity", "https://e.org/v/speed"), ("speed", "ex:speed")]
  vocab := some "https://e.org/v/"

lemma expand_twoTerms :
    (ofDocuments [twoTerms]).expand "https://e.org/v/speed" = .ok "https://e.org/v/speed" :=
  expand_of_isAddressPart rfl rfl rfl rfl

lemma compact_twoTerms : (ofDocuments [twoTerms]).compact "https://e.org/v/speed" = "speed" := rfl

/-- The shorter term is preferred, and it is expanded to the full name through its prefix. -/
theorem expand_compact_twoTerms :
    (ofDocuments [twoTerms]).expand "https://e.org/v/speed" = .ok "https://e.org/v/speed" ∧
      (ofDocuments [twoTerms]).expand ((ofDocuments [twoTerms]).compact "https://e.org/v/speed") =
        .ok "https://e.org/v/speed" ∧
      ¬ (ofDocuments [twoTerms]).Hides "https://e.org/v/speed" := by
  obtain ⟨meaning, hmeaning, hiff⟩ := expand_compact [twoTerms] "https://e.org/v/speed" expand_twoTerms
  have hspeed : (ofDocuments [twoTerms]).expand "speed" = .ok "https://e.org/v/speed" :=
    expand_of_get? rfl rfl
  rw [compact_twoTerms, hspeed] at hmeaning
  obtain rfl : "https://e.org/v/speed" = meaning := Except.ok.inj hmeaning
  exact ⟨expand_twoTerms, compact_twoTerms.symm ▸ hspeed, hiff.1 rfl⟩

/-- A document with a term that is also a name of its namespace and with a term that is called as a well-known
name. -/
def shadowingTerms : Document where
  url := "https://e.org/c.jsonld"
  terms := [("speed", "https://other.org/speed"), ("location", "https://other.org/location")]
  vocab := some "https://e.org/v/"

/-- The first term hides the name of the namespace, and the second one hides what it means itself. -/
theorem exists_expand_compact_ne :
    ((ofDocuments [shadowingTerms]).expand "https://e.org/v/speed" = .ok "https://e.org/v/speed" ∧
      (ofDocuments [shadowingTerms]).compact "https://e.org/v/speed" = "speed" ∧
      (ofDocuments [shadowingTerms]).expand "speed" = .ok "https://other.org/speed") ∧
    (ofDocuments [shadowingTerms]).expand "https://other.org/location" = .ok "https://other.org/location" ∧
      (ofDocuments [shadowingTerms]).compact "https://other.org/location" = "location" ∧
      (ofDocuments [shadowingTerms]).expand "location" = .ok "https://uri.etsi.org/ngsi-ld/location" := by
  refine ⟨⟨expand_of_isAddressPart rfl rfl rfl rfl, rfl, expand_of_get? rfl rfl⟩,
    expand_of_isAddressPart rfl rfl rfl rfl, rfl, ?_⟩
  exact expand_of_isWellKnown _ rfl

end Context

end EntityHistory
