/-
Definitions and names.

The definitions of a context are expanded once, when the context is made: a definition's prefix is replaced by
what is written for this prefix, and nothing else is done. A name is expanded later and by every rule, among the
terms as they are then: it may be well known, a term itself, or a name of the namespace, and its prefix stands
for what the prefix was expanded to. So a term is not always expanded as its definition is when the definition
is asked for as a name. The definitions that make the difference are those that are such a name, those with a
prefix that is defined through a prefix in its turn, and those that define their own prefix.

* `Context.expand_eq_ok_iff`: the ways in which a name is expanded;
* `Context.ReadOtherwise`: the definitions that mean something else when they are asked for as names;
* `Context.expand_eq_expand_definition_iff`: apart from these, a term is expanded as its definition is.
-/
import EntityHistory.Proofs.Context.Names

namespace EntityHistory

variable {documents : List Document} {c : Context} {name term definition before base iri vocab : String}
  {after : List Char}

lemma core_append_ne_self : coreNamespace ++ name ≠ name := by
  rw [ne_eq, String.append_eq_right_iff]
  decide

/-- A well-known name has no prefix. -/
lemma cutPrefix_of_isWellKnown (h : isWellKnown name = true) : cutPrefix name = none := by
  have hall : ∀ name ∈ wellKnownNames, cutPrefix name = none := by decide
  exact hall name (List.contains_iff_mem.1 h)

namespace Context

/-! ### The ways to expand a name -/

/-- How a name comes to its full name in a context. -/
inductive Reads (c : Context) (name : String) : String → Prop
  | wellKnown (hknown : isWellKnown name = true) : Reads c name (coreNamespace ++ name)
  | term {iri : String} (hknown : isWellKnown name = false) (hterm : Named.get? c.terms name = some iri) :
      Reads c name iri
  | address {before : String} {after : List Char} (hknown : isWellKnown name = false)
      (hterm : Named.get? c.terms name = none) (hcut : cutPrefix name = some (before, after))
      (haddress : isAddressPart after = true) : Reads c name name
  | prefixed {before base : String} {after : List Char} (hknown : isWellKnown name = false)
      (hterm : Named.get? c.terms name = none) (hcut : cutPrefix name = some (before, after))
      (haddress : isAddressPart after = false) (hbase : Named.get? c.terms before = some base) :
      Reads c name (base ++ String.ofList after)
  | urn {after : List Char} (hknown : isWellKnown name = false) (hterm : Named.get? c.terms name = none)
      (hcut : cutPrefix name = some ("urn", after)) (hbase : Named.get? c.terms "urn" = none) :
      Reads c name name
  | namespaced {vocab : String} (hknown : isWellKnown name = false) (hterm : Named.get? c.terms name = none)
      (hplain : isPlainTerm name.toList = true) (hvocab : c.vocab = some vocab) : Reads c name (vocab ++ name)

lemma reads_of_byPrefix (hknown : isWellKnown name = false) (hterm : Named.get? c.terms name = none)
    (hby : c.byPrefix name = some iri) : c.Reads name iri := by
  obtain ⟨⟨before, after⟩, hcut, h⟩ := Option.bind_eq_some_iff.1 hby
  dsimp only at h
  split at h
  · rename_i haddress
    obtain rfl := Option.some.inj h
    exact .address hknown hterm hcut haddress
  · rename_i haddress
    split at h
    · rename_i base hbase
      obtain rfl := Option.some.inj h
      exact .prefixed hknown hterm hcut (by simpa using haddress) hbase
    · rename_i hbase
      split at h
      · rename_i hurn
        subst hurn
        obtain rfl := Option.some.inj h
        exact .urn hknown hterm hcut hbase
      · cases h

lemma Reads.expand (h : c.Reads name iri) : c.expand name = .ok iri := by
  cases h with
  | wellKnown hknown => exact expand_of_isWellKnown c hknown
  | term hknown hterm => exact expand_of_get? hknown hterm
  | address hknown hterm hcut haddress => exact expand_of_isAddressPart hknown hterm hcut haddress
  | prefixed hknown hterm hcut haddress hbase =>
    refine expand_of_byPrefix hknown hterm ?_
    rw [byPrefix, hcut]
    simp [haddress, hbase]
  | urn hknown hterm hcut hbase =>
    refine expand_of_byPrefix hknown hterm ?_
    rw [byPrefix, hcut]
    simp [hbase]
  | namespaced hknown hterm hplain hvocab => exact expand_of_isPlainTerm hknown hterm hplain hvocab

lemma reads_of_expand (h : c.expand name = .ok iri) : c.Reads name iri := by
  cases hknown : isWellKnown name with
  | true =>
    rw [expand_of_isWellKnown c hknown] at h
    obtain rfl := Except.ok.inj h
    exact .wellKnown hknown
  | false =>
    cases hterm : Named.get? c.terms name with
    | some meaning =>
      rw [expand_of_get? hknown hterm] at h
      obtain rfl := Except.ok.inj h
      exact .term hknown hterm
    | none =>
      cases hby : c.byPrefix name with
      | some meaning =>
        rw [expand_of_byPrefix hknown hterm hby] at h
        obtain rfl := Except.ok.inj h
        exact reads_of_byPrefix hknown hterm hby
      | none =>
        cases hvocab : c.vocab with
        | none =>
          rw [expand_of_get?_eq_none hknown hterm, hby, hvocab] at h
          cases h
        | some vocab =>
          rw [expand_of_get?_eq_none hknown hterm, hby, hvocab] at h
          dsimp only at h
          split at h
          · rename_i hplain
            obtain rfl := Except.ok.inj h
            exact .namespaced hknown hterm hplain hvocab
          · cases h

/-- A name is expanded in one of these ways, if it can be expanded at all. -/
theorem expand_eq_ok_iff : c.expand name = .ok iri ↔ c.Reads name iri := ⟨reads_of_expand, Reads.expand⟩

/-! ### What a definition means where it stands -/

lemma expandDefinition_of_cutPrefix_eq_none {definitions : Named String} (h : cutPrefix definition = none) :
    expandDefinition definitions definition = definition := by
  rw [expandDefinition, h]

lemma expandDefinition_of_isAddressPart {definitions : Named String}
    (hcut : cutPrefix definition = some (before, after)) (haddress : isAddressPart after = true) :
    expandDefinition definitions definition = definition := by
  rw [expandDefinition, hcut]
  simp [haddress]

lemma expandDefinition_of_get?_eq_none {definitions : Named String}
    (hcut : cutPrefix definition = some (before, after)) (hbase : Named.get? definitions before = none) :
    expandDefinition definitions definition = definition := by
  rw [expandDefinition, hcut]
  simp [hbase]

/-- A definition that defines its own prefix stays as it is. -/
lemma expandDefinition_of_get?_self {definitions : Named String}
    (hcut : cutPrefix definition = some (before, after))
    (hbase : Named.get? definitions before = some definition) :
    expandDefinition definitions definition = definition := by
  rw [expandDefinition, hcut]
  simp [hbase]

lemma expandDefinition_of_get? {definitions : Named String}
    (hcut : cutPrefix definition = some (before, after)) (haddress : isAddressPart after = false)
    (hbase : Named.get? definitions before = some base) (hne : base ≠ definition) :
    expandDefinition definitions definition = base ++ String.ofList after := by
  rw [expandDefinition, hcut]
  simp [haddress, hbase, hne]

/-! ### The two meanings of a definition -/

lemma get?_terms_eq_some_iff : Named.get? (ofDocuments documents).terms name = some iri ↔
    ∃ definition, Named.get? (definitions documents) name = some definition ∧
      expandDefinition (definitions documents) definition = iri := by
  rw [get?_terms_ofDocuments, definitions, Named.get?_ofList, Option.map_eq_some_iff]

lemma get?_terms_eq_none_iff : Named.get? (ofDocuments documents).terms name = none ↔
    Named.get? (definitions documents) name = none := by
  rw [get?_terms_ofDocuments, definitions, Named.get?_ofList, Option.map_eq_none_iff]

/-- The definitions that mean something else when they are asked for as names. -/
inductive ReadOtherwise (documents : List Document) (definition : String) : Prop
  /-- A definition is not asked whether it is a well-known name. -/
  | wellKnown (hknown : isWellKnown definition = true) : ReadOtherwise documents definition
  /-- The definition is a term itself, and this term is expanded to something else. -/
  | term {other : String} (hknown : isWellKnown definition = false)
      (hother : Named.get? (definitions documents) definition = some other)
      (hne : expandDefinition (definitions documents) other ≠
        expandDefinition (definitions documents) definition) : ReadOtherwise documents definition
  /-- The prefix of the definition is defined through a prefix in its turn, which is not replaced. -/
  | chained {before base : String} {after : List Char} (hknown : isWellKnown definition = false)
      (hterm : Named.get? (definitions documents) definition = none)
      (hcut : cutPrefix definition = some (before, after)) (haddress : isAddressPart after = false)
      (hbase : Named.get? (definitions documents) before = some base) (hself : base ≠ definition)
      (hchain : expandDefinition (definitions documents) base ≠ base) : ReadOtherwise documents definition
  /-- The definition defines its own prefix, so that it stays as it is, but for a name the prefix counts. -/
  | itself {before : String} {after : List Char} (hknown : isWellKnown definition = false)
      (hterm : Named.get? (definitions documents) definition = none)
      (hcut : cutPrefix definition = some (before, after)) (haddress : isAddressPart after = false)
      (hbase : Named.get? (definitions documents) before = some definition) (hafter : after ≠ []) :
      ReadOtherwise documents definition
  /-- A definition is not a name of the namespace. -/
  | namespaced {vocab : String} (hknown : isWellKnown definition = false)
      (hterm : Named.get? (definitions documents) definition = none)
      (hplain : isPlainTerm definition.toList = true) (hvocab : (ofDocuments documents).vocab = some vocab)
      (hne : vocab ≠ "") : ReadOtherwise documents definition

/-- As a name, such a definition can be expanded, to something else. -/
lemma ReadOtherwise.exists_expand (h : ReadOtherwise documents definition) :
    ∃ iri, (ofDocuments documents).expand definition = .ok iri ∧
      expandDefinition (definitions documents) definition ≠ iri := by
  cases h with
  | wellKnown hknown =>
    refine ⟨_, expand_eq_ok_iff.2 (.wellKnown hknown), ?_⟩
    rw [expandDefinition_of_cutPrefix_eq_none (cutPrefix_of_isWellKnown hknown)]
    exact core_append_ne_self.symm
  | term hknown hother hne =>
    have hmeaning := get?_terms_eq_some_iff.2 ⟨_, hother, rfl⟩
    exact ⟨_, expand_eq_ok_iff.2 (.term hknown hmeaning), hne.symm⟩
  | chained hknown hterm hcut haddress hbase hself hchain =>
    have hnone := get?_terms_eq_none_iff.2 hterm
    have hmeaning := get?_terms_eq_some_iff.2 ⟨_, hbase, rfl⟩
    refine ⟨_, expand_eq_ok_iff.2 (.prefixed hknown hnone hcut haddress hmeaning), ?_⟩
    rw [expandDefinition_of_get? hcut haddress hbase hself, ne_eq, String.append_left_inj]
    exact hchain.symm
  | itself hknown hterm hcut haddress hbase hafter =>
    have hnone := get?_terms_eq_none_iff.2 hterm
    have hself := expandDefinition_of_get?_self hcut hbase
    have hmeaning := get?_terms_eq_some_iff.2 ⟨_, hbase, hself⟩
    refine ⟨_, expand_eq_ok_iff.2 (.prefixed hknown hnone hcut haddress hmeaning), ?_⟩
    rw [hself, ne_eq, eq_comm, String.append_eq_left_iff]
    simpa using hafter
  | namespaced hknown hterm hplain hvocab hne =>
    have hnone := get?_terms_eq_none_iff.2 hterm
    refine ⟨_, expand_eq_ok_iff.2 (.namespaced hknown hnone hplain hvocab), ?_⟩
    rw [expandDefinition_of_cutPrefix_eq_none (cutPrefix_of_isPlainTerm hplain), ne_eq, eq_comm,
      String.append_eq_right_iff]
    exact hne

/-- Any other definition that can be expanded as a name means the same in both places. -/
lemma readOtherwise_of_expand_ne (h : (ofDocuments documents).expand definition = .ok iri)
    (hne : expandDefinition (definitions documents) definition ≠ iri) : ReadOtherwise documents definition := by
  cases expand_eq_ok_iff.1 h with
  | wellKnown hknown => exact .wellKnown hknown
  | term hknown hterm =>
    obtain ⟨other, hother, rfl⟩ := get?_terms_eq_some_iff.1 hterm
    exact .term hknown hother hne.symm
  | address hknown hterm hcut haddress => exact absurd (expandDefinition_of_isAddressPart hcut haddress) hne
  | urn hknown hterm hcut hbase =>
    exact absurd (expandDefinition_of_get?_eq_none hcut (get?_terms_eq_none_iff.1 hbase)) hne
  | prefixed hknown hterm hcut haddress hmeaning =>
    obtain ⟨base, hbase, rfl⟩ := get?_terms_eq_some_iff.1 hmeaning
    by_cases hself : base = definition
    · -- where it stands the definition is left alone, so that it is the same only if nothing comes after the colon
      subst hself
      refine .itself hknown (get?_terms_eq_none_iff.1 hterm) hcut haddress hbase ?_
      rintro rfl
      rw [expandDefinition_of_get?_self hcut hbase, String.ofList_nil, String.append_empty] at hne
      exact hne rfl
    · refine .chained hknown (get?_terms_eq_none_iff.1 hterm) hcut haddress hbase hself fun hchain => hne ?_
      rw [expandDefinition_of_get? hcut haddress hbase hself, hchain]
  | namespaced hknown hterm hplain hvocab =>
    refine .namespaced hknown (get?_terms_eq_none_iff.1 hterm) hplain hvocab ?_
    rintro rfl
    rw [expandDefinition_of_cutPrefix_eq_none (cutPrefix_of_isPlainTerm hplain), String.empty_append] at hne
    exact hne rfl

/-- **A term and its definition.**  Take the context of any documents and a term that is not a well-known name,
and suppose that the last definition of the term can be expanded as a name. The term can be expanded, and it is
expanded to the same just when the definition is not one of those that are read otherwise as names. -/
theorem expand_eq_expand_definition_iff (documents : List Document) (hknown : isWellKnown term = false)
    (hlast : Named.lastValue? (documents.flatMap Document.terms) term = some definition)
    (h : (ofDocuments documents).expand definition = .ok iri) :
    ∃ meaning, (ofDocuments documents).expand term = .ok meaning ∧
      (meaning = iri ↔ ¬ ReadOtherwise documents definition) := by
  have hterm : Named.get? (ofDocuments documents).terms term =
      some (expandDefinition (definitions documents) definition) := by
    rw [get?_terms_ofDocuments, hlast, Option.map_some]
  refine ⟨_, expand_of_get? hknown hterm, ?_, ?_⟩
  · rintro rfl hother
    obtain ⟨iri, hiri, hne⟩ := hother.exists_expand
    exact hne (Except.ok.inj (h.symm.trans hiri))
  · intro hread
    by_contra hne
    exact hread (readOtherwise_of_expand_ne h hne)

/-- Two documents, where the first one uses a prefix that only the second one defines. -/
def prefixDefinedLater : List Document :=
  [{ url := "https://e.org/terms.jsonld", terms := [("speed", "ex:speed")] },
    { url := "https://e.org/prefixes.jsonld", terms := [("ex", "https://e.org/v/")] }]

/-- The order of the documents is no matter. -/
theorem expand_eq_expand_definition_prefixDefinedLater :
    isWellKnown "speed" = false ∧
      Named.lastValue? (prefixDefinedLater.flatMap Document.terms) "speed" = some "ex:speed" ∧
      (ofDocuments prefixDefinedLater).expand "ex:speed" = .ok "https://e.org/v/speed" ∧
      (ofDocuments prefixDefinedLater).expand "speed" = .ok "https://e.org/v/speed" ∧
      ¬ ReadOtherwise prefixDefinedLater "ex:speed" := by
  have hknown : isWellKnown "speed" = false := rfl
  have hlast : Named.lastValue? (prefixDefinedLater.flatMap Document.terms) "speed" = some "ex:speed" := rfl
  have hdefinition : (ofDocuments prefixDefinedLater).expand "ex:speed" = .ok "https://e.org/v/speed" := rfl
  obtain ⟨meaning, hmeaning, hiff⟩ :=
    expand_eq_expand_definition_iff prefixDefinedLater hknown hlast hdefinition
  have hterm : (ofDocuments prefixDefinedLater).expand "speed" = .ok "https://e.org/v/speed" := rfl
  obtain rfl : "https://e.org/v/speed" = meaning := Except.ok.inj (hterm.symm.trans hmeaning)
  exact ⟨hknown, hlast, hdefinition, hterm, hiff.1 rfl⟩

/-- A document with a prefix that is defined through another one. -/
def prefixOfPrefix : Document where
  url := "https://e.org/c.jsonld"
  terms := [("ex", "https://e.org/"), ("v", "ex:v/"), ("speed", "v:speed")]

/-- The definition `v:speed` is expanded to an address as a name, but the term that it defines is not. -/
theorem exists_expand_ne_expand_definition :
    isWellKnown "speed" = false ∧
      Named.lastValue? ([prefixOfPrefix].flatMap Document.terms) "speed" = some "v:speed" ∧
      (ofDocuments [prefixOfPrefix]).expand "v:speed" = .ok "https://e.org/v/speed" ∧
      (ofDocuments [prefixOfPrefix]).expand "speed" = .ok "ex:v/speed" :=
  ⟨rfl, rfl, rfl, rfl⟩

end Context

end EntityHistory
