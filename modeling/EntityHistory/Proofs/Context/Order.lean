/-
The order of effect.

A document takes effect after those that it refers to, and each one takes effect once, where it is met first.
So the document that is listed last takes effect last when no address listed before reaches it by references.
Otherwise it takes effect where it is met, and a document that is listed before it may replace its definitions.

* `Adds`: what gathering from some addresses adds to what has been gathered;
* `exists_adds_gather`, `exists_adds_foldlM`: what one step and a run over a list add;
* `exists_listedLast`: what takes effect after the document listed last;
* `Cache.expand_resolveAll_iff`: when its definition of a term counts.
-/
import Mathlib.Logic.Relation
import EntityHistory.Proofs.Context.Cache
import EntityHistory.Proofs.Context.Names

namespace EntityHistory

variable {load : String → Except ContextFault Json} {urls urls' : List String} {url other last term iri : String}
  {document : Document} {documents new new' after : List Document} {g g' g'' : Gathered}

/-! ### Specification -/

/-- The documents of several addresses and of all that they refer to, in their order of effect. -/
def documentsInEffect (load : String → Except ContextFault Json) (urls : List String) :
    Except Error (List Document) := do
  let g ← urls.foldlM (gather (Document.fetched load) longestChain) {}
  pure g.documents

/-- The document at one address refers to another. -/
def Refers (load : String → Except ContextFault Json) (url other : String) : Prop :=
  ∃ document, Document.fetched load url = .ok document ∧ other ∈ document.imports

/-- An address is found from another by following references. -/
def Reaches (load : String → Except ContextFault Json) : String → String → Prop :=
  Relation.ReflTransGen (Refers load)

/-- A full name that a context takes as it is: an address, or a name whose prefix is no term. -/
def Context.IsAbsolute (c : Context) (iri : String) : Prop :=
  ∃ before rest, cutPrefix iri = some (before, rest) ∧
    (isAddressPart rest = true ∨ Named.get? c.terms before = none)

/-- Among the documents in effect is the one of the address that is listed last, behind some others. -/
structure ListedLast (load : String → Except ContextFault Json) (urls : List String) (last : String)
    (documents : List Document) (document : Document) (after : List Document) : Prop where
  fetched : Document.fetched load last = .ok document
  documents_eq : ∃ before, documents = before ++ document :: after
  /-- What takes effect after it is reached from the addresses listed before. -/
  reached : ∀ d ∈ after, ∃ url ∈ urls, ∃ other, Reaches load url other ∧ Document.fetched load other = .ok d
  /-- It takes effect last when none of them reaches it. -/
  eq_nil : (∀ url ∈ urls, ¬ Reaches load url last) → after = []
  /-- Otherwise one of those that reach it takes effect after it. -/
  overtaken : last ∉ urls → (∃ url ∈ urls, Reaches load url last) →
    ∃ url ∈ urls, Reaches load url last ∧ ∃ d ∈ after, Document.fetched load url = .ok d

/-! ### What gathering adds -/

/-- Gathering from some addresses has added some documents: those of the addresses that were met on the way. -/
structure Adds (load : String → Except ContextFault Json) (urls : List String) (g : Gathered)
    (new : List Document) (g' : Gathered) : Prop where
  documents_eq : g'.documents = g.documents ++ new
  seen_subset : g.seen ⊆ g'.seen
  urls_subset : urls ⊆ g'.seen
  reached : ∀ other ∈ g'.seen, other ∉ g.seen → ∃ url ∈ urls, Reaches load url other
  /-- References from an address that was met have been followed. -/
  followed : ∀ other ∈ g'.seen, other ∉ g.seen → ∀ next, Refers load other next → next ∈ g'.seen
  fetched : ∀ other ∈ g'.seen, other ∉ g.seen → ∃ d ∈ new, Document.fetched load other = .ok d
  isNew : ∀ d ∈ new, ∃ other ∈ g'.seen, other ∉ g.seen ∧ Document.fetched load other = .ok d

namespace Adds

/-- Every document that is added is reached from one of the addresses. -/
lemma reached_of_mem (h : Adds load urls g new g') (hd : document ∈ new) :
    ∃ url ∈ urls, ∃ other, Reaches load url other ∧ Document.fetched load other = .ok document := by
  obtain ⟨other, hmem, hnot, hfetched⟩ := h.isNew document hd
  obtain ⟨url, hurl, hreach⟩ := h.reached other hmem hnot
  exact ⟨url, hurl, other, hreach, hfetched⟩

/-- What has been gathered from nothing is closed under references. -/
lemma mem_seen_of_reaches (h : Adds load urls {} new g') (hurl : url ∈ g'.seen) (hreach : Reaches load url other) :
    other ∈ g'.seen := by
  induction hreach with
  | refl => exact hurl
  | tail _ hnext ih => exact h.followed _ ih List.not_mem_nil _ hnext

/-- Addresses that were all met before add nothing. -/
lemma of_subset (h : urls ⊆ g.seen) : Adds load urls g [] g where
  documents_eq := (List.append_nil _).symm
  seen_subset := List.Subset.refl _
  urls_subset := h
  reached _ hmem hnot := absurd hmem hnot
  followed _ hmem hnot := absurd hmem hnot
  fetched _ hmem hnot := absurd hmem hnot
  isNew _ hd := nomatch hd

lemma append (h : Adds load urls g new g') (h' : Adds load urls' g' new' g'') :
    Adds load (urls ++ urls') g (new ++ new') g'' where
  documents_eq := by rw [h'.documents_eq, h.documents_eq, List.append_assoc]
  seen_subset := List.Subset.trans h.seen_subset h'.seen_subset
  urls_subset := List.append_subset.2 ⟨List.Subset.trans h.urls_subset h'.seen_subset, h'.urls_subset⟩
  reached other hmem hnot := by
    by_cases hbetween : other ∈ g'.seen
    · obtain ⟨url, hurl, hreach⟩ := h.reached other hbetween hnot
      exact ⟨url, List.mem_append_left _ hurl, hreach⟩
    · obtain ⟨url, hurl, hreach⟩ := h'.reached other hmem hbetween
      exact ⟨url, List.mem_append_right _ hurl, hreach⟩
  followed other hmem hnot next hnext := by
    by_cases hbetween : other ∈ g'.seen
    · exact h'.seen_subset (h.followed other hbetween hnot next hnext)
    · exact h'.followed other hmem hbetween next hnext
  fetched other hmem hnot := by
    by_cases hbetween : other ∈ g'.seen
    · obtain ⟨d, hd, hfetched⟩ := h.fetched other hbetween hnot
      exact ⟨d, List.mem_append_left _ hd, hfetched⟩
    · obtain ⟨d, hd, hfetched⟩ := h'.fetched other hmem hbetween
      exact ⟨d, List.mem_append_right _ hd, hfetched⟩
  isNew d hd := by
    rcases List.mem_append.1 hd with hd | hd
    · obtain ⟨other, hmem, hnot, hfetched⟩ := h.isNew d hd
      exact ⟨other, h'.seen_subset hmem, hnot, hfetched⟩
    · obtain ⟨other, hmem, hnot, hfetched⟩ := h'.isNew d hd
      exact ⟨other, hmem, fun hold => hnot (h.seen_subset hold), hfetched⟩

/-- A document comes after what its references add. -/
lemma snoc (hnot : url ∉ g.seen) (hfetched : Document.fetched load url = .ok document)
    (h : Adds load document.imports { g with seen := url :: g.seen } new g') :
    Adds load [url] g (new ++ [document]) { g' with documents := g'.documents ++ [document] } where
  documents_eq := by rw [h.documents_eq, List.append_assoc]
  seen_subset := List.Subset.trans (List.subset_cons_self _ _) h.seen_subset
  urls_subset := List.cons_subset.2 ⟨h.seen_subset List.mem_cons_self, List.nil_subset _⟩
  reached other hmem hother := by
    refine ⟨url, List.mem_singleton_self url, ?_⟩
    by_cases heq : other = url
    · exact heq ▸ Relation.ReflTransGen.refl
    · obtain ⟨next, hnext, hreach⟩ := h.reached other hmem (by simp [heq, hother])
      exact hreach.head ⟨document, hfetched, hnext⟩
  followed other hmem hother next hnext := by
    by_cases heq : other = url
    · obtain ⟨document', hfetched', hnext⟩ := hnext
      rw [heq, hfetched] at hfetched'
      rw [← Except.ok.inj hfetched'] at hnext
      exact h.urls_subset hnext
    · exact h.followed other hmem (by simp [heq, hother]) next hnext
  fetched other hmem hother := by
    by_cases heq : other = url
    · exact ⟨document, by simp, heq ▸ hfetched⟩
    · obtain ⟨d, hd, hd'⟩ := h.fetched other hmem (by simp [heq, hother])
      exact ⟨d, List.mem_append_left _ hd, hd'⟩
  isNew d hd := by
    rcases List.mem_append.1 hd with hd | hd
    · obtain ⟨other, hmem, hother, hd'⟩ := h.isNew d hd
      exact ⟨other, hmem, fun hold => hother (List.mem_cons_of_mem _ hold), hd'⟩
    · rw [List.mem_singleton.1 hd]
      exact ⟨url, h.seen_subset List.mem_cons_self, hnot, hfetched⟩

end Adds

/-- Folding over a list adds what its steps add. -/
lemma exists_adds_foldlM {step : Gathered → String → Except Error Gathered}
    (hstep : ∀ (g : Gathered) (url : String) (g' : Gathered), step g url = .ok g' → ∃ new, Adds load [url] g new g')
    (h : urls.foldlM step g = .ok g') : ∃ new, Adds load urls g new g' := by
  induction urls generalizing g with
  | nil =>
    obtain rfl : g = g' := Except.ok.inj h
    exact ⟨[], Adds.of_subset (List.nil_subset _)⟩
  | cons url urls ih =>
    rw [List.foldlM_cons] at h
    obtain ⟨g'', hfirst, hrest⟩ := exists_of_bind_eq_ok h
    obtain ⟨new, hnew⟩ := hstep g url g'' hfirst
    obtain ⟨new', hnew'⟩ := ih hrest
    exact ⟨new ++ new', hnew.append hnew'⟩

/-- A step leaves what has been gathered when the address has been met. Otherwise the references of its document
are followed, and then the document takes its place. -/
lemma gather_cases {depth : Nat} (h : gather (Document.fetched load) (depth + 1) g url = .ok g') :
    (url ∈ g.seen ∧ g' = g) ∨
      url ∉ g.seen ∧ ∃ document g'', Document.fetched load url = .ok document ∧
        document.imports.foldlM (gather (Document.fetched load) depth) { g with seen := url :: g.seen } = .ok g'' ∧
        g' = { g'' with documents := g''.documents ++ [document] } := by
  by_cases hseen : url ∈ g.seen
  · rw [gather, if_pos (by simpa using hseen)] at h
    exact .inl ⟨hseen, (Except.ok.inj h).symm⟩
  · rw [gather, if_neg (by simpa using hseen)] at h
    obtain ⟨document, hfetched, h⟩ := exists_of_bind_eq_ok h
    obtain ⟨g'', himports, h⟩ := exists_of_bind_eq_ok h
    exact .inr ⟨hseen, document, g'', hfetched, himports, (Except.ok.inj h).symm⟩

/-- What one step adds. -/
theorem exists_adds_gather {depth : Nat} (h : gather (Document.fetched load) depth g url = .ok g') :
    ∃ new, Adds load [url] g new g' := by
  induction depth generalizing g url g' with
  | zero => cases h
  | succ depth ih =>
    rcases gather_cases h with ⟨hseen, rfl⟩ | ⟨hseen, document, g'', hfetched, himports, rfl⟩
    · exact ⟨[], Adds.of_subset (by simpa using hseen)⟩
    · obtain ⟨new, hnew⟩ := exists_adds_foldlM (fun _ _ _ => ih) himports
      exact ⟨new ++ [document], hnew.snoc hseen hfetched⟩

/-- What a run over a list of addresses adds. -/
theorem exists_adds_of_eq_ok {depth : Nat}
    (h : urls.foldlM (gather (Document.fetched load) depth) g = .ok g') : ∃ new, Adds load urls g new g' :=
  exists_adds_foldlM (fun _ _ _ => exists_adds_gather) h

/-! ### What takes effect after the document listed last -/

lemma exists_of_documentsInEffect_eq_ok (h : documentsInEffect load urls = .ok documents) :
    ∃ g, urls.foldlM (gather (Document.fetched load) longestChain) {} = .ok g ∧ g.documents = documents :=
  exists_of_map_eq_ok h

/-- A document that is reached from a listed address, and not from those listed before it, stands before the
document of this address, or is that document. -/
lemma exists_of_first {first : String} (hpre : ∀ url ∈ urls, ¬ Reaches load url last)
    (hfirst : Reaches load first last)
    (h : documentsInEffect load (urls ++ first :: urls') = .ok documents) :
    ∃ before document after, documents = before ++ document :: after ∧
      Document.fetched load last = .ok document ∧
      (∀ d ∈ after, ∃ url ∈ first :: urls', ∃ other, Reaches load url other ∧
        Document.fetched load other = .ok d) ∧
      (first = last → urls' = [] → after = []) ∧
      (first ≠ last → ∃ d ∈ after, Document.fetched load first = .ok d) := by
  obtain ⟨g, hrun, rfl⟩ := exists_of_documentsInEffect_eq_ok h
  rw [List.foldlM_append] at hrun
  obtain ⟨g₁, hrun₁, hrun⟩ := exists_of_bind_eq_ok hrun
  rw [List.foldlM_cons] at hrun
  obtain ⟨g₂, hrun₂, hrun₃⟩ := exists_of_bind_eq_ok hrun
  obtain ⟨new₁, h₁⟩ := exists_adds_of_eq_ok hrun₁
  obtain ⟨new₃, h₃⟩ := exists_adds_of_eq_ok hrun₃
  -- what was met before the first address does not reach the last one
  have hunseen : ∀ other, Reaches load other last → other ∉ g₁.seen := by
    intro other hother hmem
    obtain ⟨url, hurl, hreach⟩ := h₁.reached other hmem List.not_mem_nil
    exact hpre url hurl (hreach.trans hother)
  rcases gather_cases hrun₂ with ⟨hseen, -⟩ | ⟨hseen, d, g', hfetched, himports, rfl⟩
  · exact absurd hseen (hunseen first hfirst)
  obtain ⟨new₂, himported⟩ := exists_adds_of_eq_ok himports
  have h₂ := himported.snoc hseen hfetched
  have hdocuments : g.documents = new₁ ++ new₂ ++ [d] ++ new₃ := by
    rw [h₃.documents_eq, h₂.documents_eq, h₁.documents_eq]
    simp
  by_cases heq : first = last
  · -- the document takes its place as a listed one, and what follows is added from the rest of the list
    subst heq
    refine ⟨new₁ ++ new₂, d, new₃, by simp [hdocuments], hfetched, ?_, ?_, fun hne => absurd rfl hne⟩
    · intro d' hd'
      obtain ⟨url, hurl, hreached⟩ := h₃.reached_of_mem hd'
      exact ⟨url, List.mem_cons_of_mem _ hurl, hreached⟩
    · rintro - rfl
      refine List.eq_nil_iff_forall_not_mem.2 fun d' hd' => ?_
      obtain ⟨url, hurl, -⟩ := h₃.reached_of_mem hd'
      cases hurl
  · -- it is among those that the references of the first address add, whose own document comes after these
    have hmem : last ∈ g'.seen :=
      (h₁.append h₂).mem_seen_of_reaches (h₂.urls_subset (List.mem_singleton_self first)) hfirst
    have hnot : last ∉ first :: g₁.seen := by
      simp [Ne.symm heq, hunseen last Relation.ReflTransGen.refl]
    obtain ⟨document, hdocument, hlast⟩ := himported.fetched last hmem hnot
    obtain ⟨before, after, rfl⟩ := List.append_of_mem hdocument
    refine ⟨new₁ ++ before, document, after ++ [d] ++ new₃, by simp [hdocuments], hlast, ?_,
      fun h => absurd h heq, fun _ => ⟨d, by simp, hfetched⟩⟩
    intro d' hd'
    have hadded : d' ∈ before ++ document :: after ++ [d] ++ new₃ := by
      simp only [List.mem_append, List.mem_cons] at hd' ⊢
      tauto
    exact (h₂.append h₃).reached_of_mem hadded

/-- The document of the address that is listed last is in effect. -/
theorem exists_listedLast (h : documentsInEffect load (urls ++ [last]) = .ok documents) :
    ∃ document after, ListedLast load urls last documents document after := by
  classical
  -- the first address in the list that reaches the last one
  obtain ⟨first, hfind⟩ : ∃ first, (urls.find? fun url => Reaches load url last) = first := ⟨_, rfl⟩
  cases first with
  | none =>
    have hpre : ∀ url ∈ urls, ¬ Reaches load url last := by simpa using List.find?_eq_none.1 hfind
    obtain ⟨before, document, after, hdocuments, hfetched, -, hnil, -⟩ :=
      exists_of_first hpre Relation.ReflTransGen.refl h
    obtain rfl := hnil rfl rfl
    refine ⟨document, [], hfetched, ⟨before, hdocuments⟩, (fun _ hd => nomatch hd), fun _ => rfl, ?_⟩
    rintro - ⟨url, hurl, hreach⟩
    exact absurd hreach (hpre url hurl)
  | some first =>
    obtain ⟨hfirst, pre, post, rfl, hpre⟩ := List.find?_eq_some_iff_append.1 hfind
    have hfirst : Reaches load first last := by simpa using hfirst
    have hpre : ∀ url ∈ pre, ¬ Reaches load url last := by simpa using hpre
    have hmem : first ∈ pre ++ first :: post := by simp
    rw [List.append_assoc, List.cons_append] at h
    obtain ⟨before, document, after, hdocuments, hfetched, hreached, -, hovertaken⟩ :=
      exists_of_first hpre hfirst h
    refine ⟨document, after, hfetched, ⟨before, hdocuments⟩, ?_, fun hnone => absurd hfirst (hnone first hmem), ?_⟩
    · intro d hd
      obtain ⟨url, hurl, other, hreach, hother⟩ := hreached d hd
      by_cases heq : url = last
      · -- what the last address reaches is reached from the first one too
        exact ⟨first, hmem, other, hfirst.trans (heq ▸ hreach), hother⟩
      · have hlisted : url ∈ first :: post := by simpa [heq] using hurl
        exact ⟨url, List.mem_append_right _ hlisted, other, hreach, hother⟩
    · intro hlast _
      obtain ⟨d, hd, hd'⟩ := hovertaken fun heq => hlast (heq ▸ hmem)
      exact ⟨first, hmem, hfirst, d, hd, hd'⟩

/-! ### Which definition counts -/

namespace Context

/-- A definition by a full name stays as it is. -/
lemma expandDefinition_of_isAbsolute (h : (ofDocuments documents).IsAbsolute iri) :
    expandDefinition (definitions documents) iri = iri := by
  obtain ⟨before, rest, hcut, haddress | hterm⟩ := h
  · simp [expandDefinition, hcut, haddress]
  · have hdefinition : Named.get? (definitions documents) before = none := by
      rw [get?_terms_ofDocuments, Option.map_eq_none_iff, ← Named.get?_ofList] at hterm
      exact hterm
    simp [expandDefinition, hcut, hdefinition]

/-- A term has the full name that a document defines for it just when what the documents after it say of the
term is the same. -/
theorem expand_iff_of_append {before : List Document} (hdocuments : documents = before ++ document :: after)
    (hterm : Named.lastValue? document.terms term = some iri) (hknown : isWellKnown term = false)
    (habsolute : (ofDocuments documents).IsAbsolute iri) :
    (ofDocuments documents).expand term = .ok iri ↔
      ∀ other, Named.lastValue? (after.flatMap Document.terms) term = some other →
        expandDefinition (definitions documents) other = iri := by
  have hlast : Named.lastValue? (documents.flatMap Document.terms) term =
      (Named.lastValue? (after.flatMap Document.terms) term).or (some iri) := by
    rw [hdocuments, List.flatMap_append, List.flatMap_cons, Named.lastValue?_append, Named.lastValue?_append, hterm,
      Option.or_assoc, Option.some_or]
  have hget := get?_terms_ofDocuments documents term
  rw [hlast] at hget
  cases hafter : Named.lastValue? (after.flatMap Document.terms) term with
  | none =>
    rw [hafter, Option.none_or, Option.map_some, expandDefinition_of_isAbsolute habsolute] at hget
    exact iff_of_true (expand_of_get? hknown hget) (fun _ hother => nomatch hother)
  | some other =>
    rw [hafter, Option.some_or, Option.map_some] at hget
    simp only [expand_of_get? hknown hget, Except.ok.injEq, Option.some.injEq, forall_eq']

end Context


namespace Cache

/-- Whatever a cache has been asked before, it gives the context of the documents in effect. -/
lemma run_resolveAll_answers (load : String → Except ContextFault Json) (capacity : Nat) (lifetime : Option Nat)
    (clock : Nat → Nat) (calls : List Call) (urls : List String) :
    ((resolveAll load urls).run.run (answers load calls (empty capacity lifetime clock)).2).1 =
      Context.ofDocuments <$> documentsInEffect load urls := by
  have h := ((consistent_empty load capacity lifetime clock).answers calls).2
  rw [(ends_resolveAll load urls _ h).1, gatherAll, documentsInEffect, map_bind]
  rfl

/-- **When the context listed last wins.**  Whatever a cache has been asked before, let it give the context of
several addresses. Then the document of the address listed last is in effect. It takes effect last if no address
listed before reaches it by references; otherwise one of those that do takes effect after it, unless the last
address is itself listed before. A term that is not well known and that the document listed last defines by a full
name is expanded to this name just when no document that takes effect after it says otherwise. -/
theorem expand_resolveAll_iff (load : String → Except ContextFault Json) (capacity : Nat) (lifetime : Option Nat)
    (clock : Nat → Nat) (calls : List Call) (urls : List String) (last : String) (context : Context)
    (h : ((resolveAll load (urls ++ [last])).run.run
      (answers load calls (empty capacity lifetime clock)).2).1 = .ok context) :
    ∃ documents document after, documentsInEffect load (urls ++ [last]) = .ok documents ∧
      context = .ofDocuments documents ∧ ListedLast load urls last documents document after ∧
      ∀ term iri, Named.lastValue? document.terms term = some iri → isWellKnown term = false →
        context.IsAbsolute iri →
        (context.expand term = .ok iri ↔
          ∀ other, Named.lastValue? (after.flatMap Document.terms) term = some other →
            Context.expandDefinition (Context.definitions documents) other = iri) := by
  rw [run_resolveAll_answers] at h
  obtain ⟨documents, hdocuments, rfl⟩ := exists_of_map_eq_ok h
  obtain ⟨document, after, hlast⟩ := exists_listedLast hdocuments
  obtain ⟨before, heq⟩ := hlast.documents_eq
  exact ⟨documents, document, after, hdocuments, rfl, hlast,
    fun term iri hterm hknown habsolute => Context.expand_iff_of_append heq hterm hknown habsolute⟩

/-- Documents that can be fetched, each as its references followed by its terms. -/
def loadFrom (documents : List Document) (url : String) : Except ContextFault Json :=
  match documents.find? fun document => document.url = url with
  | some document =>
    let terms := document.terms.map fun (term, iri) => (term, Json.str iri)
    .ok (.obj [("@context", .arr (document.imports.map Json.str ++ [.obj terms]))])
  | none => .error (.notAvailable url)

/-- A document with the one term `speed`. -/
def speedDocument (url : String) (imports : List String) (iri : String) : Document :=
  { url, terms := [("speed", iri)], imports }

/-- Two documents that refer to a third one. -/
def sharing : List Document :=
  [speedDocument "https://e.org/user.jsonld" ["https://e.org/shared.jsonld"] "https://e.org/user/speed",
    speedDocument "https://e.org/core.jsonld" ["https://e.org/shared.jsonld"] "https://e.org/core/speed",
    speedDocument "https://e.org/shared.jsonld" [] "https://e.org/shared/speed"]

lemma eq_or_eq_of_reaches_sharing {other : String}
    (h : Reaches (loadFrom sharing) "https://e.org/user.jsonld" other) :
    other = "https://e.org/user.jsonld" ∨ other = "https://e.org/shared.jsonld" := by
  induction h with
  | refl => exact Or.inl rfl
  | tail _ hnext ih =>
    obtain ⟨document, hfetched, hmem⟩ := hnext
    rcases ih with rfl | rfl
    · obtain rfl := Except.ok.inj hfetched
      exact Or.inr (List.mem_singleton.1 hmem)
    · obtain rfl := Except.ok.inj hfetched
      cases hmem

/-- Neither of the two reaches the other, and so the one that is listed last wins. -/
theorem expand_resolveAll_sharing : ∃ context,
    ((resolveAll (loadFrom sharing) ["https://e.org/user.jsonld", "https://e.org/core.jsonld"]).run.run
      (answers (loadFrom sharing) [.resolve "https://e.org/core.jsonld"] (empty 2 none)).2).1 = .ok context ∧
      context.expand "speed" = .ok "https://e.org/core/speed" := by
  obtain ⟨documents, document, after, -, hcontext, hlast, hiff⟩ :=
    expand_resolveAll_iff (loadFrom sharing) 2 none id [.resolve "https://e.org/core.jsonld"]
      ["https://e.org/user.jsonld"] "https://e.org/core.jsonld" _ rfl
  have hnot : ∀ url ∈ ["https://e.org/user.jsonld"],
      ¬ Reaches (loadFrom sharing) url "https://e.org/core.jsonld" := by
    intro url hurl hreach
    rw [List.mem_singleton.1 hurl] at hreach
    exact absurd (eq_or_eq_of_reaches_sharing hreach) (by decide)
  obtain rfl := hlast.eq_nil hnot
  obtain rfl := Except.ok.inj hlast.fetched
  refine ⟨_, rfl, (hiff "speed" "https://e.org/core/speed" rfl (by decide) ?_).2 (fun _ h => nomatch h)⟩
  exact ⟨"https", _, rfl, Or.inl rfl⟩

/-- A document that refers to another. -/
def importing : List Document :=
  [speedDocument "https://e.org/user.jsonld" ["https://e.org/core.jsonld"] "https://e.org/user/speed",
    speedDocument "https://e.org/core.jsonld" [] "https://e.org/core/speed"]

/-- The document listed last defines the term by a full name, and the one that refers to it wins. -/
theorem exists_expand_resolveAll_ne : ∃ context document,
    ((resolveAll (loadFrom importing) ["https://e.org/user.jsonld", "https://e.org/core.jsonld"]).run.run
      (empty 2 none)).1 = .ok context ∧
      Document.fetched (loadFrom importing) "https://e.org/core.jsonld" = .ok document ∧
      Named.lastValue? document.terms "speed" = some "https://e.org/core/speed" ∧ isWellKnown "speed" = false ∧
      context.IsAbsolute "https://e.org/core/speed" ∧
      context.expand "speed" = .ok "https://e.org/user/speed" := by
  refine ⟨_, _, rfl, rfl, rfl, by decide, ⟨"https", _, rfl, Or.inl rfl⟩, ?_⟩
  exact Context.expand_of_get? (by decide) rfl

end Cache

end EntityHistory
