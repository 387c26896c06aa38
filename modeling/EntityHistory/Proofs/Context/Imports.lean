/-
References between documents.

The references of a document are followed before it takes its place. An address that has been met and whose
document has no place yet is on the way from a listed address to the one that is being followed, and so it reaches
that one. Hence a document comes after those that it refers to, with the exception of those that refer back to it,
directly or through others. Each address is met once, so the documents in effect are those of the addresses that
are reached, each of them once. Nothing stands in the way of this but an address that cannot be fetched or a chain
of more than eight references.

* `Settled.gather`: what has been gathered stays in order, whatever documents refer to;
* `effectOf_of_eq_ok`: the documents in effect;
* `exists_of_gather_eq_error`: why gathering fails;
* `Cache.resolveAll_takesEffect_or_fails`: the two ways in which asking for several addresses ends.
-/
import Mathlib.Data.List.Chain
import EntityHistory.Proofs.Context.Order

namespace EntityHistory

open Relation

variable {load : String → Except ContextFault Json} {urls opened : List String} {url other last : String}
  {document : Document} {documents : List Document} {g g' : Gathered} {e : Error}

/-! ### Specification -/

/-- Each document comes after those that it refers to, apart from those that refer to it, directly or through
others. -/
def InOrder (load : String → Except ContextFault Json) (documents : List Document) : Prop :=
  ∀ before document after, documents = before ++ document :: after → ∀ next ∈ document.imports,
    next ∈ before.map Document.url ∨ TransGen (Refers load) next document.url

/-- The documents that several addresses bring into effect. -/
structure EffectOf (load : String → Except ContextFault Json) (urls : List String) (documents : List Document) :
    Prop where
  /-- Every address that is found from one of them by following references has a document, and no other has. -/
  mem_iff : ∀ other, other ∈ documents.map Document.url ↔ ∃ url ∈ urls, Reaches load url other
  /-- None has two. -/
  nodup : (documents.map Document.url).Nodup
  fetched : ∀ document ∈ documents, Document.fetched load document.url = .ok document
  inOrder : InOrder load documents

/-- So many references lead from one address to another, through different documents. -/
def HasChain (load : String → Except ContextFault Json) (url : String) (steps : Nat) (last : String) : Prop :=
  ∃ chain : List String, chain.length = steps ∧ chain.Nodup ∧ (chain ++ [last]).head? = some url ∧
    (chain ++ [last]).IsChain (Refers load)

/-! ### The address of a document -/

namespace Document

lemma url_define (d : Document) (name : String) (definition : Json) : (d.define name definition).url = d.url := by
  unfold define
  split
  · rfl
  · split <;> rfl

lemma url_foldl_define (d : Document) (members : List (String × Json)) :
    (members.foldl (fun d (name, definition) => d.define name definition) d).url = d.url := by
  induction members generalizing d with
  | nil => rfl
  | cons member members ih => rw [List.foldl_cons, ih, url_define]

mutual

lemma url_of_absorb {d d' : Document} : ∀ {entry : Json}, d.absorb entry = .ok d' → d'.url = d.url
  | .str _, h => by
    obtain rfl := Except.ok.inj h
    rfl
  | .arr entries, h => url_of_absorbAll h
  | .obj members, h => by
    obtain rfl := Except.ok.inj h
    exact url_foldl_define d members
  | .null, h => by
    obtain rfl := Except.ok.inj h
    rfl
  | .bool _, h => nomatch h
  | .int _, h => nomatch h
  | .double _, h => nomatch h

lemma url_of_absorbAll {d d' : Document} : ∀ {entries : List Json}, d.absorbAll entries = .ok d' → d'.url = d.url
  | [], h => by
    obtain rfl := Except.ok.inj h
    rfl
  | entry :: entries, h => by
    obtain ⟨d'', hentry, hentries⟩ := exists_of_bind_eq_ok h
    rw [url_of_absorbAll hentries, url_of_absorb hentry]

end

lemma url_of_ofJson {content : Json} (h : ofJson url content = .ok document) : document.url = url := by
  rw [ofJson] at h
  split at h
  · cases h
  · exact url_of_absorb h

/-- A document knows the address that it is fetched from. -/
lemma url_of_fetched (h : fetched load url = .ok document) : document.url = url := by
  cases hbind : (load url).bind (ofJson url) with
  | error fault =>
    rw [fetched, hbind] at h
    cases h
  | ok d =>
    rw [fetched, hbind] at h
    obtain rfl : d = document := Except.ok.inj h
    obtain ⟨content, -, hcontent⟩ := exists_of_bind_eq_ok hbind
    exact url_of_ofJson hcontent

end Document

/-! ### What stays in order -/

lemma inOrder_nil (load : String → Except ContextFault Json) : InOrder load [] := by
  intro before document after h
  simp at h

/-- One document more may follow if what it refers to is there or refers to it. -/
lemma InOrder.snoc (h : InOrder load documents)
    (hnext : ∀ next ∈ document.imports,
      next ∈ documents.map Document.url ∨ TransGen (Refers load) next document.url) :
    InOrder load (documents ++ [document]) := by
  intro before d after hsplit next hmem
  rcases List.eq_nil_or_concat after with rfl | ⟨after, last, rfl⟩
  · obtain ⟨rfl, hd⟩ := List.append_inj' hsplit rfl
    obtain rfl : document = d := by simpa using hd
    exact hnext next hmem
  · rw [List.concat_eq_append, ← List.cons_append, ← List.append_assoc] at hsplit
    obtain ⟨hdocuments, -⟩ := List.append_inj' hsplit rfl
    exact h before d after hdocuments next hmem

/-- What has been gathered while the references from some addresses are still being followed: what has been met
has its place or is one of these addresses. -/
structure Settled (load : String → Except ContextFault Json) (opened : List String) (g : Gathered) : Prop where
  mem_seen_iff : ∀ other, other ∈ g.seen ↔ other ∈ g.documents.map Document.url ∨ other ∈ opened
  nodup : (g.documents.map Document.url ++ opened).Nodup
  fetched : ∀ document ∈ g.documents, Document.fetched load document.url = .ok document
  inOrder : InOrder load g.documents

namespace Settled

lemma empty (load : String → Except ContextFault Json) : Settled load [] {} where
  mem_seen_iff other := by simp
  nodup := List.nodup_nil
  fetched _ h := nomatch h
  inOrder := inOrder_nil load

/-- The references from an address that has not been met begin to be followed. -/
lemma opens (h : Settled load opened g) (hnot : url ∉ g.seen) :
    Settled load (url :: opened) { g with seen := url :: g.seen } where
  mem_seen_iff other := by
    rw [List.mem_cons, h.mem_seen_iff, List.mem_cons]
    tauto
  nodup := by
    rw [h.mem_seen_iff] at hnot
    rw [List.nodup_middle, List.nodup_cons, List.mem_append]
    exact ⟨hnot, h.nodup⟩
  fetched := h.fetched
  inOrder := h.inOrder

/-- A document takes its place when its references have been followed. -/
lemma closes (h : Settled load (url :: opened) g) (hfetched : Document.fetched load url = .ok document)
    (hopened : ∀ other ∈ opened, TransGen (Refers load) other url) (himports : document.imports ⊆ g.seen) :
    Settled load opened { g with documents := g.documents ++ [document] } := by
  have hurl : document.url = url := Document.url_of_fetched hfetched
  constructor
  · intro other
    rw [h.mem_seen_iff, List.map_append, List.mem_append, List.map_singleton, List.mem_singleton, hurl, List.mem_cons]
    tauto
  · rw [List.map_append, List.map_singleton, hurl, List.append_assoc, List.singleton_append]
    exact h.nodup
  · intro d hd
    rcases List.mem_append.1 hd with hd | hd
    · exact h.fetched d hd
    · rw [List.mem_singleton.1 hd, hurl, hfetched]
  · refine h.inOrder.snoc fun next hnext => ?_
    rcases (h.mem_seen_iff next).1 (himports hnext) with hplaced | hmem
    · exact Or.inl hplaced
    · -- an address on the way reaches this one, and so does this one if it refers to itself
      refine Or.inr (hurl ▸ ?_)
      rcases List.mem_cons.1 hmem with rfl | hmem
      · exact TransGen.single ⟨document, hfetched, hnext⟩
      · exact hopened next hmem

/-- A step keeps in order what has been gathered, when every address that is still being followed leads to the one
of the step. -/
theorem gather {depth : Nat} (h : Settled load opened g)
    (hopened : ∀ other ∈ opened, TransGen (Refers load) other url)
    (hrun : gather (Document.fetched load) depth g url = .ok g') : Settled load opened g' := by
  induction depth generalizing opened g url g' with
  | zero => cases hrun
  | succ depth ih =>
    rcases gather_cases hrun with ⟨-, rfl⟩ | ⟨hnot, document, g'', hfetched, himports, rfl⟩
    · exact h
    · have hafter : Settled load (url :: opened) g'' := by
        refine holds_of_foldlM_eq_ok (fun next hnext a a' ha hrun => ih ha ?_ hrun) (h.opens hnot) himports
        have hrefers : Refers load url next := ⟨document, hfetched, hnext⟩
        exact List.forall_mem_cons.2 ⟨TransGen.single hrefers, fun other hother => (hopened other hother).tail hrefers⟩
      obtain ⟨new, hnew⟩ := exists_adds_of_eq_ok himports
      exact hafter.closes hfetched hopened hnew.urls_subset

end Settled

/-- What is in effect of several addresses. -/
theorem effectOf_of_eq_ok (h : documentsInEffect load urls = .ok documents) : EffectOf load urls documents := by
  obtain ⟨g, hrun, rfl⟩ := exists_of_documentsInEffect_eq_ok h
  have hsettled : Settled load [] g :=
    holds_of_foldlM_eq_ok (fun _ _ _ _ h hrun => h.gather (fun _ hmem => nomatch hmem) hrun) (Settled.empty load) hrun
  obtain ⟨new, hnew⟩ := exists_adds_of_eq_ok hrun
  refine ⟨fun other => ?_, ?_, hsettled.fetched, hsettled.inOrder⟩
  · have hseen : other ∈ g.seen ↔ other ∈ g.documents.map Document.url := by simp [hsettled.mem_seen_iff]
    rw [← hseen]
    constructor
    · exact fun hmem => hnew.reached other hmem List.not_mem_nil
    · rintro ⟨url, hurl, hreach⟩
      exact hnew.mem_seen_of_reaches (hnew.urls_subset hurl) hreach
  · simpa using hsettled.nodup

/-! ### Why gathering fails -/

/-- A step fails at an address that cannot be fetched, or at the end of a chain of as many references as are allowed,
through addresses that had not been met. -/
theorem exists_of_gather_eq_error {depth : Nat} (h : gather (Document.fetched load) depth g url = .error e) :
    (∃ other, Reaches load url other ∧ Document.fetched load other = .error e) ∨
      ∃ chain last, e = .contextUnavailable (.importsTooDeep last) ∧ chain.length = depth ∧ chain.Nodup ∧
        (∀ other ∈ chain, other ∉ g.seen) ∧ (chain ++ [last]).head? = some url ∧
        (chain ++ [last]).IsChain (Refers load) := by
  induction depth generalizing g url with
  | zero =>
    exact Or.inr ⟨[], url, (Except.error.inj h).symm, rfl, List.nodup_nil, List.forall_mem_nil _, rfl,
      List.IsChain.singleton url⟩
  | succ depth ih =>
    by_cases hseen : url ∈ g.seen
    · rw [gather, if_pos (by simpa using hseen)] at h
      cases h
    · rw [gather, if_neg (by simpa using hseen)] at h
      rcases eq_error_of_bind_eq_error h with hfetched | ⟨document, hfetched, h⟩
      · exact Or.inl ⟨url, ReflTransGen.refl, hfetched⟩
      · rcases eq_error_of_bind_eq_error h with himports | ⟨g', -, h⟩
        · -- the references are followed up to one that fails, and what has been met until then is not met again
          obtain ⟨before, next, after, g', hcut, hbefore, hfails⟩ := exists_of_foldlM_eq_error himports
          have hrefers : Refers load url next := ⟨document, hfetched, by simp [hcut]⟩
          obtain ⟨new, hnew⟩ := exists_adds_of_eq_ok hbefore
          rcases ih hfails with ⟨other, hreach, hother⟩ | ⟨chain, last, he, hlength, hnodup, hunmet, hhead, hchain⟩
          · exact Or.inl ⟨other, ReflTransGen.head hrefers hreach, hother⟩
          · have hunseen : ∀ other ∈ chain, other ∉ url :: g.seen :=
              fun other hmem hold => hunmet other hmem (hnew.seen_subset hold)
            refine Or.inr ⟨url :: chain, last, he, by rw [List.length_cons, hlength], ?_, ?_, rfl, ?_⟩
            · exact List.nodup_cons.2 ⟨fun hmem => hunseen url hmem List.mem_cons_self, hnodup⟩
            · exact List.forall_mem_cons.2
                ⟨hseen, fun other hmem hold => hunseen other hmem (List.mem_cons_of_mem url hold)⟩
            · rw [List.cons_append, List.isChain_cons, hhead]
              exact ⟨fun _ hnext => Option.some.inj hnext ▸ hrefers, hchain⟩
        · cases h

/-- Gathering fails only if an address that is reached cannot be fetched, or a chain of as many references as are
allowed and one more starts at a listed address. -/
theorem exists_of_documentsInEffect_eq_error (h : documentsInEffect load urls = .error e) :
    ∃ url ∈ urls, (∃ other, Reaches load url other ∧ Document.fetched load other = .error e) ∨
      ∃ last, e = .contextUnavailable (.importsTooDeep last) ∧ HasChain load url longestChain last := by
  obtain ⟨before, url, after, g, rfl, -, hfails⟩ := exists_of_foldlM_eq_error (eq_error_of_map_eq_error h)
  refine ⟨url, by simp, ?_⟩
  rcases exists_of_gather_eq_error hfails with hfetch | ⟨chain, last, he, hlength, hnodup, -, hhead, hchain⟩
  · exact Or.inl hfetch
  · exact Or.inr ⟨last, he, chain, hlength, hnodup, hhead, hchain⟩

namespace Cache

/-- **Following references comes to an end.**  Whatever a cache has been asked before, and whatever documents refer to,
asking for several addresses ends in one of two ways. It may give the context of the documents that these addresses
bring into effect: of each address that is reached there is one document, and it comes after those that it refers to,
apart from those that refer to it, directly or through others. Or it fails, and then an address that is reached cannot
be fetched, or a chain of nine references through nine different documents starts at one of the addresses. -/
theorem resolveAll_takesEffect_or_fails (load : String → Except ContextFault Json) (capacity : Nat)
    (lifetime : Option Nat) (clock : Nat → Nat) (calls : List Call) (urls : List String) :
    let answer := ((resolveAll load urls).run.run (answers load calls (empty capacity lifetime clock)).2).1
    (∃ documents, documentsInEffect load urls = .ok documents ∧ answer = .ok (.ofDocuments documents) ∧
        EffectOf load urls documents) ∨
      ∃ e, answer = .error e ∧ ∃ url ∈ urls,
        (∃ other, Reaches load url other ∧ Document.fetched load other = .error e) ∨
          ∃ last, e = .contextUnavailable (.importsTooDeep last) ∧ HasChain load url 9 last := by
  dsimp only
  rw [run_resolveAll_answers]
  cases hdocuments : documentsInEffect load urls with
  | ok documents => exact Or.inl ⟨documents, rfl, rfl, effectOf_of_eq_ok hdocuments⟩
  | error e => exact Or.inr ⟨e, rfl, exists_of_documentsInEffect_eq_error hdocuments⟩

end Cache

end EntityHistory
