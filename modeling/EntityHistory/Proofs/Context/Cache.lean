/-
Answers from a cache.

A slot of a cache holds nothing or what its address gives from outside, and no address has two slots. Each
access keeps it so: slots are dropped, added without a document, and filled with what has just been fetched. So
a cache answers as fetching directly does, whatever has been asked before, whichever slots have expired or made
room, and whether fetches have failed; it only spares a fetch where a slot that is not expired has a document.

* `Cache.Consistent`: the invariant of a cache;
* `Cache.resolve_eq`: what an access gives and leaves;
* `Cache.ends_resolve`: an access answers as a direct fetch and keeps the invariant;
* `Cache.answers_eq_directly`: so do the answers to any calls.
-/
import Mathlib.Data.List.Nodup
import EntityHistory.Context.Cache
import EntityHistory.Proofs.Running

namespace EntityHistory

variable {load : String → Except ContextFault Json} {σ : Type}

/-! ### Specification -/

/-- The document at an address, fetched from outside. -/
def Document.fetched (load : String → Except ContextFault Json) (url : String) : Except Error Document :=
  ((load url).bind (Document.ofJson url)).mapError .contextUnavailable

namespace Cache

/-- What can be asked of a cache. -/
inductive Call where
  | resolve (url : String)
  | resolveAll (urls : List String)
  | expand (name : String) (urls : List String)
deriving DecidableEq, Repr

/-- What a call gives. -/
inductive Answer where
  | document (document : Document)
  | context (context : Context)
  | fullName (iri : String)
deriving DecidableEq, Repr

/-- The answer to a call when every document is fetched from outside. -/
def Call.directly (load : String → Except ContextFault Json) : Call → Except Error Answer
  | .resolve url => .document <$> Document.fetched load url
  | .resolveAll urls => .context <$> gatherAll (Document.fetched load) urls
  | .expand name urls => .fullName <$> do
    let context ← gatherAll (Document.fetched load) urls
    match context.expand name with
    | .ok iri => pure iri
    | .error fault => throw (.expansionFailure fault)

/-- The answer to a call from a cache. -/
def Call.onCache (load : String → Except ContextFault Json) : Call → Action Cache Answer
  | .resolve url => .document <$> (Cache.resolve load url : Action Cache Document)
  | .resolveAll urls => .context <$> Cache.resolveAll load urls
  | .expand name urls => .fullName <$> Cache.expand load name urls

/-- The answers to calls that a cache is asked one after the other, and the cache that they leave. -/
def answers (load : String → Except ContextFault Json) : List Call → Cache → List (Except Error Answer) × Cache
  | [], c => ([], c)
  | call :: calls, c =>
    let (answer, c) := (call.onCache load).run.run c
    let (rest, c) := answers load calls c
    (answer :: rest, c)

/-- At its next access the cache has a slot of an address that is not expired and has a document. -/
def Holds (c : Cache) (url : String) : Prop :=
  ∃ s ∈ c.slots, s.url = url ∧ c.atNext.isExpired s = false ∧ s.document.isSome = true

/-- No address has two slots, and a document in a slot is the one that its address gives. -/
structure Consistent (load : String → Except ContextFault Json) (c : Cache) : Prop where
  nodup : (c.slots.map Slot.url).Nodup
  fetched : ∀ s ∈ c.slots, ∀ document, s.document = some document → Document.fetched load s.url = .ok document

variable {c : Cache} {url : String} {s : Slot} {document : Document}

/-! ### Slots -/

lemma slot?_eq_some_iff (h : (c.slots.map Slot.url).Nodup) : c.slot? url = some s ↔ s ∈ c.slots ∧ s.url = url := by
  constructor
  · intro hfind
    exact ⟨List.mem_of_find?_eq_some hfind, by simpa using List.find?_some hfind⟩
  · rintro ⟨hmem, rfl⟩
    cases hfind : c.slot? s.url with
    | none =>
      have hne := List.find?_eq_none.1 hfind s hmem
      simp at hne
    | some other =>
      have hother : other.url = s.url := by simpa using List.find?_some hfind
      exact congrArg some (List.inj_on_of_nodup_map h (List.mem_of_find?_eq_some hfind) hmem hother)

lemma slot?_eq_none_iff : c.slot? url = none ↔ ∀ s ∈ c.slots, s.url ≠ url := by
  rw [slot?, List.find?_eq_none]
  simp

/-- A slot that is not expired is the slot of its address. -/
lemma liveSlot?_eq_some_iff : c.liveSlot? url = some s ↔ c.slot? url = some s ∧ c.isExpired s = false := by
  rw [liveSlot?, Option.filter_eq_some_iff]
  simp

lemma mem_others : s ∈ c.others url ↔ s ∈ c.slots ∧ s.url ≠ url := by
  rw [others, List.mem_filter]
  simp

lemma slots_makeRoom_sublist (c : Cache) : c.makeRoom.slots.Sublist c.slots := by
  rw [makeRoom]
  split
  · exact List.Sublist.refl _
  · split
    · exact List.Sublist.refl _
    · exact List.filter_sublist

/-- A new slot behind slots of other addresses is the slot of its address. -/
lemma find?_append_new {slots : List Slot} (h : ∀ s ∈ slots, s.url ≠ url) (document : Option Document)
    (since : Nat) :
    (slots ++ [(⟨url, document, since⟩ : Slot)]).find? (fun s => s.url = url) = some ⟨url, document, since⟩ := by
  have hnone : slots.find? (fun s => s.url = url) = none := by
    rw [List.find?_eq_none]
    simpa using h
  rw [List.find?_append, hnone]
  simp

/-- What is known of an address after it has got a slot: the document of its slot that was not expired. -/
lemma bind_document_slot?_withSlot (c : Cache) (url : String) :
    ((c.withSlot url).slot? url).bind Slot.document = (c.liveSlot? url).bind Slot.document := by
  rw [withSlot, liveSlot?]
  cases hslot : c.slot? url with
  | some s =>
    cases hexpired : c.isExpired s with
    | true =>
      -- the new slot takes the place of the expired one, whose document is forgotten
      have hothers : ∀ s ∈ c.others url, s.url ≠ url := fun s hs => (mem_others.1 hs).2
      simp [Option.filter, hexpired, slot?, find?_append_new hothers]
    | false => simp [Option.filter, hexpired, hslot]
  | none =>
    have hothers : ∀ s ∈ c.makeRoom.slots, s.url ≠ url :=
      fun s hs => slot?_eq_none_iff.1 hslot s ((slots_makeRoom_sublist c).subset hs)
    simp [slot?, find?_append_new hothers]

@[simp] lemma fetches_atNext (c : Cache) : c.atNext.fetches = c.fetches := rfl

@[simp] lemma fetches_withSlot (c : Cache) (url : String) : (c.withSlot url).fetches = c.fetches := by
  have hroom : c.makeRoom.fetches = c.fetches := by
    rw [makeRoom]
    split
    · rfl
    · split <;> rfl
  rw [withSlot]
  split
  · split <;> rfl
  · exact hroom

/-- A new slot behind slots of other addresses keeps the addresses apart. -/
lemma nodup_append_new {slots : List Slot} (h : (c.slots.map Slot.url).Nodup) (hslots : slots.Sublist c.slots)
    (hne : ∀ s ∈ slots, s.url ≠ url) (document : Option Document) (since : Nat) :
    ((slots ++ [(⟨url, document, since⟩ : Slot)]).map Slot.url).Nodup := by
  rw [List.map_append, List.map_singleton]
  refine List.Nodup.append (h.sublist (hslots.map Slot.url)) (List.nodup_singleton url) ?_
  rw [List.disjoint_singleton, List.mem_map]
  rintro ⟨s, hs, hurl⟩
  exact hne s hs hurl

/-- Filling a slot leaves the addresses as they are. -/
lemma map_url_slots_fill (c : Cache) (url : String) (document : Document) :
    (c.fill url document).slots.map Slot.url = c.slots.map Slot.url := by
  rw [fill, List.map_map]
  refine List.map_congr_left fun s _ => ?_
  rw [Function.comp_apply]
  split <;> rfl

/-! ### The invariant -/

lemma consistent_empty (load : String → Except ContextFault Json) (capacity : Nat) (lifetime : Option Nat)
    (clock : Nat → Nat) : Consistent load (empty capacity lifetime clock) :=
  ⟨List.nodup_nil, fun _ hs => nomatch hs⟩

namespace Consistent

variable (h : Consistent load c)

include h

lemma atNext : Consistent load c.atNext := ⟨h.nodup, h.fetched⟩

/-- Slots may be dropped, and a slot without a document may be added for an address that has none. -/
lemma append_new {c' : Cache} {slots : List Slot} {since : Nat} (hslots : slots.Sublist c.slots)
    (hne : ∀ s ∈ slots, s.url ≠ url) (heq : c'.slots = slots ++ [⟨url, none, since⟩]) : Consistent load c' := by
  constructor
  · rw [heq]
    exact nodup_append_new h.nodup hslots hne none since
  · intro s hs document hdocument
    rw [heq, List.mem_append, List.mem_singleton] at hs
    rcases hs with hs | rfl
    · exact h.fetched s (hslots.subset hs) document hdocument
    · cases hdocument

lemma withSlot (url : String) : Consistent load (c.withSlot url) := by
  rw [Cache.withSlot]
  cases hslot : c.slot? url with
  | some s =>
    dsimp only
    split
    · exact h.append_new List.filter_sublist (fun s hs => (mem_others.1 hs).2) rfl
    · exact h
  | none =>
    have hsublist := slots_makeRoom_sublist c
    exact h.append_new hsublist (fun s hs => slot?_eq_none_iff.1 hslot s (hsublist.subset hs)) rfl

lemma fill (hdocument : Document.fetched load url = .ok document) : Consistent load (c.fill url document) := by
  have hurl : ∀ s : Slot, (if s.url = url then { s with document := some document } else s).url = s.url := by
    intro s
    split <;> rfl
  constructor
  · rw [map_url_slots_fill]
    exact h.nodup
  · intro s hs document' hdocument'
    obtain ⟨s, hmem, rfl⟩ := List.mem_map.1 hs
    rw [hurl]
    split at hdocument'
    · rename_i heq
      rw [heq, hdocument, Option.some.inj hdocument']
    · exact h.fetched s hmem document' hdocument'

/-- A slot with a document that is not expired at the next access is the slot that the access finds. -/
lemma holds_iff : c.Holds url ↔ ((c.atNext.liveSlot? url).bind Slot.document).isSome = true := by
  constructor
  · rintro ⟨s, hs, hurl, hexpired, hdocument⟩
    have hslot : c.atNext.slot? url = some s := (slot?_eq_some_iff h.nodup).2 ⟨hs, hurl⟩
    rw [liveSlot?_eq_some_iff.2 ⟨hslot, hexpired⟩]
    exact hdocument
  · intro hsome
    cases hlive : c.atNext.liveSlot? url with
    | none => simp [hlive] at hsome
    | some s =>
      rw [hlive] at hsome
      obtain ⟨hslot, hexpired⟩ := liveSlot?_eq_some_iff.1 hlive
      obtain ⟨hs, hurl⟩ := (slot?_eq_some_iff h.nodup).1 hslot
      exact ⟨s, hs, hurl, hexpired, hsome⟩

end Consistent

/-! ### One access -/

/-- An access gives the document of the slot that is not expired, or else what a fetch gives, and then it fills
the slot. -/
lemma resolve_eq (load : String → Except ContextFault Json) (url : String) (c : Cache) :
    resolve load url c =
      match (c.atNext.liveSlot? url).bind Slot.document with
      | some document => (.ok document, c.atNext.withSlot url)
      | none =>
        let c' := { c.atNext.withSlot url with fetches := c.fetches + 1 }
        match Document.fetched load url with
        | .ok document => (.ok document, c'.fill url document)
        | .error e => (.error e, c') := by
  rw [resolve, bind_document_slot?_withSlot, fetches_withSlot, fetches_atNext, Document.fetched]
  cases (c.atNext.liveSlot? url).bind Slot.document with
  | some document => rfl
  | none => cases (load url).bind (Document.ofJson url) <;> rfl

/-- An access answers as a fetch and keeps the invariant. -/
theorem ends_resolve (load : String → Except ContextFault Json) (url : String) :
    Ends (Consistent load) (resolve load url : Action Cache Document) (Document.fetched load url) := by
  intro c h
  have hslot := h.atNext.withSlot url
  show (resolve load url c).1 = _ ∧ Consistent load (resolve load url c).2
  rw [resolve_eq]
  cases hlive : (c.atNext.liveSlot? url).bind Slot.document with
  | some document =>
    -- what the slot holds is what its address gives
    obtain ⟨s, hs, hdocument⟩ := Option.bind_eq_some_iff.1 hlive
    obtain ⟨hmem, hurl⟩ := (slot?_eq_some_iff h.nodup).1 (liveSlot?_eq_some_iff.1 hs).1
    exact ⟨hurl ▸ (h.fetched s hmem document hdocument).symm, hslot⟩
  | none =>
    have hcounted : Consistent load { c.atNext.withSlot url with fetches := c.fetches + 1 } :=
      ⟨hslot.nodup, hslot.fetched⟩
    cases hfetched : Document.fetched load url with
    | ok document => exact ⟨rfl, hcounted.fill hfetched⟩
    | error e => exact ⟨rfl, hcounted⟩

/-- An access fetches just when no slot holds the document. -/
lemma fetches_resolve (load : String → Except ContextFault Json) (url : String) (c : Cache) :
    (resolve load url c).2.fetches =
      if ((c.atNext.liveSlot? url).bind Slot.document).isSome then c.fetches else c.fetches + 1 := by
  rw [resolve_eq]
  cases (c.atNext.liveSlot? url).bind Slot.document with
  | some document => simp
  | none => cases Document.fetched load url <;> rfl

end Cache

/-! ### Calls -/

variable {inv : σ → Prop} {fetch : String → Action σ Document} {direct : String → Except Error Document}

/-- Gathering documents depends on how they are fetched by what the fetches give only. -/
lemma ends_gather (hfetch : ∀ url, Ends inv (fetch url) (direct url)) (depth : Nat) (g : Gathered) (url : String) :
    Ends inv (gather fetch depth g url) (gather direct depth g url) := by
  induction depth generalizing g url with
  | zero => exact ends_throw _
  | succ depth ih =>
    rw [gather, gather]
    split
    · exact ends_pure g
    · refine (hfetch url).bind fun document => ?_
      exact (Ends.foldlM ih _ document.imports).bind fun g => ends_pure _

lemma ends_gatherAll (hfetch : ∀ url, Ends inv (fetch url) (direct url)) (urls : List String) :
    Ends inv (gatherAll fetch urls) (gatherAll direct urls) :=
  (Ends.foldlM (ends_gather hfetch longestChain) _ urls).bind fun _ => ends_pure _

namespace Cache

lemma ends_resolveAll (load : String → Except ContextFault Json) (urls : List String) :
    Ends (Consistent load) (resolveAll load urls) (gatherAll (Document.fetched load) urls) :=
  ends_gatherAll (ends_resolve load) urls

/-- The answer to a call does not depend on what the cache holds. -/
lemma ends_onCache (load : String → Except ContextFault Json) (call : Call) :
    Ends (Consistent load) (call.onCache load) (call.directly load) := by
  cases call with
  | resolve url => exact (ends_resolve load url).map Answer.document
  | resolveAll urls => exact (ends_resolveAll load urls).map Answer.context
  | expand name urls =>
    refine Ends.map ?_ Answer.fullName
    refine (ends_resolveAll load urls).bind fun context => ?_
    cases context.expand name with
    | ok iri => exact ends_pure iri
    | error fault => exact ends_throw _

/-- A run of calls gives the direct answers and keeps the invariant. -/
lemma Consistent.answers {c : Cache} (h : Consistent load c) (calls : List Call) :
    (Cache.answers load calls c).1 = calls.map (Call.directly load) ∧
      Consistent load (Cache.answers load calls c).2 := by
  induction calls generalizing c with
  | nil => exact ⟨rfl, h⟩
  | cons call calls ih =>
    obtain ⟨hanswer, h'⟩ := ends_onCache load call c h
    obtain ⟨hrest, h''⟩ := ih h'
    refine ⟨?_, h''⟩
    rw [List.map_cons, ← hanswer, ← hrest]
    rfl

/-- **A cache makes no difference.**  Whatever a cache is asked, one call after the other, each call is answered
as if every document were fetched from outside, and so as an empty cache answers it. This holds for every
capacity and lifetime, and for every clock, so slots may expire between any two accesses. After any such calls
an access fetches just when no slot of its address that is not expired has a document. -/
theorem answers_eq_directly (load : String → Except ContextFault Json) (capacity : Nat) (lifetime : Option Nat)
    (clock : Nat → Nat) (calls : List Call) :
    (answers load calls (empty capacity lifetime clock)).1 = calls.map (Call.directly load) ∧
      (∀ call : Call, ((call.onCache load).run.run (empty capacity lifetime clock)).1 = call.directly load) ∧
      ∀ url : String,
        let c := (answers load calls (empty capacity lifetime clock)).2
        (c.Holds url → (resolve load url c).2.fetches = c.fetches) ∧
          (¬ c.Holds url → (resolve load url c).2.fetches = c.fetches + 1) := by
  have hempty := consistent_empty load capacity lifetime clock
  obtain ⟨hanswers, h⟩ := hempty.answers calls
  refine ⟨hanswers, fun call => (ends_onCache load call _ hempty).1, fun url => ?_⟩
  dsimp only
  rw [h.holds_iff, fetches_resolve]
  exact ⟨fun hsome => if_pos hsome, fun hnone => if_neg hnone⟩

/-- Of three accesses the second one finds the slot of the first one, and for the third one it has expired. -/
example : (answers (fun _ => .ok (.obj [("@context", .null)])) (List.replicate 3 (.resolve "a"))
    (empty 1 (some 1))).2.fetches = 2 := rfl

end Cache

end EntityHistory
