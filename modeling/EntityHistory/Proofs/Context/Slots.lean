/-
The slots of a cache.

An access gives its address a slot before the document is fetched. If the address had no slot and the cache was
full, the oldest slot has made room by then. So a fetch that fails takes a document out of the cache just when
the oldest slot held one that had not expired; everything else in the cache stays as it was.

* `Cache.Reachable`: the caches that calls lead to, whatever is found outside in the meantime;
* `Cache.withSlot_eq`, `Cache.mem_keptSlots`: which slots stay when an address gets a new one;
* `Cache.held_withSlot`: what the cache holds then;
* `Cache.held_resolve_of_fetched_eq_error`: what it holds after a fetch that fails.
-/
import Mathlib.Order.BooleanAlgebra.Set
import EntityHistory.Proofs.Context.Cache
import EntityHistory.Proofs.Sorting

namespace EntityHistory

variable {load : String → Except ContextFault Json}

/-! ### Calls keep what accesses keep -/

section Calls

variable {σ : Type} {inv : σ → Prop} {fetch : String → Action σ Document}

lemma keeps_gather (hfetch : ∀ url, Keeps inv (fetch url)) (depth : Nat) (g : Gathered) (url : String) :
    Keeps inv (gather fetch depth g url) := by
  induction depth generalizing g url with
  | zero => exact keeps_throw _
  | succ depth ih =>
    rw [gather]
    split
    · exact keeps_pure g
    · refine (hfetch url).bind fun document => ?_
      exact (Keeps.foldlM ih _ document.imports).bind fun g => keeps_pure _

lemma keeps_gatherAll (hfetch : ∀ url, Keeps inv (fetch url)) (urls : List String) :
    Keeps inv (gatherAll fetch urls) :=
  (Keeps.foldlM (keeps_gather hfetch longestChain) _ urls).bind fun _ => keeps_pure _

end Calls

namespace Cache

variable {c : Cache} {url other : String} {s t : Slot} {e : Error}

/-- A call keeps what every access keeps. -/
lemma keeps_onCache {inv : Cache → Prop}
    (hresolve : ∀ url, Keeps inv (resolve load url : Action Cache Document)) (call : Call) :
    Keeps inv (call.onCache load) := by
  cases call with
  | resolve url => exact (hresolve url).map Answer.document
  | resolveAll urls => exact (keeps_gatherAll hresolve urls).map Answer.context
  | expand name urls =>
    refine Keeps.map ?_ Answer.fullName
    refine (keeps_gatherAll hresolve urls).bind fun context => ?_
    cases context.expand name with
    | ok iri => exact keeps_pure iri
    | error fault => exact keeps_throw _

/-! ### Specification -/

/-- A cache that calls lead to from an empty one. Between two calls time passes as the clock has it, and
outside documents may appear, change and disappear. -/
inductive Reachable : Cache → Prop
  | empty (capacity : Nat) (lifetime : Option Nat) (clock : Nat → Nat) :
    Reachable (Cache.empty capacity lifetime clock)
  | call {c : Cache} (load : String → Except ContextFault Json) (call : Call) (h : Reachable c) :
    Reachable ((call.onCache load).run.run c).2

/-- The addresses whose documents are in the cache, in slots that have not expired. -/
def held (c : Cache) : Set String :=
  { url | ∃ s ∈ c.slots, s.url = url ∧ c.isExpired s = false ∧ s.document.isSome = true }

/-- A slot makes room for that of an address: the address has none, the cache is full, and the slot is the
oldest one. -/
structure MakesRoomFor (c : Cache) (url : String) (s : Slot) : Prop where
  absent : ∀ t ∈ c.slots, t.url ≠ url
  full : c.capacity ≤ c.slots.length
  oldest : c.oldest? = some s

/-! ### The oldest slot -/

lemma oldest?_eq (c : Cache) :
    c.oldest? = c.slots.foldl (keepBetter fun s t => decide (s.since < t.since)) none := by
  rw [oldest?]
  refine congrArg (fun step => c.slots.foldl step none) (funext fun best => funext fun s => ?_)
  cases best <;> simp [keepBetter]

/-- The oldest slot is one of the slots, and none of them is older. -/
lemma mem_and_since_le_of_oldest? (h : c.oldest? = some s) : s ∈ c.slots ∧ ∀ t ∈ c.slots, s.since ≤ t.since := by
  have htrans : ∀ r s t : Slot, decide (r.since < s.since) = true →
      (decide (s.since < t.since) = true ∨ decide (t.since < s.since) = false) →
        decide (r.since < t.since) = true := by
    intro r s t hrs hst
    simp only [decide_eq_true_eq, decide_eq_false_iff_not] at *
    omega
  rw [oldest?_eq] at h
  obtain ⟨before, after, hslots, hbefore, hafter⟩ := exists_append_of_foldl_keepBetter htrans h
  rw [hslots]
  refine ⟨by simp, fun t ht => ?_⟩
  rw [List.mem_append, List.mem_cons] at ht
  rcases ht with ht | rfl | ht
  · exact Nat.le_of_lt (of_decide_eq_true (hbefore t ht))
  · exact Nat.le_refl _
  · exact Nat.le_of_not_lt (of_decide_eq_false (hafter t ht))

/-! ### A new slot -/

/-- The slots that stay when an address gets a new one. -/
def keptSlots (c : Cache) (url : String) : List Slot :=
  match c.slot? url with
  | some _ => c.others url
  | none => c.makeRoom.slots

/-- The slot of an address stays as it is until it expires. -/
lemma withSlot_eq (c : Cache) (url : String) : c.withSlot url =
    if (c.liveSlot? url).isSome then c else { c with slots := c.keptSlots url ++ [⟨url, none, c.now⟩] } := by
  rw [withSlot, liveSlot?, keptSlots]
  cases hslot : c.slot? url with
  | some s => cases hexpired : c.isExpired s <;> simp [Option.filter, hexpired]
  | none =>
    have hroom : ∃ slots, c.makeRoom = { c with slots } := by
      rw [makeRoom]
      split
      · exact ⟨c.slots, rfl⟩
      · split
        · exact ⟨c.slots, rfl⟩
        · exact ⟨_, rfl⟩
    obtain ⟨slots, hroom⟩ := hroom
    rw [hroom]
    rfl

lemma keptSlots_sublist (c : Cache) (url : String) : (c.keptSlots url).Sublist c.slots := by
  rw [keptSlots]
  split
  · exact List.filter_sublist
  · exact slots_makeRoom_sublist c

/-- All slots stay, apart from that of the address itself and the one that makes room for it. -/
lemma mem_keptSlots : s ∈ c.keptSlots url ↔
    s ∈ c.slots ∧ s.url ≠ url ∧ ∀ t, c.MakesRoomFor url t → s.url ≠ t.url := by
  rw [keptSlots]
  cases hslot : c.slot? url with
  | some t =>
    have hpresent : ∀ t, ¬ c.MakesRoomFor url t := by
      intro t' hroom
      rw [slot?_eq_none_iff.2 hroom.absent] at hslot
      cases hslot
    rw [mem_others]
    simp [hpresent]
  | none =>
    have habsent := slot?_eq_none_iff.1 hslot
    have hne : s ∈ c.slots → s.url ≠ url := habsent s
    dsimp only
    rw [makeRoom]
    split
    case isTrue hroom =>
      have hnot : ∀ t, ¬ c.MakesRoomFor url t := fun t ht => absurd ht.full (Nat.not_le_of_lt hroom)
      simpa [hnot] using hne
    case isFalse hfull =>
      split
      case h_1 hnone =>
        have hnot : ∀ t, ¬ c.MakesRoomFor url t := by
          intro t ht
          cases hnone.symm.trans ht.oldest
        simpa [hnot] using hne
      case h_2 oldest holdest =>
        have hiff : ∀ t, c.MakesRoomFor url t ↔ oldest = t := by
          refine fun t => ⟨fun ht => Option.some.inj (holdest.symm.trans ht.oldest), ?_⟩
          rintro rfl
          exact ⟨habsent, Nat.le_of_not_lt hfull, holdest⟩
        simp only [mem_others, hiff, forall_eq']
        exact ⟨fun h => ⟨h.1, hne h.1, h.2⟩, fun h => ⟨h.1, h.2.2⟩⟩

/-- An access keeps the addresses of the slots apart. -/
lemma keeps_nodup_resolve (load : String → Except ContextFault Json) (url : String) :
    Keeps (fun c : Cache => (c.slots.map Slot.url).Nodup) (resolve load url : Action Cache Document) := by
  intro c hc
  have hslot : ((c.atNext.withSlot url).slots.map Slot.url).Nodup := by
    rw [withSlot_eq]
    split
    · exact hc
    · exact nodup_append_new hc (keptSlots_sublist c.atNext url) (fun s hs => (mem_keptSlots.1 hs).2.1) _ _
  show ((resolve load url c).2.slots.map Slot.url).Nodup
  rw [resolve_eq]
  cases (c.atNext.liveSlot? url).bind Slot.document with
  | some document => exact hslot
  | none =>
    cases Document.fetched load url with
    | error e => exact hslot
    | ok document =>
      dsimp only
      rw [map_url_slots_fill]
      exact hslot

/-- No address has two slots in a cache that calls lead to. -/
lemma Reachable.nodup (h : Reachable c) : (c.slots.map Slot.url).Nodup := by
  induction h with
  | empty => exact List.nodup_nil
  | call load call _ ih => exact keeps_onCache (keeps_nodup_resolve load) call _ ih

/-! ### What a cache holds -/

/-- When an address gets a slot, the cache only loses the document in the slot that makes room. -/
lemma held_withSlot (h : (c.slots.map Slot.url).Nodup) (url : String) :
    (c.withSlot url).held = c.held \ { other | ∃ t, c.MakesRoomFor url t ∧ t.url = other } := by
  ext other
  rw [withSlot_eq, Set.mem_sdiff]
  split
  case isTrue hlive =>
    obtain ⟨s, hs⟩ := Option.isSome_iff_exists.1 hlive
    obtain ⟨hmem, hurl⟩ := (slot?_eq_some_iff h).1 (liveSlot?_eq_some_iff.1 hs).1
    have hnot : ∀ t, ¬ c.MakesRoomFor url t := fun t ht => ht.absent s hmem hurl
    simp [hnot]
  case isFalse hlive =>
    constructor
    · rintro ⟨s, hs, rfl, hexpired, hdocument⟩
      rcases List.mem_append.1 hs with hs | hs
      · obtain ⟨hmem, -, hroom⟩ := mem_keptSlots.1 hs
        exact ⟨⟨s, hmem, rfl, hexpired, hdocument⟩, fun ⟨t, ht, hurl⟩ => hroom t ht hurl.symm⟩
      · -- the new slot has no document
        rw [List.mem_singleton.1 hs] at hdocument
        cases hdocument
    · rintro ⟨⟨s, hmem, rfl, hexpired, hdocument⟩, hroom⟩
      have hne : s.url ≠ url := by
        rintro rfl
        have hslot := (slot?_eq_some_iff h).2 ⟨hmem, rfl⟩
        rw [liveSlot?_eq_some_iff.2 ⟨hslot, hexpired⟩] at hlive
        exact hlive rfl
      have hkept : s ∈ c.keptSlots url := mem_keptSlots.2 ⟨hmem, hne, fun t ht hurl => hroom ⟨t, ht, hurl.symm⟩⟩
      exact ⟨s, List.mem_append_left _ hkept, rfl, hexpired, hdocument⟩

/-- **What a failed fetch leaves.**  In any cache that calls lead to, an access whose fetch fails takes away the
document in the slot that makes room for the address, and no other one. So the cache holds the same documents as
before just when no slot makes room, or one that holds no document or has expired. -/
theorem held_resolve_of_fetched_eq_error (h : Reachable c) (hfailed : Document.fetched load url = .error e) :
    (resolve load url c).2.held = c.atNext.held \ { other | ∃ t, c.MakesRoomFor url t ∧ t.url = other } ∧
      ((resolve load url c).2.held = c.atNext.held ↔
        ∀ t, c.MakesRoomFor url t → t.document.isSome = true → c.atNext.isExpired t = true) := by
  have hslots : (resolve load url c).2.held = (c.atNext.withSlot url).held := by
    rw [resolve_eq, hfailed]
    cases (c.atNext.liveSlot? url).bind Slot.document <;> rfl
  have hroom : ∀ t, c.atNext.MakesRoomFor url t ↔ c.MakesRoomFor url t :=
    fun t => ⟨fun ht => ⟨ht.absent, ht.full, ht.oldest⟩, fun ht => ⟨ht.absent, ht.full, ht.oldest⟩⟩
  have hheld := held_withSlot (c := c.atNext) h.nodup url
  simp only [hroom] at hheld
  rw [hslots, hheld, sdiff_eq_left, Set.disjoint_left]
  refine ⟨rfl, ?_⟩
  constructor
  · intro hdisjoint t ht hdocument
    by_contra hexpired
    have hmem := (mem_and_since_le_of_oldest? ht.oldest).1
    exact hdisjoint ⟨t, hmem, rfl, Bool.eq_false_of_not_eq_true hexpired, hdocument⟩ ⟨t, ht, rfl⟩
  · rintro hall other ⟨s, hmem, rfl, hexpired, hdocument⟩ ⟨t, ht, hurl⟩
    obtain rfl : t = s := List.inj_on_of_nodup_map h.nodup (mem_and_since_le_of_oldest? ht.oldest).1 hmem hurl
    rw [hall t ht hdocument] at hexpired
    cases hexpired

/-- Only one address has a document. -/
def onlyFirst : String → Except ContextFault Json
  | "a" => .ok (.obj [("@context", .null)])
  | url => .error (.notAvailable url)

/-- A cache with room for one slot, in which there is a document. -/
def oneSlot : Cache := ((Call.resolve "a").onCache onlyFirst |>.run.run (empty 1 none)).2

theorem held_resolve_of_fetched_eq_error_oneSlot :
    Reachable oneSlot ∧ Document.fetched onlyFirst "b" = .error (.contextUnavailable (.notAvailable "b")) ∧
      (resolve onlyFirst "b" oneSlot).2.held =
        oneSlot.atNext.held \ { other | ∃ t, oneSlot.MakesRoomFor "b" t ∧ t.url = other } ∧
      ((resolve onlyFirst "b" oneSlot).2.held = oneSlot.atNext.held ↔
        ∀ t, oneSlot.MakesRoomFor "b" t → t.document.isSome = true → oneSlot.atNext.isExpired t = true) := by
  have hreachable : Reachable oneSlot := .call onlyFirst (.resolve "a") (.empty 1 none id)
  exact ⟨hreachable, rfl, held_resolve_of_fetched_eq_error hreachable rfl⟩

/-- A fetch that fails may take another document out of the cache. -/
theorem exists_held_resolve_ne : ∃ (load : String → Except ContextFault Json) (url : String) (e : Error) (c : Cache),
    Reachable c ∧ Document.fetched load url = .error e ∧ (resolve load url c).2.held ≠ c.atNext.held := by
  refine ⟨onlyFirst, "b", _, oneSlot, .call onlyFirst (.resolve "a") (.empty 1 none id), rfl, fun heq => ?_⟩
  have hbefore : "a" ∈ oneSlot.atNext.held := ⟨_, List.mem_singleton_self _, rfl, rfl, rfl⟩
  rw [← heq] at hbefore
  obtain ⟨s, hs, hurl, -⟩ := hbefore
  rw [List.mem_singleton.1 hs] at hurl
  exact absurd hurl (by decide)

end Cache

end EntityHistory
