/-
Room for slots.

A cache never has more slots than it has room for, whatever it has been asked, however often fetches have failed and
however much time has passed in between. Each access leaves a slot of its address: the one that there was, or a new
one if there was none or it had expired. Slots of other addresses stay as they are, with one exception: if the
address had no slot and there was no room, one slot is gone, and no slot was made before it.

* `Cache.length_keptSlots_lt`: there is room for a new slot when it is made;
* `Cache.RoomFor.accessed_withSlot`: what giving an address a slot does to the slots;
* `Cache.accessed_resolve`: what an access does to them after any accesses.
-/
import EntityHistory.Proofs.Context.Slots

namespace EntityHistory.Cache

variable {load : String → Except ContextFault Json} {capacity : Nat} {c c' : Cache} {url : String} {s : Slot}

/-! ### Specification -/

/-- A cache after accesses to addresses, one after the other. What is found outside may be different each time. -/
def afterAccesses (c : Cache) (accesses : List ((String → Except ContextFault Json) × String)) : Cache :=
  accesses.foldl (fun c (load, url) => (resolve load url c).2) c

/-- What an access to an address does to the slots of a cache, which has room for so many slots, but for one at
least. -/
structure Accessed (capacity : Nat) (url : String) (c c' : Cache) : Prop where
  length_le : c'.slots.length ≤ max capacity 1
  size_le : c'.size ≤ max capacity 1
  /-- The address has one slot. It is as old as the one that there was, or new if there was none or only an expired
  one. -/
  exists_slot : ∃ s ∈ c'.slots, s.url = url ∧ (∀ t ∈ c'.slots, t.url = url → t = s) ∧
    (∀ t ∈ c.slots, t.url = url → c.atNext.isExpired t = false → s.since = t.since) ∧
    ((∀ t ∈ c.slots, t.url = url → c.atNext.isExpired t = true) → s.since = c.atNext.now)
  /-- Slots of other addresses are neither made nor changed. -/
  mem_of_ne : ∀ s ∈ c'.slots, s.url ≠ url → s ∈ c.slots
  /-- A slot of another address is gone only if the address had none and there was no room. It is one of the oldest
  then, and the only one that is gone. -/
  removed : ∀ t ∈ c.slots, t.url ≠ url → t ∉ c'.slots → (∀ s ∈ c.slots, s.url ≠ url) ∧
    c.slots.length = max capacity 1 ∧ (∀ s ∈ c.slots, t.since ≤ s.since) ∧ ∀ s ∈ c.slots, s ∉ c'.slots → s = t

/-- No address has two slots, and there are not more than there is room for. -/
structure RoomFor (capacity : Nat) (c : Cache) : Prop where
  capacity_eq : c.capacity = max capacity 1
  length_le : c.slots.length ≤ max capacity 1
  nodup : (c.slots.map Slot.url).Nodup

/-! ### Making room -/

lemma length_others_lt (h : s ∈ c.slots) : (c.others s.url).length < c.slots.length :=
  List.length_filter_lt_length_iff_exists.2 ⟨s, h, by simp⟩

lemma oldest?_eq_none_iff : c.oldest? = none ↔ c.slots = [] := by
  rw [oldest?_eq, foldl_keepBetter_eq_none_iff]

/-- There is room for one more slot when an address gets a new one. -/
lemma length_keptSlots_lt (hpos : 0 < c.capacity) (hle : c.slots.length ≤ c.capacity) :
    (c.keptSlots url).length < c.capacity := by
  rw [keptSlots]
  cases hslot : c.slot? url with
  | some s =>
    have hurl : s.url = url := by simpa using List.find?_some hslot
    exact (hurl ▸ length_others_lt (List.mem_of_find?_eq_some hslot)).trans_le hle
  | none =>
    dsimp only
    rw [makeRoom]
    split
    case isTrue hroom => exact hroom
    case isFalse =>
      cases holdest : c.oldest? with
      | none => simpa [oldest?_eq_none_iff.1 holdest] using hpos
      | some s => exact (length_others_lt (mem_and_since_le_of_oldest? holdest).1).trans_le hle

lemma capacity_withSlot (c : Cache) (url : String) : (c.withSlot url).capacity = c.capacity := by
  rw [withSlot_eq]
  split <;> rfl

/-- A slot of another address that is gone has made room. -/
lemma makesRoomFor_of_not_mem (h : (c.slots.map Slot.url).Nodup) (hs : s ∈ c.slots) (hne : s.url ≠ url)
    (hgone : s ∉ c.keptSlots url) : c.MakesRoomFor url s := by
  rw [mem_keptSlots] at hgone
  push Not at hgone
  obtain ⟨t, ht, hurl⟩ := hgone hs hne
  rwa [List.inj_on_of_nodup_map h hs (mem_and_since_le_of_oldest? ht.oldest).1 hurl]

lemma size_le_length (c : Cache) : c.size ≤ c.slots.length := List.length_filter_le _ _

namespace RoomFor

variable (h : RoomFor capacity c)

include h

lemma length_withSlot_le (url : String) : (c.withSlot url).slots.length ≤ max capacity 1 := by
  have hcapacity := h.capacity_eq
  have hkept : (c.keptSlots url).length < c.capacity :=
    length_keptSlots_lt (by omega) (h.capacity_eq.symm ▸ h.length_le)
  rw [withSlot_eq]
  split
  · exact h.length_le
  · rw [List.length_append, List.length_singleton]
    omega

/-- What giving an address a slot does to the slots. -/
lemma accessed_withSlot (url : String) : Accessed capacity url c (c.atNext.withSlot url) := by
  have hnext : RoomFor capacity c.atNext := ⟨h.capacity_eq, h.length_le, h.nodup⟩
  have hlength := hnext.length_withSlot_le url
  refine ⟨hlength, (size_le_length _).trans hlength, ?_, ?_, ?_⟩
  all_goals
    rw [withSlot_eq]
    cases hlive : c.atNext.liveSlot? url
  case refine_1.some s =>
    obtain ⟨hslot, hexpired⟩ := liveSlot?_eq_some_iff.1 hlive
    obtain ⟨hmem, hurl⟩ := (slot?_eq_some_iff hnext.nodup).1 hslot
    have hunique : ∀ t ∈ c.slots, t.url = url → t = s :=
      fun t ht hturl => List.inj_on_of_nodup_map h.nodup ht hmem (hturl.trans hurl.symm)
    refine ⟨s, hmem, hurl, hunique, fun t ht hturl _ => by rw [hunique t ht hturl], fun hall => ?_⟩
    rw [hall s hmem hurl] at hexpired
    cases hexpired
  case refine_1.none =>
    refine ⟨⟨url, none, c.atNext.now⟩, List.mem_append_right _ (List.mem_singleton_self _), rfl, ?_, ?_, fun _ => rfl⟩
    · intro t ht hturl
      rcases List.mem_append.1 ht with ht | ht
      · exact absurd hturl (mem_keptSlots.1 ht).2.1
      · exact List.mem_singleton.1 ht
    · intro t ht hturl hexpired
      have hslot := (slot?_eq_some_iff hnext.nodup).2 ⟨ht, hturl⟩
      rw [liveSlot?_eq_some_iff.2 ⟨hslot, hexpired⟩] at hlive
      cases hlive
  case refine_2.some => exact fun s hs _ => hs
  case refine_2.none =>
    intro s hs hne
    rcases List.mem_append.1 hs with hs | hs
    · exact (mem_keptSlots.1 hs).1
    · rw [List.mem_singleton.1 hs] at hne
      exact absurd rfl hne
  case refine_3.some => exact fun t ht _ hgone => absurd ht hgone
  case refine_3.none =>
    intro t ht hne hgone
    have hroom := makesRoomFor_of_not_mem hnext.nodup ht hne fun hkept => hgone (List.mem_append_left _ hkept)
    refine ⟨hroom.absent, le_antisymm h.length_le (h.capacity_eq ▸ hroom.full),
      (mem_and_since_le_of_oldest? hroom.oldest).2, fun s hs hsgone => ?_⟩
    have hroom' := makesRoomFor_of_not_mem hnext.nodup hs (hroom.absent s hs)
      fun hkept => hsgone (List.mem_append_left _ hkept)
    exact Option.some.inj (hroom'.oldest.symm.trans hroom.oldest)

end RoomFor

/-! ### Filling a slot -/

lemma mem_fill_iff_of_ne {document : Document} (hne : s.url ≠ url) :
    s ∈ (c.fill url document).slots ↔ s ∈ c.slots := by
  rw [fill, List.mem_map]
  constructor
  · rintro ⟨t, ht, rfl⟩
    split at hne
    · rename_i hurl
      exact absurd hurl hne
    · rename_i hurl
      rwa [if_neg hurl]
  · exact fun hs => ⟨s, hs, if_neg hne⟩

namespace Accessed

variable (h : Accessed capacity url c c')

include h

/-- Nothing but the slots matters. -/
lemma of_slots_eq {c'' : Cache} (heq : c''.slots = c'.slots) : Accessed capacity url c c'' := by
  have hsize : c''.size = c'.size := by rw [size, size, heq]
  refine ⟨heq ▸ h.length_le, hsize ▸ h.size_le, ?_, ?_, ?_⟩
  · rw [heq]
    exact h.exists_slot
  · rw [heq]
    exact h.mem_of_ne
  · rw [heq]
    exact h.removed

/-- Putting a document into the slot of the address changes nothing else. -/
lemma fill (document : Document) : Accessed capacity url c (c'.fill url document) := by
  have hlength : (c'.fill url document).slots.length ≤ max capacity 1 := by
    rw [Cache.fill, List.length_map]
    exact h.length_le
  refine ⟨hlength, (size_le_length _).trans hlength, ?_, ?_, ?_⟩
  · obtain ⟨s, hs, hurl, hunique, hlive, hnew⟩ := h.exists_slot
    refine ⟨{ s with document := some document }, List.mem_map.2 ⟨s, hs, if_pos hurl⟩, hurl, ?_, hlive, hnew⟩
    intro t ht hturl
    obtain ⟨r, hr, rfl⟩ := List.mem_map.1 ht
    split at hturl
    · rename_i hrurl
      rw [if_pos hrurl, hunique r hr hrurl]
    · rename_i hrurl
      exact absurd hturl hrurl
  · exact fun s hs hne => h.mem_of_ne s ((mem_fill_iff_of_ne hne).1 hs) hne
  · intro t ht hne hgone
    obtain ⟨habsent, hfull, holdest, honly⟩ := h.removed t ht hne fun hmem => hgone ((mem_fill_iff_of_ne hne).2 hmem)
    exact ⟨habsent, hfull, holdest, fun s hs hsgone =>
      honly s hs fun hmem => hsgone ((mem_fill_iff_of_ne (habsent s hs)).2 hmem)⟩

end Accessed

/-! ### Accesses -/

namespace RoomFor

lemma empty (capacity : Nat) (lifetime : Option Nat) (clock : Nat → Nat) :
    RoomFor capacity (Cache.empty capacity lifetime clock) :=
  ⟨rfl, Nat.zero_le _, List.nodup_nil⟩

variable (h : RoomFor capacity c)

include h

lemma accessed (load : String → Except ContextFault Json) (url : String) :
    Accessed capacity url c (Cache.resolve load url c).2 := by
  have hslot := h.accessed_withSlot url
  rw [resolve_eq]
  cases (c.atNext.liveSlot? url).bind Slot.document with
  | some document => exact hslot
  | none =>
    cases Document.fetched load url with
    | error e => exact hslot.of_slots_eq rfl
    | ok document => exact (hslot.fill document).of_slots_eq rfl

/-- An access leaves no more slots than there is room for. -/
lemma resolve (load : String → Except ContextFault Json) (url : String) :
    RoomFor capacity (Cache.resolve load url c).2 := by
  have hcapacity : (Cache.resolve load url c).2.capacity = c.capacity := by
    rw [resolve_eq]
    cases (c.atNext.liveSlot? url).bind Slot.document with
    | some document => exact capacity_withSlot c.atNext url
    | none => cases Document.fetched load url <;> exact capacity_withSlot c.atNext url
  exact ⟨hcapacity.trans h.capacity_eq, (h.accessed load url).length_le, keeps_nodup_resolve load url c h.nodup⟩

lemma afterAccesses (accesses : List ((String → Except ContextFault Json) × String)) :
    RoomFor capacity (c.afterAccesses accesses) := by
  induction accesses generalizing c with
  | nil => exact h
  | cons access accesses ih => exact ih (h.resolve access.1 access.2)

end RoomFor

/-- **What an access does to the slots.**  After any accesses, in a cache for which any capacity and lifetime have been
set, whatever has been found outside and however time has passed, one more access leaves no more slots than there is
room for, and among them one of its address. A slot of another address is gone only if the address had none and there
was no room; then it is the only one, and no slot was older. -/
theorem accessed_resolve (capacity : Nat) (lifetime : Option Nat) (clock : Nat → Nat)
    (accesses : List ((String → Except ContextFault Json) × String)) (load : String → Except ContextFault Json)
    (url : String) :
    let c := (empty capacity lifetime clock).afterAccesses accesses
    Accessed capacity url c (resolve load url c).2 :=
  ((RoomFor.empty capacity lifetime clock).afterAccesses accesses).accessed load url

end EntityHistory.Cache
