/-
Putting histories together.

The parts of histories are gathered under the entities they are of. The history of an entity is then the
merge of its parts in their order, and under each attribute it has what the parts have, one after the other.
Putting the instances in order keeps all of them, as long as no two have the same identifier.

* `TemporalEntity.get?_gatherParts`: the history of an entity is the merge of its parts;
* `TemporalEntity.listAt_of_mem_gatherParts`: the instances of an attribute are those of the parts;
* `isChain_dropRepeats`, `exists_mem_dropRepeats`: what is left when repeats are dropped;
* `dropRepeats_eq_self`: nothing is dropped when no key repeats.
-/
import Mathlib.Data.List.Sort
import EntityHistory.Entity.Temporal
import EntityHistory.Proofs.Named
import EntityHistory.Proofs.Names

namespace EntityHistory

/-! ### Dropping repeats -/

section DropRepeats

variable {α β : Type} [DecidableEq β] (key : α → β) {l : List α}

lemma dropRepeats_sublist (l : List α) : (dropRepeats key l).Sublist l := by
  induction l with
  | nil => exact List.Sublist.slnil
  | cons a rest ih =>
    rw [dropRepeats]
    split
    · exact List.cons_sublist_cons.2 (List.nil_sublist rest)
    · rename_i b kept heq
      rw [heq] at ih
      split
      · exact List.cons_sublist_cons.2 ((List.sublist_cons_self b kept).trans ih)
      · exact List.cons_sublist_cons.2 ih

/-- No key stands next to itself in what is left. -/
lemma isChain_dropRepeats (l : List α) : (dropRepeats key l).IsChain fun a b => key a ≠ key b := by
  induction l with
  | nil => exact List.IsChain.nil
  | cons a rest ih =>
    rw [dropRepeats]
    split
    case h_1 => exact List.IsChain.singleton a
    case h_2 b kept heq =>
      rw [heq] at ih
      split
      case isTrue hkey =>
        cases kept with
        | nil => exact List.IsChain.singleton a
        | cons c kept =>
          rw [List.isChain_cons_cons] at ih ⊢
          exact ⟨hkey ▸ ih.1, ih.2⟩
      case isFalse hkey => exact List.isChain_cons_cons.2 ⟨hkey, ih⟩

lemma head_mem_dropRepeats (a : α) (l : List α) : a ∈ dropRepeats key (a :: l) := by
  rw [dropRepeats]
  split
  · simp
  · split <;> simp

lemma dropRepeats_ne_nil (h : l ≠ []) : dropRepeats key l ≠ [] := by
  obtain ⟨a, rest, rfl⟩ := List.exists_cons_of_ne_nil h
  exact List.ne_nil_of_mem (head_mem_dropRepeats key a rest)

/-- Each key of the list stands somewhere in what is left. -/
lemma exists_mem_dropRepeats {a : α} (h : a ∈ l) : ∃ b ∈ dropRepeats key l, key b = key a := by
  induction l with
  | nil => cases h
  | cons first rest ih =>
    rcases List.mem_cons.1 h with rfl | h
    · exact ⟨a, head_mem_dropRepeats key a rest, rfl⟩
    · obtain ⟨b, hb, hba⟩ := ih h
      rw [dropRepeats]
      split
      case h_1 heq =>
        rw [heq] at hb
        cases hb
      case h_2 next kept heq =>
        rw [heq] at hb
        split
        case isTrue hkey =>
          -- the first element stands for the one that it replaces
          rcases List.mem_cons.1 hb with rfl | hb
          · exact ⟨first, List.mem_cons_self, hkey.trans hba⟩
          · exact ⟨b, List.mem_cons_of_mem first hb, hba⟩
        case isFalse => exact ⟨b, List.mem_cons_of_mem first hb, hba⟩

/-- Nothing is dropped from a list in which no key stands next to itself. -/
lemma dropRepeats_of_isChain (h : l.IsChain fun a b => key a ≠ key b) : dropRepeats key l = l := by
  induction l with
  | nil => rfl
  | cons a rest ih =>
    rw [dropRepeats, ih h.of_cons]
    cases rest with
    | nil => rfl
    | cons b rest => exact if_neg (List.isChain_cons_cons.1 h).1

/-- Nothing is dropped from a list in which no key stands twice. -/
lemma dropRepeats_eq_self (h : (l.map key).Nodup) : dropRepeats key l = l :=
  dropRepeats_of_isChain key (List.pairwise_map.1 h).isChain

end DropRepeats

namespace TemporalEntity

open Named

variable {a b p entity : TemporalEntity} {parts : List TemporalEntity} {entities : Named TemporalEntity}
  {e name : String} {property : TimeProperty}

/-! ### Merging -/

lemma attributes_merge : (a.merge b).attributes =
    b.attributes.foldl (fun lists entry => appendAt entry.1 entry.2 lists) a.attributes := rfl

lemma grouped_merge (ha : Grouped a.attributes) (hb : Grouped b.attributes) :
    Grouped (a.merge b).attributes :=
  ha.foldl Prod.fst Prod.snd hb.nonempty

lemma sorted_merge (ha : Sorted a.attributes) : Sorted (a.merge b).attributes :=
  ha.foldl_appendAt Prod.fst Prod.snd

lemma mem_names_merge :
    name ∈ names (a.merge b).attributes ↔ name ∈ names a.attributes ∨ name ∈ names b.attributes := by
  rw [attributes_merge, mem_names_foldl_appendAt]
  simp only [names, List.mem_map]

lemma listAt_merge (ha : Sorted a.attributes) (hb : Sorted b.attributes) :
    listAt (a.merge b).attributes name = listAt a.attributes name ++ listAt b.attributes name := by
  have hpick : (b.attributes.filter fun entry => entry.1 = name).flatMap Prod.snd =
      listAt b.attributes name := by
    rw [hb.filter_name, listAt]
    cases get? b.attributes name <;> simp
  rw [attributes_merge, listAt_foldl Prod.fst Prod.snd ha, hpick]

lemma sorted_foldl_merge (hp : Sorted p.attributes) : Sorted (parts.foldl merge p).attributes := by
  induction parts generalizing p with
  | nil => exact hp
  | cons part parts ih => exact ih (sorted_merge hp)

lemma grouped_foldl_merge (hp : Grouped p.attributes) (hparts : ∀ part ∈ parts, Grouped part.attributes) :
    Grouped (parts.foldl merge p).attributes := by
  induction parts generalizing p with
  | nil => exact hp
  | cons part parts ih =>
    exact ih (grouped_merge hp (hparts part (by simp)))
      fun other hother => hparts other (List.mem_cons_of_mem part hother)

/-- Merged histories have all attributes of the parts. -/
lemma mem_names_foldl_merge : name ∈ names (parts.foldl merge p).attributes ↔
    ∃ part ∈ p :: parts, name ∈ names part.attributes := by
  induction parts generalizing p with
  | nil => simp
  | cons part parts ih =>
    rw [List.foldl_cons, ih, List.exists_mem_cons_iff, mem_names_merge, or_assoc, List.exists_mem_cons_iff,
      List.exists_mem_cons_iff]

/-- Under each attribute of merged histories are the instances of all of them in their order. -/
lemma listAt_foldl_merge (hp : Sorted p.attributes) (hparts : ∀ part ∈ parts, Sorted part.attributes)
    (name : String) : listAt (parts.foldl merge p).attributes name =
      (p :: parts).flatMap fun part => listAt part.attributes name := by
  induction parts generalizing p with
  | nil => simp
  | cons part parts ih =>
    have hrest : ∀ other ∈ parts, Sorted other.attributes := fun other hother =>
      hparts other (List.mem_cons_of_mem part hother)
    rw [List.foldl_cons, ih (sorted_merge hp) hrest, List.flatMap_cons, listAt_merge hp (hparts part (by simp)),
      List.append_assoc]
    simp

lemma id_foldl_merge : (parts.foldl merge p).id = p.id := by
  induction parts generalizing p with
  | nil => rfl
  | cons part parts ih => exact ih

/-! ### Gathering -/

/-- The histories with one more part. -/
def addPart (entities : Named TemporalEntity) (part : TemporalEntity) : Named TemporalEntity :=
  update part.id
    (fun present => match present with
      | some entity => entity.merge part
      | none => part)
    entities

/-- The histories that some parts make. -/
def gatherParts (parts : List TemporalEntity) : Named TemporalEntity := parts.foldl addPart []

/-- The history of a list of parts, if there are any. -/
def mergeAll : List TemporalEntity → Option TemporalEntity
  | [] => none
  | part :: parts => some (parts.foldl merge part)

lemma sorted_foldl_addPart (h : Sorted entities) : Sorted (parts.foldl addPart entities) := by
  induction parts generalizing entities with
  | nil => exact h
  | cons part parts ih => exact ih h.update

lemma get?_foldl_addPart (h : Sorted entities) : get? (parts.foldl addPart entities) e =
    mergeAll ((get? entities e).toList ++ parts.filter fun part => part.id = e) := by
  induction parts generalizing entities with
  | nil => cases hget : get? entities e <;> simp [mergeAll, hget]
  | cons part parts ih =>
    have hsorted : Sorted (addPart entities part) := h.update
    rw [List.foldl_cons, ih hsorted, addPart, get?_update _ _ _ _ h]
    by_cases he : part.id = e
    · rw [if_pos he.symm, List.filter_cons_of_pos (by simpa using he), he]
      cases get? entities e <;> simp [mergeAll]
    · rw [if_neg (Ne.symm he), List.filter_cons_of_neg (by simpa using he)]

/-- The history of an entity is the merge of its parts. -/
theorem get?_gatherParts (parts : List TemporalEntity) (e : String) :
    get? (gatherParts parts) e = mergeAll (parts.filter fun part => part.id = e) :=
  get?_foldl_addPart List.Pairwise.nil

lemma sorted_gatherParts (parts : List TemporalEntity) : Sorted (gatherParts parts) :=
  sorted_foldl_addPart List.Pairwise.nil

lemma names_gatherParts (parts : List TemporalEntity) :
    names (gatherParts parts) = nameSet (parts.map (·.id)) := by
  refine List.Pairwise.eq_of_mem_iff (sorted_iff_names.1 (sorted_gatherParts parts)) (pairwise_nameSet _) ?_
  intro e
  rw [mem_nameSet, ← not_iff_not, ← get?_eq_none_iff, get?_gatherParts]
  cases hparts : parts.filter fun part => part.id = e with
  | nil =>
    have hnone : e ∉ parts.map (·.id) := by
      rw [List.filter_eq_nil_iff] at hparts
      simpa using hparts
    simpa [mergeAll] using hnone
  | cons part rest =>
    have hpart : part ∈ parts.filter fun part => part.id = e := by simp [hparts]
    have hmem : e ∈ parts.map (·.id) :=
      List.mem_map.2 ⟨part, List.mem_of_mem_filter hpart, of_decide_eq_true (List.mem_filter.1 hpart).2⟩
    simpa [mergeAll] using hmem

lemma exists_of_mem_gatherParts (h : (e, entity) ∈ gatherParts parts) :
    ∃ part rest, (parts.filter fun part => part.id = e) = part :: rest ∧ rest.foldl merge part = entity := by
  rw [← (sorted_gatherParts parts).get?_eq_some_iff, get?_gatherParts] at h
  cases hfilter : parts.filter fun part => part.id = e with
  | nil => simp [hfilter, mergeAll] at h
  | cons part rest => exact ⟨part, rest, rfl, by simpa [hfilter, mergeAll] using h⟩

lemma id_of_mem_gatherParts (h : (e, entity) ∈ gatherParts parts) : entity.id = e := by
  obtain ⟨part, rest, hfilter, rfl⟩ := exists_of_mem_gatherParts h
  have hpart : part ∈ parts.filter fun part => part.id = e := by simp [hfilter]
  exact id_foldl_merge.trans (of_decide_eq_true (List.mem_filter.1 hpart).2)

/-- The history of an entity has under each attribute the instances of the parts of this entity. -/
theorem listAt_of_mem_gatherParts (hparts : ∀ part ∈ parts, Grouped part.attributes)
    (h : (e, entity) ∈ gatherParts parts) : Grouped entity.attributes ∧
      ∀ name, listAt entity.attributes name =
        (parts.filter fun part => part.id = e).flatMap fun part => listAt part.attributes name := by
  obtain ⟨part, rest, hfilter, rfl⟩ := exists_of_mem_gatherParts h
  have hgrouped : ∀ other ∈ part :: rest, Grouped other.attributes := fun other hother => by
    rw [← hfilter] at hother
    exact hparts other (List.mem_of_mem_filter hother)
  rw [hfilter]
  exact ⟨grouped_foldl_merge (hgrouped part (by simp)) fun other hother =>
      hgrouped other (List.mem_cons_of_mem part hother),
    listAt_foldl_merge (hgrouped part (by simp)).sorted fun other hother =>
      (hgrouped other (List.mem_cons_of_mem part hother)).sorted⟩

/-! ### Instances in order -/

/-- Instances in the order of a time, each of them once. -/
def inOrder (property : TimeProperty) (instances : List TemporalInstance) : List TemporalInstance :=
  dropRepeats TemporalInstance.id (instances.mergeSort (TemporalInstance.isBefore property))

lemma inOrder_ne_nil {instances : List TemporalInstance} (h : instances ≠ []) :
    inOrder property instances ≠ [] := by
  refine dropRepeats_ne_nil TemporalInstance.id fun hnil => h ?_
  rw [← List.length_eq_zero_iff, ← List.length_mergeSort, hnil, List.length_nil]

lemma attributes_sortInstances :
    (entity.sortInstances property).attributes = mapValues (inOrder property) entity.attributes := rfl

lemma grouped_sortInstances (h : Grouped entity.attributes) :
    Grouped (entity.sortInstances property).attributes :=
  h.mapValues fun _ => inOrder_ne_nil

lemma listAt_sortInstances : listAt (entity.sortInstances property).attributes name =
    inOrder property (listAt entity.attributes name) := by
  rw [attributes_sortInstances, listAt_mapValues]
  simp [inOrder, dropRepeats]

end TemporalEntity

end EntityHistory
