/-
Sets of names.

The distinct names of a list in ascending order: they are the names of the list, each of them once.
-/
import Mathlib.Data.String.Basic
import EntityHistory.Query.Term

namespace EntityHistory

variable {name name' : String} {names set : List String}

lemma mem_insertName : name ∈ insertName name' set ↔ name = name' ∨ name ∈ set := by
  induction set with
  | nil => simp [insertName]
  | cons other rest ih =>
    rw [insertName]
    split
    · simp
    · split
      · rename_i heq
        simp [heq]
      · rw [List.mem_cons, ih, List.mem_cons]
        tauto

lemma pairwise_insertName (h : set.Pairwise (· < ·)) : (insertName name set).Pairwise (· < ·) := by
  induction set with
  | nil => simp [insertName]
  | cons other rest ih =>
    obtain ⟨hother, hrest⟩ := List.pairwise_cons.1 h
    rw [insertName]
    split
    · rename_i hlt
      refine List.pairwise_cons.2 ⟨?_, h⟩
      intro a ha
      rcases List.mem_cons.1 ha with rfl | ha
      · exact hlt
      · exact hlt.trans (hother a ha)
    · split
      · exact h
      · rename_i hlt hne
        refine List.pairwise_cons.2 ⟨?_, ih hrest⟩
        intro a ha
        rcases mem_insertName.1 ha with rfl | ha
        · exact lt_of_le_of_ne (le_of_not_gt hlt) (Ne.symm hne)
        · exact hother a ha

lemma mem_foldl_insertName :
    name ∈ names.foldl (fun set name => insertName name set) set ↔ name ∈ names ∨ name ∈ set := by
  induction names generalizing set with
  | nil => simp
  | cons first names ih =>
    rw [List.foldl_cons, ih, mem_insertName, List.mem_cons]
    tauto

@[simp] lemma mem_nameSet : name ∈ nameSet names ↔ name ∈ names := by
  simp [nameSet, mem_foldl_insertName]

lemma pairwise_nameSet (names : List String) : (nameSet names).Pairwise (· < ·) := by
  suffices h : ∀ set : List String, set.Pairwise (· < ·) →
      (names.foldl (fun set name => insertName name set) set).Pairwise (· < ·) from
    h [] List.Pairwise.nil
  induction names with
  | nil => exact fun _ h => h
  | cons first names ih => exact fun set h => ih _ (pairwise_insertName h)

lemma nameSet_eq_nil : nameSet names = [] ↔ names = [] := by
  simp only [List.eq_nil_iff_forall_not_mem, mem_nameSet]

end EntityHistory
