/-
What the log in memory answers.

The log answers every question from what it holds and stays as it is. To a question for instances it gives,
attribute by attribute, those that are first in the order of the question.

* `Log.pairwise_ordered`: the instances are in the order of the question;
* `Log.listAt_group_findInstances`: the answer for one attribute;
* `Log.findInstances_perm`: the answer when there is room for all instances.
-/
import Mathlib.Data.Prod.Lex
import Mathlib.Order.WithBot
import EntityHistory.Proofs.Named
import EntityHistory.Proofs.Running
import EntityHistory.Proofs.Sorting
import EntityHistory.Proofs.Time.Order
import EntityHistory.Store.Memory

namespace EntityHistory.Log

open Named

variable {log : Log} {q : InstanceQuery} {property : TimeProperty} {i j : AttributeInstance}
  {instances : List AttributeInstance} {attributeId : String}

/-! ### Answers -/

section Engine

variable [PatternEngine]

lemma gives_findIntervals {q : IntervalQuery} {page : IntervalPage} (h : log.findIntervals q = .ok page) :
    Gives (repository.findIntervals q) log page log := by
  have hget : Gives (get : Action Log Log) log log log := rfl
  refine hget.bind ?_
  rw [h]
  exact gives_pure page log

lemma gives_instances (q : InstanceQuery) (log : Log) :
    Gives (repository.instances q) log (log.findInstances q) log := rfl

lemma gives_subInstances (parentIds : List String) (log : Log) :
    Gives (repository.subInstances parentIds) log (log.findSubInstances parentIds) log := rfl

lemma gives_entityRecords (entityId : String) (log : Log) :
    Gives (repository.entityRecords entityId) log (log.entityRecords entityId) log := rfl

lemma gives_creationTimes (entityId attributeId : String) (log : Log) :
    Gives (repository.creationTimes entityId attributeId) log
      (creationTimesIn log.instances entityId attributeId) log := rfl

lemma gives_mostAttributes (entityIds : List String) (log : Log) :
    Gives (repository.mostAttributes entityIds) log (log.mostAttributes entityIds) log := rfl

end Engine

lemma findSubInstances_nil (log : Log) : log.findSubInstances [] = [] := by
  simp [findSubInstances]

/-! ### Picking from lists -/

section Picking

variable {α ι : Type} {p : ι → α → Bool} {l l' : List α} {is : List ι}

lemma filter_append_filter_perm {p q : α → Bool} (h : ∀ a ∈ l, p a = true → q a = false) :
    (l.filter p ++ l.filter q).Perm (l.filter fun a => p a || q a) := by
  have hleft : (l.filter fun a => p a || q a).filter p = l.filter p := by
    rw [List.filter_filter]
    exact List.filter_congr fun a _ => by cases p a <;> rfl
  have hright : (l.filter fun a => p a || q a).filter (fun a => !p a) = l.filter q := by
    rw [List.filter_filter]
    refine List.filter_congr fun a ha => ?_
    cases hp : p a with
    | true => simp [h a ha hp]
    | false => simp
  have hsplit := List.filter_append_perm p (l.filter fun a => p a || q a)
  rwa [hleft, hright] at hsplit

/-- What satisfies one of several conditions that exclude each other is what satisfies each of them. -/
lemma flatMap_filter_perm (h : is.Pairwise fun i j => ∀ a ∈ l, p i a = true → p j a = false) :
    (is.flatMap fun i => l.filter (p i)).Perm (l.filter fun a => is.any fun i => p i a) := by
  induction is with
  | nil => simp
  | cons i is ih =>
    obtain ⟨hi, his⟩ := List.pairwise_cons.1 h
    have hexclude : ∀ a ∈ l, p i a = true → (is.any fun j => p j a) = false := by
      intro a ha hp
      rw [List.any_eq_false]
      exact fun j hj => by simp [hi j hj a ha hp]
    simp only [List.flatMap_cons, List.any_cons]
    exact ((ih his).append_left _).trans (filter_append_filter_perm hexclude)

/-- Lists with the same elements under each name have the same elements. -/
lemma perm_of_filter_perm (name : α → String)
    (h : ∀ n, (l.filter fun a => name a = n).Perm (l'.filter fun a => name a = n)) : l.Perm l' := by
  classical
  refine List.perm_iff_count.2 fun a => ?_
  have hcount := (h (name a)).count_eq a
  rwa [List.count_filter (by simp), List.count_filter (by simp)] at hcount

end Picking

/-! ### The order of instances -/

/-- What instances are ordered by. -/
def key (property : TimeProperty) (i : AttributeInstance) : WithBot Instant ×ₗ String :=
  match i.time? property with
  | some t => toLex ((t : WithBot Instant), i.id)
  | none => toLex (⊥, "")

lemma isBefore_iff_key_le : isBefore property i j = true ↔ key property i ≤ key property j := by
  rw [isBefore, key, key]
  cases i.time? property with
  | none =>
    cases j.time? property with
    | none => simp
    | some t => simp [Prod.Lex.toLex_le_toLex]
  | some s =>
    cases j.time? property with
    | none => simp [Prod.Lex.toLex_le_toLex]
    | some t => simp [Prod.Lex.toLex_le_toLex]

lemma time_le_of_isBefore {s t : Instant} (h : isBefore property i j = true)
    (hi : i.time? property = some s) (hj : j.time? property = some t) : s ≤ t := by
  rw [isBefore, hi, hj] at h
  rcases (by simpa using h : s < t ∨ s = t ∧ i.id ≤ j.id) with hlt | ⟨heq, -⟩
  · exact hlt.le
  · exact heq.le

/-! ### Fetching instances -/

/-- Instances in the order of a question. -/
def ordered (q : InstanceQuery) (instances : List AttributeInstance) : List AttributeInstance :=
  match q.order with
  | .ascending => instances.mergeSort (isBefore q.time.property)
  | .descending => (instances.mergeSort (isBefore q.time.property)).reverse

lemma firstInstances_eq : firstInstances q instances = (ordered q instances).take q.limit := rfl

lemma ordered_perm (q : InstanceQuery) (instances : List AttributeInstance) :
    (ordered q instances).Perm instances := by
  rw [ordered]
  cases q.order with
  | ascending => exact List.mergeSort_perm _ _
  | descending => exact (List.reverse_perm _).trans (List.mergeSort_perm _ _)

/-- In ascending order no instance comes before an earlier one of the list, and in descending order none
comes after it. -/
lemma pairwise_ordered (q : InstanceQuery) (instances : List AttributeInstance) :
    (ordered q instances).Pairwise fun i j =>
      match q.order with
      | .ascending => isBefore q.time.property i j = true
      | .descending => isBefore q.time.property j i = true := by
  have hsorted : (instances.mergeSort (isBefore q.time.property)).Pairwise
      fun i j => isBefore q.time.property i j = true :=
    pairwise_mergeSort_of_key (key _) (fun _ _ => isBefore_iff_key_le) instances
  rw [ordered]
  cases q.order with
  | ascending => exact hsorted
  | descending => exact List.pairwise_reverse.2 hsorted

lemma mem_of_mem_firstInstances (h : i ∈ firstInstances q instances) : i ∈ instances := by
  rw [firstInstances_eq] at h
  exact (ordered_perm q instances).mem_iff.1 (List.mem_of_mem_take h)

lemma firstInstances_nil : firstInstances q [] = [] := by
  rw [firstInstances_eq, (ordered_perm q []).eq_nil, List.take_nil]

/-- The instances of an attribute that a question admits. -/
def selected (log : Log) (q : InstanceQuery) (attributeId : String) : List AttributeInstance :=
  log.instances.filter fun i => i.attributeId = attributeId && admits q i

lemma mem_selected :
    i ∈ log.selected q attributeId ↔ i ∈ log.instances ∧ i.attributeId = attributeId ∧ admits q i = true := by
  simp [selected]

/-- What is fetched of a group has its attribute. -/
lemma attributeId_of_mem_group {entry : String × List AttributeInstance}
    (hentry : entry ∈ group (·.attributeId) instances) (h : i ∈ firstInstances q entry.2) :
    i.attributeId = entry.1 := by
  have hgroups : Grouped (group (·.attributeId) instances) := grouped_group _
  have hmem : i ∈ listAt (group (·.attributeId) instances) entry.1 := by
    rw [(hgroups.mem_iff.1 (show (entry.1, entry.2) ∈ _ from hentry)).2]
    exact mem_of_mem_firstInstances h
  rw [listAt_group, List.mem_filter] at hmem
  exact of_decide_eq_true hmem.2

/-- Of each attribute the first of the admitted instances are fetched. -/
theorem listAt_group_findInstances (log : Log) (q : InstanceQuery) (attributeId : String) :
    listAt (group (·.attributeId) (log.findInstances q)) attributeId =
      firstInstances q (log.selected q attributeId) := by
  have hgroups : Grouped (group (·.attributeId) (log.instances.filter (admits q))) := grouped_group _
  have hlist : listAt (group (·.attributeId) (log.instances.filter (admits q))) attributeId =
      log.selected q attributeId := by
    rw [listAt_group, List.filter_filter, selected]
  -- what is fetched for other attributes is of other attributes
  have hpick : (log.findInstances q).filter (fun i => i.attributeId = attributeId) =
      (firstInstances q (listAt (group (·.attributeId) (log.instances.filter (admits q))) attributeId)).filter
        fun i => i.attributeId = attributeId := by
    have hanswer : log.findInstances q = (group (·.attributeId) (log.instances.filter (admits q))).flatMap
        fun entry => firstInstances q entry.2 := rfl
    rw [hanswer, List.filter_flatMap]
    refine hgroups.sorted.flatMap_eq (by rw [firstInstances_nil]; rfl) fun entry hentry hne => ?_
    refine List.filter_eq_nil_iff.2 fun i hi => ?_
    rw [attributeId_of_mem_group hentry hi, decide_eq_true_eq]
    exact hne
  rw [listAt_group, hpick, hlist]
  refine List.filter_eq_self.2 fun i hi => ?_
  rw [(mem_selected.1 (mem_of_mem_firstInstances hi)).2.1, decide_eq_true_eq]

/-- Instances are fetched attribute by attribute. -/
lemma pairwise_findInstances (log : Log) (q : InstanceQuery) :
    (log.findInstances q).Pairwise fun i j => i.attributeId ≤ j.attributeId := by
  have hgroups : Grouped (group (·.attributeId) (log.instances.filter (admits q))) := grouped_group _
  refine List.pairwise_flatMap.2
    ⟨fun entry hentry => ?_, hgroups.sorted.imp_of_mem fun he he' hlt i hi j hj => ?_⟩
  · refine List.Pairwise.imp_of_mem (fun hi hj _ => ?_) (List.pairwise_of_forall fun _ _ => trivial)
    rw [attributeId_of_mem_group hentry hi, attributeId_of_mem_group hentry hj]
  · rw [attributeId_of_mem_group he hi, attributeId_of_mem_group he' hj]
    exact hlt.le

/-- With room for all instances, all that a question admits are fetched. -/
theorem findInstances_perm (h : log.instances.length ≤ q.limit) :
    (log.findInstances q).Perm (log.instances.filter (admits q)) := by
  refine perm_of_filter_perm (·.attributeId) fun attributeId => ?_
  have hfetched := listAt_group_findInstances log q attributeId
  rw [listAt_group, firstInstances_eq] at hfetched
  have hlength : (ordered q (log.selected q attributeId)).length ≤ q.limit := by
    rw [(ordered_perm q _).length_eq]
    exact (List.length_filter_le _ _).trans h
  rw [hfetched, List.take_of_length_le hlength, List.filter_filter]
  exact ordered_perm q (log.selected q attributeId)

/-! ### Counting attributes -/

lemma le_foldl_max {counts : List Nat} {start n : Nat} (h : n ≤ start ∨ n ∈ counts) :
    n ≤ counts.foldl max start := by
  induction counts generalizing start with
  | nil => simpa using h
  | cons count counts ih =>
    refine ih ?_
    rcases h with h | h
    · exact Or.inl (h.trans (le_max_left start count))
    · rcases List.mem_cons.1 h with rfl | h
      · exact Or.inl (le_max_right start n)
      · exact Or.inr h

/-- No entity has more attributes than the most that are counted. -/
lemma length_le_mostAttributes {entityIds : List String} {e : String} (he : e ∈ entityIds) :
    (nameSet ((log.instances.filter fun i => i.entityId = e).map (·.attributeId))).length ≤
      log.mostAttributes entityIds :=
  le_foldl_max (Or.inr (List.mem_map.2 ⟨e, he, rfl⟩))

end EntityHistory.Log
