/-
Families of values.

The names of a family ascend strictly when it is built by updates, and then a name has the one value that
stands under it. In a family of lists what stands under a name grows by appending: grouped items are those
of the name in their order.

* `Named.Sorted`: the names ascend strictly;
* `Named.get?_ofList`: what a list of values leaves under a name;
* `Named.ofList_of_perm`: the order of the values of different names does not matter;
* `Named.Grouped`: a sorted family of lists none of which is empty;
* `Named.listAt_foldl`: what appending many lists leaves under a name;
* `Named.listAt_group`: the group of a name.
-/
import Mathlib.Data.List.Induction
import Mathlib.Data.String.Basic
import Mathlib.Tactic.Lemma
import EntityHistory.Named

namespace EntityHistory.Named

variable {α β : Type} {values : Named α} {name name' : String} {f : Option α → α} {value : α}

/-! ### Sorted families -/

/-- The names of a family ascend strictly. -/
def Sorted (values : Named α) : Prop := values.Pairwise fun a b => a.1 < b.1

lemma mem_names_update : name' ∈ names (update name f values) ↔ name' = name ∨ name' ∈ names values := by
  induction values with
  | nil => simp [update, names]
  | cons entry rest ih =>
    rw [update]
    split
    · simp [names]
    · split
      · rename_i heq
        simp [names, heq]
      · simp only [names, List.map_cons, List.mem_cons] at ih ⊢
        rw [ih]
        tauto

lemma Sorted.update (h : Sorted values) : Sorted (update name f values) := by
  induction values with
  | nil => simp [Sorted, Named.update]
  | cons entry rest ih =>
    obtain ⟨hentry, hrest⟩ := List.pairwise_cons.1 h
    rw [Named.update]
    split
    · rename_i hlt
      refine List.pairwise_cons.2 ⟨?_, h⟩
      intro b hb
      rcases List.mem_cons.1 hb with rfl | hb
      · exact hlt
      · exact hlt.trans (hentry b hb)
    · split
      · rename_i heq
        exact List.pairwise_cons.2 ⟨fun b hb => heq ▸ hentry b hb, hrest⟩
      · rename_i hlt hne
        refine List.pairwise_cons.2 ⟨?_, ih hrest⟩
        intro b hb
        have hname : b.1 = name ∨ b.1 ∈ names rest := mem_names_update.1 (List.mem_map_of_mem hb)
        rcases hname with hb | hb
        · rw [hb]
          exact lt_of_le_of_ne (le_of_not_gt hlt) (Ne.symm hne)
        · obtain ⟨c, hc, hcb⟩ := List.mem_map.1 hb
          exact hcb ▸ hentry c hc

lemma Sorted.insert (h : Sorted values) : Sorted (insert name value values) := h.update

lemma get?_insert (h : Sorted values) :
    get? (insert name value values) name' = if name' = name then some value else get? values name' :=
  get?_update name name' (fun _ => value) values h

lemma get?_eq_none_iff : get? values name = none ↔ name ∉ names values := by
  induction values with
  | nil => simp [get?, names]
  | cons entry rest ih =>
    rw [get?]
    split
    · rename_i heq
      simp [names, heq]
    · rename_i hne
      simp only [names, List.map_cons, List.mem_cons, not_or] at ih ⊢
      rw [ih]
      exact ⟨fun hrest => ⟨hne, hrest⟩, fun hboth => hboth.2⟩

/-- The entries of a name in a sorted family: the one with its value, or none. -/
lemma Sorted.filter_name (h : Sorted values) (name : String) :
    values.filter (fun entry => entry.1 = name) =
      ((get? values name).map fun value => (name, value)).toList := by
  induction values with
  | nil => rfl
  | cons entry rest ih =>
    obtain ⟨hentry, hrest⟩ := List.pairwise_cons.1 h
    rw [get?]
    split
    · rename_i heq
      have hother : rest.filter (fun entry => entry.1 = name) = [] := by
        refine List.filter_eq_nil_iff.2 fun b hb hname => ?_
        have hlt := hentry b hb
        rw [of_decide_eq_true hname, ← heq] at hlt
        exact lt_irrefl name hlt
      rw [List.filter_cons_of_pos (by simp [heq]), hother, heq]
      rfl
    · rename_i hne
      rw [List.filter_cons_of_neg (by simpa using Ne.symm hne), ih hrest]

lemma Sorted.get?_eq_some_iff (h : Sorted values) : get? values name = some value ↔ (name, value) ∈ values := by
  have hmem : (name, value) ∈ values ↔ (name, value) ∈ values.filter fun entry => entry.1 = name := by simp
  rw [hmem, h.filter_name]
  cases get? values name with
  | none => simp
  | some other => simp [eq_comm]

/-- A sorted family is determined by what stands under the names. -/
lemma Sorted.ext {values' : Named α} (h : Sorted values) (h' : Sorted values')
    (hget : ∀ name, get? values name = get? values' name) : values = values' := by
  have hperm : values.Perm values' := by
    refine (List.perm_ext_iff_of_nodup (h.imp ?_) (h'.imp ?_)).2 fun entry => ?_
    · rintro a b hlt rfl
      exact lt_irrefl _ hlt
    · rintro a b hlt rfl
      exact lt_irrefl _ hlt
    · obtain ⟨name, value⟩ := entry
      rw [← h.get?_eq_some_iff, hget, h'.get?_eq_some_iff]
  refine hperm.eq_of_pairwise (fun a b _ _ hab hba => ?_) h h'
  exact absurd (hab.trans hba) (lt_irrefl _)

lemma sorted_iff_names : Sorted values ↔ (names values).Pairwise (· < ·) := List.pairwise_map.symm

section Mapping

variable (g : String → α → β)

lemma names_map (values : Named α) :
    names (values.map fun entry => (entry.1, g entry.1 entry.2)) = names values := by
  simp [names]

lemma get?_map : get? (values.map fun entry => (entry.1, g entry.1 entry.2)) name =
    (get? values name).map (g name) := by
  induction values with
  | nil => rfl
  | cons entry rest ih =>
    rw [List.map_cons, get?, get?]
    split
    · rename_i heq
      rw [heq]
      rfl
    · exact ih

lemma Sorted.map (h : Sorted values) : Sorted (values.map fun entry => (entry.1, g entry.1 entry.2)) := by
  rw [sorted_iff_names, names_map]
  exact sorted_iff_names.1 h

end Mapping

/-! ### Families from lists -/

/-- The last value that a list gives for a name. -/
def lastValue? (entries : List (String × α)) (name : String) : Option α :=
  ((entries.filter fun entry => entry.1 = name).getLast?).map (·.2)

section FromLists

variable {entries entries' : List (String × α)}

lemma lastValue?_append : lastValue? (entries ++ entries') name =
    (lastValue? entries' name).or (lastValue? entries name) := by
  rw [lastValue?, List.filter_append, List.getLast?_append, Option.map_or]
  rfl

lemma lastValue?_singleton (name' : String) (value : α) :
    lastValue? [(name', value)] name = if name = name' then some value else none := by
  by_cases heq : name = name'
  · simp [lastValue?, heq]
  · simp [lastValue?, heq, Ne.symm heq]

lemma lastValue?_eq_none_iff : lastValue? entries name = none ↔ ∀ entry ∈ entries, entry.1 ≠ name := by
  rw [lastValue?, Option.map_eq_none_iff, List.getLast?_eq_none_iff, List.filter_eq_nil_iff]
  simp

lemma mem_of_lastValue? (h : lastValue? entries name = some value) : (name, value) ∈ entries := by
  obtain ⟨entry, hentry, rfl⟩ := Option.map_eq_some_iff.1 h
  have hmem := List.mem_filter.1 (List.mem_of_getLast? hentry)
  rw [← of_decide_eq_true hmem.2]
  exact hmem.1

lemma ofList_append_singleton (entries : List (String × α)) (name : String) (value : α) :
    ofList (entries ++ [(name, value)]) = insert name value (ofList entries) := by
  simp [ofList, List.foldl_append]

lemma sorted_ofList (entries : List (String × α)) : Sorted (ofList entries) := by
  induction entries using List.reverseRecOn with
  | nil => exact List.Pairwise.nil
  | append_singleton entries entry ih =>
    rw [ofList_append_singleton]
    exact ih.update

/-- Of several values for a name the last one counts. -/
theorem get?_ofList (entries : List (String × α)) (name : String) :
    get? (ofList entries) name = lastValue? entries name := by
  induction entries using List.reverseRecOn with
  | nil => rfl
  | append_singleton entries entry ih =>
    rw [ofList_append_singleton, get?_insert (sorted_ofList entries), ih, lastValue?_append]
    by_cases heq : name = entry.1
    · simp [lastValue?, heq]
    · simp [lastValue?, heq, Ne.symm heq]

/-- The last result that a function gives on a list is that of an element behind which it gives none. -/
lemma getLast?_filterMap_eq_some_iff {g : α → Option β} {l : List α} {b : β} :
    (l.filterMap g).getLast? = some b ↔
      ∃ before a after, l = before ++ a :: after ∧ g a = some b ∧ ∀ a ∈ after, g a = none := by
  rw [List.getLast?_filterMap, List.findSome?_eq_some_iff]
  constructor
  · rintro ⟨after, a, before, hl, ha, hafter⟩
    refine ⟨before.reverse, a, after.reverse, ?_, ha, by simpa using hafter⟩
    rw [← List.reverse_reverse l, hl]
    simp
  · rintro ⟨before, a, after, rfl, ha, hafter⟩
    exact ⟨after.reverse, a, before.reverse, by simp, ha, by simpa using hafter⟩

/-- The last value for a name is that of an entry behind which there is none for the name. -/
lemma lastValue?_eq_some_iff : lastValue? entries name = some value ↔
    ∃ before after, entries = before ++ (name, value) :: after ∧ ∀ entry ∈ after, entry.1 ≠ name := by
  have hlast : lastValue? entries name =
      (entries.filterMap fun entry => if entry.1 = name then some entry.2 else none).getLast? := by
    rw [lastValue?, ← List.getLast?_map, ← List.filterMap_eq_map, List.filterMap_filter]
    simp
  rw [hlast, getLast?_filterMap_eq_some_iff]
  constructor
  · rintro ⟨before, entry, after, rfl, hentry, hafter⟩
    obtain ⟨hname, hvalue⟩ : entry.1 = name ∧ entry.2 = value := by simpa using hentry
    exact ⟨before, after, by rw [← hname, ← hvalue], by simpa using hafter⟩
  · rintro ⟨before, after, rfl, hafter⟩
    exact ⟨before, (name, value), after, rfl, if_pos rfl, by simpa using hafter⟩

/-- The last value for a name in lists one after the other is the last of those that the lists give. -/
lemma lastValue?_flatMap (g : β → List (String × α)) (l : List β) (name : String) :
    lastValue? (l.flatMap g) name = (l.filterMap fun b => lastValue? (g b) name).getLast? := by
  induction l using List.reverseRecOn with
  | nil => rfl
  | append_singleton l b ih =>
    rw [List.flatMap_append, lastValue?_append, ih, List.filterMap_append, List.getLast?_append]
    cases hlast : lastValue? (g b) name <;> simp [hlast]

/-- From the entries of a sorted family, in any order, comes this family. -/
lemma ofList_of_perm (h : Sorted values) (hperm : entries.Perm values) : ofList entries = values := by
  refine (sorted_ofList entries).ext h fun name => ?_
  rw [get?_ofList, lastValue?]
  have hfilter := hperm.filter fun entry => entry.1 = name
  rw [h.filter_name] at hfilter
  cases hget : get? values name with
  | none =>
    rw [hget] at hfilter
    rw [hfilter.eq_nil]
    rfl
  | some value =>
    rw [hget] at hfilter
    rw [List.perm_singleton.1 hfilter]
    rfl

end FromLists

/-! ### Families of lists -/

variable {lists : Named (List α)} {list : List α}

/-- The list under a name, which is empty if there is none. -/
def listAt (lists : Named (List α)) (name : String) : List α := (get? lists name).getD []

lemma listAt_map {g : String → List α → List β} (hg : ∀ name, g name [] = []) :
    listAt (lists.map fun entry => (entry.1, g entry.1 entry.2)) name = g name (listAt lists name) := by
  rw [listAt, get?_map, listAt]
  cases get? lists name with
  | none => exact (hg name).symm
  | some list => rfl

lemma listAt_mapValues {g : List α → List β} (hg : g [] = []) :
    listAt (mapValues g lists) name = g (listAt lists name) :=
  listAt_map fun _ => hg

/-- A sorted family of lists is determined by its names and by the lists under them. -/
lemma Sorted.ext_listAt {lists' : Named (List α)} (h : Sorted lists) (h' : Sorted lists')
    (hnames : ∀ name, name ∈ names lists ↔ name ∈ names lists')
    (hlists : ∀ name, listAt lists name = listAt lists' name) : lists = lists' := by
  refine h.ext h' fun name => ?_
  have hnone : get? lists name = none ↔ get? lists' name = none := by
    rw [get?_eq_none_iff, get?_eq_none_iff, hnames]
  have hlist := hlists name
  rw [listAt, listAt] at hlist
  cases hget : get? lists name with
  | none => exact (hnone.1 hget).symm
  | some list =>
    cases hget' : get? lists' name with
    | none =>
      rw [hnone.2 hget'] at hget
      cases hget
    | some list' =>
      rw [hget, hget'] at hlist
      exact congrArg some hlist

/-- Picking from the entries of one name only is picking from the list under it. -/
lemma Sorted.flatMap_eq (h : Sorted lists) {g : String × List α → List β} (hnil : g (name, []) = [])
    (hg : ∀ entry ∈ lists, entry.1 ≠ name → g entry = []) : lists.flatMap g = g (name, listAt lists name) := by
  have hfilter : lists.flatMap g = (lists.filter fun entry => entry.1 = name).flatMap g := by
    -- this holds of any list of entries
    clear h
    induction lists with
    | nil => rfl
    | cons entry rest ih =>
      have hrest := ih fun b hb => hg b (List.mem_cons_of_mem entry hb)
      by_cases hname : entry.1 = name
      · rw [List.filter_cons_of_pos (by simpa using hname), List.flatMap_cons, List.flatMap_cons, hrest]
      · rw [List.filter_cons_of_neg (by simpa using hname), List.flatMap_cons,
          hg entry (by simp) hname, List.nil_append, hrest]
  rw [hfilter, h.filter_name, listAt]
  cases get? lists name with
  | none => exact hnil.symm
  | some list => simp

/-- The names of a family of lists ascend strictly, and no list is empty. -/
structure Grouped (lists : Named (List α)) : Prop where
  sorted : Sorted lists
  nonempty : ∀ entry ∈ lists, entry.2 ≠ []

lemma grouped_nil : Grouped ([] : Named (List α)) := ⟨List.Pairwise.nil, by simp⟩

lemma Grouped.mem_iff (h : Grouped lists) : (name, list) ∈ lists ↔ list ≠ [] ∧ listAt lists name = list := by
  constructor
  · intro hmem
    refine ⟨h.nonempty _ hmem, ?_⟩
    rw [listAt, h.sorted.get?_eq_some_iff.2 hmem]
    rfl
  · rintro ⟨hne, rfl⟩
    rw [← h.sorted.get?_eq_some_iff, listAt]
    cases hget : get? lists name with
    | none => simp [listAt, hget] at hne
    | some list => rfl

/-- What stands under some name. -/
lemma Grouped.mem_flatMap_snd {item : α} (h : Grouped lists) :
    item ∈ lists.flatMap (·.2) ↔ ∃ name, item ∈ listAt lists name := by
  rw [List.mem_flatMap]
  constructor
  · rintro ⟨entry, hentry, hitem⟩
    have hlist : listAt lists entry.1 = entry.2 := (h.mem_iff.1 hentry).2
    exact ⟨entry.1, hlist.symm ▸ hitem⟩
  · rintro ⟨name, hitem⟩
    exact ⟨_, h.mem_iff.2 ⟨List.ne_nil_of_mem hitem, rfl⟩, hitem⟩

lemma Grouped.map (h : Grouped lists) {g : String → List α → List β}
    (hg : ∀ name list, list ≠ [] → g name list ≠ []) :
    Grouped (lists.map fun entry => (entry.1, g entry.1 entry.2)) := by
  refine ⟨h.sorted.map g, fun entry hentry => ?_⟩
  obtain ⟨entry, hmem, rfl⟩ := List.mem_map.1 hentry
  exact hg entry.1 entry.2 (h.nonempty entry hmem)

lemma Grouped.mapValues (h : Grouped lists) {g : List α → List β} (hg : ∀ list, list ≠ [] → g list ≠ []) :
    Grouped (mapValues g lists) :=
  h.map fun _ => hg

/-- The family with a list appended to the one under a name. -/
def appendAt (name : String) (list : List α) (lists : Named (List α)) : Named (List α) :=
  update name (fun present => present.getD [] ++ list) lists

lemma Sorted.appendAt (h : Sorted lists) : Sorted (appendAt name list lists) := h.update

lemma listAt_appendAt (h : Sorted lists) :
    listAt (appendAt name list lists) name' = listAt lists name' ++ if name = name' then list else [] := by
  rw [listAt, appendAt, get?_update name name' _ lists h]
  by_cases heq : name' = name
  · rw [heq, if_pos rfl, if_pos rfl]
    rfl
  · rw [if_neg heq, if_neg (Ne.symm heq), List.append_nil]
    rfl

lemma Grouped.appendAt (h : Grouped lists) (hlist : list ≠ []) : Grouped (appendAt name list lists) := by
  refine ⟨h.sorted.appendAt, fun entry hentry => ?_⟩
  have hget : listAt (Named.appendAt name list lists) entry.1 = entry.2 := by
    rw [listAt, h.sorted.appendAt.get?_eq_some_iff.2 hentry]
    rfl
  rw [← hget, listAt_appendAt h.sorted]
  split
  · simp [hlist]
  · rename_i hne
    have hname : entry.1 ∈ names lists :=
      (mem_names_update.1 (List.mem_map_of_mem hentry)).resolve_left (Ne.symm hne)
    obtain ⟨old, hold, hsame⟩ := List.mem_map.1 hname
    have hlistAt := (h.mem_iff.1 (show (old.1, old.2) ∈ lists from hold)).2
    rw [List.append_nil, ← hsame, hlistAt]
    exact h.nonempty old hold

section Folding

variable {entries : List β} (key : β → String) (g : β → List α)

/-- Lists that are appended one after the other stand under their names in this order. -/
theorem listAt_foldl (h : Sorted lists) :
    listAt (entries.foldl (fun lists entry => appendAt (key entry) (g entry) lists) lists) name =
      listAt lists name ++ (entries.filter fun entry => key entry = name).flatMap g := by
  induction entries generalizing lists with
  | nil => simp
  | cons entry rest ih =>
    rw [List.foldl_cons, ih h.appendAt, listAt_appendAt h, List.append_assoc]
    by_cases heq : key entry = name
    · rw [if_pos heq, List.filter_cons_of_pos (by simpa using heq), List.flatMap_cons]
    · rw [if_neg heq, List.filter_cons_of_neg (by simpa using heq), List.nil_append]

lemma Sorted.foldl_appendAt (h : Sorted lists) :
    Sorted (entries.foldl (fun lists entry => Named.appendAt (key entry) (g entry) lists) lists) := by
  induction entries generalizing lists with
  | nil => exact h
  | cons entry rest ih => exact ih h.appendAt

lemma mem_names_foldl_appendAt :
    name ∈ names (entries.foldl (fun lists entry => appendAt (key entry) (g entry) lists) lists) ↔
      name ∈ names lists ∨ ∃ entry ∈ entries, key entry = name := by
  induction entries generalizing lists with
  | nil => simp
  | cons entry rest ih =>
    rw [List.foldl_cons, ih, appendAt, mem_names_update, List.exists_mem_cons_iff, eq_comm]
    tauto

lemma Grouped.foldl (h : Grouped lists) (hg : ∀ entry ∈ entries, g entry ≠ []) :
    Grouped (entries.foldl (fun lists entry => Named.appendAt (key entry) (g entry) lists) lists) := by
  induction entries generalizing lists with
  | nil => exact h
  | cons entry rest ih =>
    exact ih (h.appendAt (hg entry (by simp))) fun b hb => hg b (List.mem_cons_of_mem entry hb)

end Folding

section Grouping

variable {items : List α} (key : α → String)

lemma grouped_group : Grouped (group key items) :=
  grouped_nil.foldl key (fun item => [item]) fun _ _ => List.cons_ne_nil _ _

/-- The group of a name are the items of this name in their order. -/
theorem listAt_group : listAt (group key items) name = items.filter fun item => key item = name := by
  have hfold : listAt (group key items) name =
      [] ++ (items.filter fun item => key item = name).flatMap fun item => [item] :=
    listAt_foldl key (fun item => [item]) List.Pairwise.nil
  rw [hfold, List.nil_append, List.flatMap_singleton']

end Grouping

end EntityHistory.Named
