/-
The scopes of WITH lists.

The relations of an interval query are written as one list of tables, each of which can read the tables before it.
The nodes of a plan are numbered by a counter that is handed through the plan: what a part of a plan is compiled
into has numbers from the counter on, so its names are new, and it reads the candidates and names of its own. The
written forms of names differ as the names do. All statements of a query begin with the same list.

* `RelationName.text_injective`: names and their written forms
* `scoped_definitionsOf`: the names that relations are defined by
* `withList_wellScoped`: the texts of the statements
-/
import EntityHistory.Proofs.Sql.Sources
import EntityHistory.Proofs.Sql.Tables

namespace EntityHistory.Sql

variable {known : List RelationName} {ds es : List Definition} {d : Definition} {name : RelationName}
  {low mid high next root n : Nat} {nodes : List Nat}

/-! ### Names -/

namespace RelationName

/-- The number in a name. -/
def number : RelationName → Option Nat
  | .node n => some n
  | .samples n => some n
  | .starts n => some n
  | .timeline n => some n
  | _ => none

/-- What follows the number of a name, or the name if there is none. -/
def ending : RelationName → String
  | .node _ => ""
  | .samples _ => "_raw"
  | .starts _ => "_s"
  | .timeline _ => "_t"
  | name => name.text

lemma toList_text (h : name.number = some n) :
    name.text.toList = 'n' :: (Nat.toDigits 10 n ++ name.ending.toList) := by
  cases name with
  | node | samples | starts | timeline =>
    obtain rfl := Option.some.inj h
    simp [text, ending]
  | candidates | intervals | ids | anchor => cases h

lemma takeWhile_ending (h : name.number = some n) : name.ending.toList.takeWhile Char.isDigit = [] := by
  cases name with
  | node | samples | starts | timeline => simp [ending, Char.isDigit]
  | candidates | intervals | ids | anchor => cases h

lemma takeWhile_tail_text (h : name.number = some n) :
    name.text.toList.tail.takeWhile Char.isDigit = Nat.toDigits 10 n := by
  have hdigits : ∀ c ∈ Nat.toDigits 10 n, c.isDigit = true := fun c hc =>
    Nat.isDigit_of_mem_toDigits (by decide) (by decide) hc
  rw [toList_text h, List.tail_cons, List.takeWhile_append_of_pos hdigits, takeWhile_ending h, List.append_nil]

lemma mem_of_number_eq_none (h : name.number = none) : name ∈ [candidates, intervals, ids, anchor] := by
  cases name with
  | node | samples | starts | timeline => cases h
  | candidates | intervals | ids | anchor => simp

/-- The written form of a name without a number does not begin like that of a name with one. -/
lemma text_ne_text (ha : name.number = none) {name' : RelationName} (hb : name'.number = some n) :
    name.text ≠ name'.text := by
  have hhead : ∀ a ∈ [candidates, intervals, ids, anchor], a.text.toList.head? ≠ some 'n' := by decide
  intro h
  refine hhead name (mem_of_number_eq_none ha) ?_
  rw [h, toList_text hb]
  rfl

/-- Different names are written differently. -/
theorem text_injective : Function.Injective text := by
  intro a b h
  cases ha : a.number with
  | none =>
    cases hb : b.number with
    | none =>
      have hfixed : ∀ a ∈ [candidates, intervals, ids, anchor], ∀ b ∈ [candidates, intervals, ids, anchor],
          a.text = b.text → a = b := by decide
      exact hfixed a (mem_of_number_eq_none ha) b (mem_of_number_eq_none hb) h
    | some n => exact absurd h (text_ne_text ha hb)
  | some m =>
    cases hb : b.number with
    | none => exact absurd h.symm (text_ne_text hb ha)
    | some n =>
      have hdigits : Nat.toDigits 10 m = Nat.toDigits 10 n := by
        rw [← takeWhile_tail_text ha, h, takeWhile_tail_text hb]
      have hnumber : m = n := by
        rw [← Nat.ofDigitChars_ten_toDigits (n := m), hdigits, Nat.ofDigitChars_ten_toDigits]
      have hending : a.ending = b.ending := by
        have hlists := congrArg String.toList h
        rw [toList_text ha, toList_text hb, hdigits, List.cons.injEq, List.append_cancel_left_eq] at hlists
        exact String.toList_inj.1 hlists.2
      subst hnumber
      cases a <;> cases b <;> simp_all [number, ending]

end RelationName

/-- The tables that are stored. -/
def storedTables : List String := [recordTable, instanceTable, subInstanceTable]

/-- No relation has the name of a stored table. -/
lemma text_not_mem_storedTables (name : RelationName) : name.text ∉ storedTables := by
  cases hnumber : name.number with
  | none =>
    have hfixed : ∀ a ∈ [RelationName.candidates, .intervals, .ids, .anchor], a.text ∉ storedTables := by decide
    exact hfixed name (RelationName.mem_of_number_eq_none hnumber)
  | some n =>
    have hhead : ∀ s ∈ storedTables, s.toList.head? ≠ some 'n' := by decide
    intro h
    refine hhead _ h ?_
    rw [RelationName.toList_text hnumber]
    rfl

lemma Operand.tables_subset (operand : Operand) : operand.tables ⊆ storedTables := by
  cases operand <;> simp [Operand.tables, storedTables]

lemma leafTables_subset (leaf : PlanLeaf) : leafTables leaf ⊆ storedTables := by
  cases leaf with
  | geo g => exact List.nil_subset _
  | comparison c =>
    have hoperand := Operand.tables_subset (Condition.ofComparison c).operand
    rw [leafTables, Condition.tables]
    cases (Condition.ofComparison c).subAttribute with
    | none => exact hoperand
    | some subAttribute => exact List.cons_subset.2 ⟨by simp [storedTables], hoperand⟩

/-- A relation reads stored tables and the relations that it is made from. -/
lemma Relation.tables_subset (r : Relation) : r.tables ⊆ storedTables ++ r.reads.map RelationName.text := by
  cases r with
  | samples time leaf =>
    refine List.append_subset.2 ⟨List.subset_append_of_subset_left _ (leafTables_subset leaf), ?_⟩
    simp [Relation.reads, storedTables]
  | candidates filter => simp [Relation.tables, storedTables]
  | _ => simp [Relation.tables, Relation.reads]

/-! ### Scopes -/

/-- Where some names are known, each definition has a name that is not, and reads names that are or that
definitions before it have. -/
def Scoped (known : List RelationName) : List Definition → Prop
  | [] => True
  | d :: ds => d.name ∉ known ∧ d.relation.reads ⊆ known ∧ Scoped (known ++ [d.name]) ds

lemma scoped_append :
    Scoped known (ds ++ es) ↔ Scoped known ds ∧ Scoped (known ++ ds.map Definition.name) es := by
  induction ds generalizing known with
  | nil => simp [Scoped]
  | cons d ds ih => simp [Scoped, ih, and_assoc]

lemma Scoped.nodup (h : Scoped known ds) (hknown : known.Nodup) : (known ++ ds.map Definition.name).Nodup := by
  induction ds generalizing known with
  | nil => simpa using hknown
  | cons d ds ih =>
    obtain ⟨hname, -, hrest⟩ := h
    have hcons : (known ++ [d.name]).Nodup := by
      refine List.nodup_append.2 ⟨hknown, List.nodup_singleton _, fun a ha b hb hab => hname ?_⟩
      rwa [← List.mem_singleton.1 hb, ← hab]
    simpa using ih hrest hcons

lemma RelationName.within_iff : name.Within low high ↔ ∃ n, name.number = some n ∧ low ≤ n ∧ n < high := by
  cases name <;> simp [Within, number]

lemma allWithin_node (n : Nat) (r : Relation) : AllWithin n (n + 1) [⟨.node n, r⟩] := by
  simp [AllWithin, RelationName.Within]

/-- The numbers in names are below a number. -/
def AllBelow (low : Nat) (known : List RelationName) : Prop := ∀ name ∈ known, ∀ n, name.number = some n → n < low

lemma AllBelow.append (h : AllBelow low known) (hle : low ≤ mid) (hds : AllWithin low mid ds) :
    AllBelow mid (known ++ ds.map Definition.name) := by
  intro name hname n hn
  rcases List.mem_append.1 hname with hname | hname
  · exact (h name hname n hn).trans_le hle
  · obtain ⟨d, hd, rfl⟩ := List.mem_map.1 hname
    obtain ⟨m, hm, -, hlt⟩ := RelationName.within_iff.1 (hds d hd)
    obtain rfl : m = n := Option.some.inj (hm.symm.trans hn)
    exact hlt

/-- A name with a higher number is not among them. -/
lemma AllBelow.not_mem (h : AllBelow low known) (hn : name.number = some n) (hle : low ≤ n) : name ∉ known :=
  fun hmem => (h name hmem n hn).not_ge hle

/-! ### Scopes of plans -/

/-- Definitions that are numbered from one number on and below another, and in scope wherever the candidates are
known and all numbers are below. They define some nodes, the last one at the end. -/
structure Introduces (low high : Nat) (definitions : List Definition) (nodes : List Nat) : Prop where
  le : low ≤ high
  within : AllWithin low high definitions
  inScope : ∀ known, .candidates ∈ known → AllBelow low known → Scoped known definitions
  defined : ∀ n ∈ nodes, .node n ∈ definitions.map Definition.name
  last : definitions.getLast?.map Definition.name = nodes.getLast?.map .node

variable {time : TimeQuery} {combine : RelationName → RelationName → Relation}

lemma introduces_leaf (l : PlanLeaf) (n : Nat) : Introduces n (n + 1) (leafDefinitions time l n) [n] where
  le := Nat.le_succ n
  within := by
    unfold leafDefinitions
    split <;> simp [AllWithin, RelationName.Within]
  inScope known hcandidates hbelow := by
    have hsamples : .samples n ∉ known := hbelow.not_mem rfl le_rfl
    have hstarts : .starts n ∉ known := hbelow.not_mem rfl le_rfl
    have htimeline : .timeline n ∉ known := hbelow.not_mem rfl le_rfl
    have hnode : .node n ∉ known := hbelow.not_mem rfl le_rfl
    unfold leafDefinitions
    split <;> simp [Scoped, Relation.reads, hcandidates, hsamples, hstarts, htimeline, hnode]
  defined := by
    unfold leafDefinitions
    split <;> simp
  last := by
    unfold leafDefinitions
    split <;> rfl

/-- The definitions of one node, continued by those of others. -/
lemma Introduces.append (h : Introduces low mid ds [root]) (h' : Introduces mid high es nodes) :
    Introduces low high (ds ++ es) (root :: nodes) where
  le := h.le.trans h'.le
  within := h.within.append h'.within h.le h'.le
  inScope known hcandidates hbelow := by
    -- the numbers of the first node are below those of the others
    refine scoped_append.2 ⟨h.inScope known hcandidates hbelow, ?_⟩
    exact h'.inScope _ (List.mem_append_left _ hcandidates) (hbelow.append h.le h.within)
  defined := by
    rw [List.map_append, List.forall_mem_cons]
    exact ⟨List.mem_append_left _ (h.defined root (List.mem_singleton_self root)),
      fun n hn => List.mem_append_right _ (h'.defined n hn)⟩
  last := by
    have hlast := h.last
    have hlast' := h'.last
    cases hes : es.getLast? <;> cases hnodes : nodes.getLast? <;>
      simp_all [List.getLast?_append, List.getLast?_cons]

/-- Combining nodes that are known reads nothing but them and the nodes on the way. -/
lemma scoped_combineFrom (hreads : ∀ left right, (combine left right).reads = [left, right])
    (hroot : .node root ∈ known) (hnodes : ∀ n ∈ nodes, .node n ∈ known) (hbelow : AllBelow next known) :
    Scoped known (combineFrom combine root next nodes).definitions := by
  induction nodes generalizing root next known with
  | nil => trivial
  | cons child nodes ih =>
    obtain ⟨hchild, hrest⟩ := List.forall_mem_cons.1 hnodes
    -- the new node is known from here on, and its number is used up
    have hnext := hbelow.append (Nat.le_succ next) (allWithin_node next (combine (.node root) (.node child)))
    refine ⟨hbelow.not_mem rfl le_rfl, ?_, ih ?_ ?_ hnext⟩
    · rw [hreads]
      simp [hroot, hchild]
    · simp
    · exact fun n hn => List.mem_append_left _ (hrest n hn)

/-- The root of combined nodes is the last one that is defined, unless there is nothing to combine. -/
lemma getLast_combineFrom (combine : RelationName → RelationName → Relation) (root next child : Nat)
    (nodes : List Nat) :
    (combineFrom combine root next (child :: nodes)).definitions.getLast?.map Definition.name =
      some (.node (combineFrom combine root next (child :: nodes)).root) := by
  induction nodes generalizing root next child with
  | nil => rfl
  | cons child' nodes ih =>
    obtain ⟨d, hd, hname⟩ := Option.map_eq_some_iff.1 (ih next (next + 1) child')
    rw [combineFrom_cons, List.getLast?_cons, hd]
    exact congrArg some hname

/-- The definitions of several nodes, continued by those that combine two or more of them. -/
lemma Introduces.combineFrom {child : Nat} (h : Introduces low high ds (root :: child :: nodes))
    (hreads : ∀ left right, (combine left right).reads = [left, right]) :
    Introduces low (combineFrom combine root high (child :: nodes)).next
      (ds ++ (combineFrom combine root high (child :: nodes)).definitions)
      [(combineFrom combine root high (child :: nodes)).root] := by
  obtain ⟨hle, hwithin⟩ := allWithin_combineFrom combine root high (child :: nodes)
  obtain ⟨d, hd, hname⟩ := Option.map_eq_some_iff.1 (getLast_combineFrom combine root high child nodes)
  refine ⟨h.le.trans hle, h.within.append hwithin h.le hle, fun known hcandidates hbelow => ?_, ?_, ?_⟩
  · obtain ⟨hroot, hnodes⟩ := List.forall_mem_cons.1 h.defined
    refine scoped_append.2 ⟨h.inScope known hcandidates hbelow, ?_⟩
    exact scoped_combineFrom hreads (List.mem_append_right _ hroot)
      (fun n hn => List.mem_append_right _ (hnodes n hn)) (hbelow.append h.le h.within)
  · rw [List.forall_mem_singleton, ← hname]
    exact List.mem_map_of_mem (List.mem_append_right _ (List.mem_of_getLast? hd))
  · rw [List.getLast?_append, hd, Option.some_or, Option.map_some, hname]
    rfl

/-- The definitions of several nodes, continued by those that combine them. -/
lemma Introduces.combineAll (h : Introduces low high ds nodes)
    (hreads : ∀ left right, (combine left right).reads = [left, right]) :
    Introduces low (combineAll combine high nodes).next (ds ++ (combineAll combine high nodes).definitions)
      [(combineAll combine high nodes).root] := by
  match nodes, h with
  | [], h =>
    refine ⟨h.le.trans (Nat.le_succ high), h.within.append (allWithin_node high _) h.le (Nat.le_succ high),
      fun known hcandidates hbelow => ?_, by simp [Sql.combineAll], by simp [Sql.combineAll]⟩
    refine scoped_append.2 ⟨h.inScope known hcandidates hbelow, ?_, ?_, trivial⟩
    · exact (hbelow.append h.le h.within).not_mem rfl le_rfl
    · simp [Relation.reads, hcandidates]
  | [root], h => simpa [Sql.combineAll, Sql.combineFrom] using h
  | root :: child :: nodes, h => exact h.combineFrom hreads

lemma introduces_compileList (next : Nat) {children : List Plan}
    (h : ∀ c ∈ children, ∀ next, Introduces next (compile time next c).next (compile time next c).definitions
      [(compile time next c).root]) :
    Introduces next (compileList time next children).2.2 (compileList time next children).1
      (compileList time next children).2.1 := by
  induction children generalizing next with
  | nil => exact ⟨le_rfl, by simp [compileList, AllWithin], fun _ _ _ => trivial, by simp [compileList], rfl⟩
  | cons child children ih =>
    rw [List.forall_mem_cons] at h
    exact (h.1 next).append (ih _ h.2)

/-- What a plan is compiled into, whatever the counter stands at. -/
theorem introduces_compile (time : TimeQuery) (next : Nat) (p : Plan) :
    Introduces next (compile time next p).next (compile time next p).definitions [(compile time next p).root] := by
  induction p using Plan.induction generalizing next with
  | leaf l => exact introduces_leaf l next
  | all children ih => exact (introduces_compileList next fun c hc next => ih c hc next).combineAll fun _ _ => rfl
  | any children ih => exact (introduces_compileList next fun c hc next => ih c hc next).combineAll fun _ _ => rfl

lemma AllWithin.not_mem (h : AllWithin low high ds) (hname : name.number = none) :
    name ∉ ds.map Definition.name := by
  intro hmem
  obtain ⟨d, hd, rfl⟩ := List.mem_map.1 hmem
  obtain ⟨n, hn, -⟩ := RelationName.within_iff.1 (h d hd)
  rw [hname] at hn
  cases hn

/-! ### Scopes of queries -/

/-- The relations of a query up to its intervals. -/
def intervalDefinitions (q : IntervalQuery) : List Definition :=
  [⟨.candidates, .candidates q.filter⟩] ++
    match q.plan with
    | some plan =>
      (compile q.time 0 plan).definitions ++ [⟨.intervals, .copy (.node (compile q.time 0 plan).root)⟩]
    | none => [⟨.intervals, .wholeWindow q.time.window⟩]

/-- The relations that pages are cut by. -/
def pageDefinitions : Option PageRequest → List Definition
  | some page => [⟨.ids, .ids⟩, ⟨.anchor, .anchor page.anchor⟩]
  | none => []

lemma definitionsOf_eq (q : IntervalQuery) :
    definitionsOf q = intervalDefinitions q ++ pageDefinitions q.page := by
  unfold definitionsOf intervalDefinitions pageDefinitions
  cases q.plan <;> cases q.page <;> rfl

lemma intervals_mem (q : IntervalQuery) : .intervals ∈ (intervalDefinitions q).map Definition.name := by
  unfold intervalDefinitions
  cases q.plan <;> simp

lemma page_not_mem (q : IntervalQuery) : .ids ∉ (intervalDefinitions q).map Definition.name ∧
    .anchor ∉ (intervalDefinitions q).map Definition.name := by
  unfold intervalDefinitions
  cases q.plan with
  | none => simp
  | some plan =>
    have hwithin := (introduces_compile q.time 0 plan).within
    have hids := hwithin.not_mem (rfl : RelationName.ids.number = none)
    have hanchor := hwithin.not_mem (rfl : RelationName.anchor.number = none)
    simp only [List.map_append, List.mem_append, hids, hanchor]
    simp

lemma scoped_intervalDefinitions (q : IntervalQuery) : Scoped [] (intervalDefinitions q) := by
  unfold intervalDefinitions
  cases q.plan with
  | none => simp [Scoped, Relation.reads]
  | some plan =>
    obtain ⟨-, hwithin, hscoped, hdefined, -⟩ := introduces_compile q.time 0 plan
    have hcompiled := hscoped [.candidates] (List.mem_singleton_self _) (by simp [AllBelow, RelationName.number])
    have hroot := hdefined _ (List.mem_singleton_self _)
    have hintervals := hwithin.not_mem (rfl : RelationName.intervals.number = none)
    refine scoped_append.2 ⟨by simp [Scoped, Relation.reads], scoped_append.2 ⟨hcompiled, ?_, ?_, trivial⟩⟩
    · rw [List.mem_append, not_or]
      exact ⟨by simp, hintervals⟩
    · exact List.cons_subset.2 ⟨List.mem_append_right _ hroot, List.nil_subset _⟩

/-- The relations of a query are in scope one after the other, whatever its plan and its page are. -/
theorem scoped_definitionsOf (q : IntervalQuery) : Scoped [] (definitionsOf q) := by
  obtain ⟨hids, hanchor⟩ := page_not_mem q
  rw [definitionsOf_eq, scoped_append]
  refine ⟨scoped_intervalDefinitions q, ?_⟩
  cases q.page with
  | none => trivial
  | some page => simpa [pageDefinitions, Scoped, Relation.reads, hids, hanchor] using intervals_mem q

/-! ### WITH lists -/

/-- A table of a WITH list: its name, and the text in its parentheses. -/
structure CommonTable where
  name : String
  body : String

def CommonTable.text (t : CommonTable) : String := t.name ++ " AS (" ++ t.body ++ ")"

/-- The text of a WITH list. -/
def withList (tables : List CommonTable) : String := "WITH " ++ ", ".intercalate (tables.map CommonTable.text)

/-- In a WITH list each table is introduced once, by a word that is no stored table. In what stands in its
parentheses the parentheses match, and all tables are stored ones or were introduced earlier in the list. -/
structure WellScoped (tables : List CommonTable) : Prop where
  isWord : ∀ t ∈ tables, IsWord t.name
  nodup : (tables.map CommonTable.name).Nodup
  not_stored : ∀ t ∈ tables, t.name ∉ storedTables
  isBalanced : ∀ t ∈ tables, IsBalanced t.body
  sources_subset : ∀ before t after, tables = before ++ t :: after →
    sources t.body ⊆ storedTables ++ before.map CommonTable.name

/-- The tables of definitions when so many placeholders stand before them. -/
def commonTables (placeholders : Nat) : List Definition → List CommonTable
  | [] => []
  | d :: ds => ⟨d.name.text, d.relation.fragment.textFrom placeholders⟩ ::
      commonTables (placeholders + d.relation.fragment.values.length) ds

lemma map_name_commonTables (n : Nat) (ds : List Definition) :
    (commonTables n ds).map CommonTable.name = (ds.map Definition.name).map RelationName.text := by
  induction ds generalizing n with
  | nil => rfl
  | cons d ds ih => simp [commonTables, ih]

/-- The tables of some definitions and of those that follow. -/
lemma commonTables_append (n : Nat) (ds es : List Definition) :
    ∃ m, commonTables n (ds ++ es) = commonTables n ds ++ commonTables m es := by
  induction ds generalizing n with
  | nil => exact ⟨n, rfl⟩
  | cons d ds ih =>
    obtain ⟨m, hm⟩ := ih (n + d.relation.fragment.values.length)
    exact ⟨m, congrArg (List.cons _) hm⟩

/-- Where a table stands in the list, its definition stands among the definitions. -/
lemma exists_of_commonTables_eq {before after : List CommonTable} {t : CommonTable}
    (h : commonTables n ds = before ++ t :: after) :
    ∃ (ds₁ : List Definition) (d : Definition) (ds₂ : List Definition) (m : Nat), ds = ds₁ ++ d :: ds₂ ∧
      before.map CommonTable.name = (ds₁.map Definition.name).map RelationName.text ∧
      t = ⟨d.name.text, d.relation.fragment.textFrom m⟩ := by
  induction before generalizing n ds with
  | nil =>
    cases ds with
    | nil => cases h
    | cons d ds =>
      obtain ⟨rfl, -⟩ := List.cons.inj h
      exact ⟨[], d, ds, n, rfl, rfl, rfl⟩
  | cons t' before ih =>
    cases ds with
    | nil => cases h
    | cons d ds =>
      obtain ⟨rfl, hrest⟩ := List.cons.inj h
      obtain ⟨ds₁, e, ds₂, m, rfl, hnames, rfl⟩ := ih hrest
      exact ⟨d :: ds₁, e, ds₂, m, rfl, congrArg (List.cons _) hnames, rfl⟩

lemma exists_of_mem_commonTables {t : CommonTable} (h : t ∈ commonTables n ds) :
    ∃ (d : Definition) (m : Nat), t = ⟨d.name.text, d.relation.fragment.textFrom m⟩ := by
  obtain ⟨before, after, hsplit⟩ := List.append_of_mem h
  obtain ⟨-, d, -, m, -, -, rfl⟩ := exists_of_commonTables_eq hsplit
  exact ⟨d, m, rfl⟩

lemma wellScoped_commonTables (h : Scoped [] ds) (n : Nat) : WellScoped (commonTables n ds) where
  isWord t ht := by
    obtain ⟨d, m, rfl⟩ := exists_of_mem_commonTables ht
    exact isWord_relationName d.name
  nodup := by
    rw [map_name_commonTables]
    exact (h.nodup List.nodup_nil).map RelationName.text_injective
  not_stored t ht := by
    obtain ⟨d, m, rfl⟩ := exists_of_mem_commonTables ht
    exact text_not_mem_storedTables d.name
  isBalanced t ht := by
    obtain ⟨d, m, rfl⟩ := exists_of_mem_commonTables ht
    exact (scans_relation d.relation m).isBalanced
  sources_subset before t after hsplit := by
    obtain ⟨ds₁, d, ds₂, m, rfl, hnames, rfl⟩ := exists_of_commonTables_eq hsplit
    obtain ⟨-, hreads, -⟩ := (scoped_append.1 h).2
    rw [(scans_relation d.relation m).sources_eq, hnames]
    intro s hs
    rw [List.mem_append]
    exact (List.mem_append.1 (d.relation.tables_subset hs)).imp_right fun h => List.map_subset _ hreads h

/-- A definition is written as a table. -/
lemma textFrom_definition (n : Nat) (d : Definition) :
    d.fragment.textFrom n = CommonTable.text ⟨d.name.text, d.relation.fragment.textFrom n⟩ := by
  simp only [Definition.fragment, CommonTable.text, Fragment.textFrom_append, Fragment.textFrom_text,
    Fragment.values_text, List.length_nil, Nat.add_zero]

lemma values_definition (d : Definition) : d.fragment.values = d.relation.fragment.values := by
  simp [Definition.fragment, Fragment.values_append]

/-- Definitions are written as a WITH list. -/
lemma textFrom_withFragment (n : Nat) (ds : List Definition) :
    (withFragment ds).textFrom n = withList (commonTables n ds) := by
  have hlist : (Fragment.separated ", " (ds.map Definition.fragment)).textFrom n =
      ", ".intercalate ((commonTables n ds).map CommonTable.text) := by
    induction ds generalizing n with
    | nil => rfl
    | cons d ds ih =>
      cases ds with
      | nil => exact (textFrom_definition n d).trans String.intercalate_singleton.symm
      | cons e es =>
        rw [List.map_cons, List.map_cons, Fragment.separated, Fragment.textFrom_append, Fragment.textFrom_append,
          Fragment.textFrom_text, textFrom_definition, Fragment.values_append, values_definition,
          Fragment.values_text, List.append_nil]
        · exact (congrArg _ (ih _)).trans String.intercalate_cons_cons.symm
        · simp
  rw [withFragment, Fragment.textFrom_append, Fragment.textFrom_text, withList]
  exact congrArg _ hlist

/-! ### Statements -/

/-- What is selected is selected from tables of the WITH list. -/
lemma exists_scans_of_mem_selects (q : IntervalQuery) {select : Fragment} (h : select ∈ (selects q).toList) :
    ∃ names, Fragment.Scans ⟨.quiet, 0⟩ select ⟨.quiet, 0⟩ names ∧
      names ⊆ ((definitionsOf q).map Definition.name).map RelationName.text := by
  have hmem {name : RelationName} (hname : name ∈ (definitionsOf q).map Definition.name) :
      name.text ∈ ((definitionsOf q).map Definition.name).map RelationName.text := List.mem_map_of_mem hname
  have hnames : (definitionsOf q).map Definition.name =
      (intervalDefinitions q).map Definition.name ++ (pageDefinitions q.page).map Definition.name := by
    rw [definitionsOf_eq, List.map_append]
  have hintervals := hmem (hnames ▸ List.mem_append_left _ (intervals_mem q))
  have hpaged {page : PageRequest} (hpage : q.page = some page) :
      [RelationName.ids.text, RelationName.anchor.text] ⊆
        ((definitionsOf q).map Definition.name).map RelationName.text := by
    rw [hpage] at hnames
    have hpageNames : [RelationName.ids, RelationName.anchor] ⊆ (definitionsOf q).map Definition.name :=
      hnames ▸ List.subset_append_right _ _
    exact List.map_subset _ hpageNames
  obtain rfl | ⟨page, hpage, hselect⟩ := cases_of_mem_selects h
  · cases hpage : q.page with
    | none => exact ⟨_, scans_selectIntervals_none, List.cons_subset.2 ⟨hintervals, List.nil_subset _⟩⟩
    | some page =>
      exact ⟨_, scans_selectIntervals_some page, List.cons_subset.2 ⟨hintervals, hpaged hpage⟩⟩
  · obtain rfl | rfl | rfl := hselect
    · exact ⟨_, scans_selectNext page.size, hpaged hpage⟩
    · exact ⟨_, scans_selectPrev page.size, hpaged hpage⟩
    · exact ⟨_, scans_selectCount, List.cons_subset.2 ⟨hpaged hpage List.mem_cons_self, List.nil_subset _⟩⟩

/-- The root of a plan stands before the intervals that are read from it. -/
lemma exists_root_intervals {q : IntervalQuery} {plan : Plan} (h : q.plan = some plan) (n : Nat) :
    ∃ before root intervals after, commonTables n (definitionsOf q) = before ++ root :: intervals :: after ∧
      root.name = (RelationName.node (compile q.time 0 plan).root).text ∧
      intervals.name = RelationName.intervals.text ∧ sources intervals.body = [root.name] := by
  obtain ⟨d, hlast, hname⟩ := Option.map_eq_some_iff.1 (introduces_compile q.time 0 plan).last
  obtain ⟨before, hbefore⟩ := List.getLast?_eq_some_iff.1 hlast
  have hdefinitions : definitionsOf q = (⟨.candidates, .candidates q.filter⟩ :: before) ++ d ::
      ⟨.intervals, .copy (.node (compile q.time 0 plan).root)⟩ :: pageDefinitions q.page := by
    rw [definitionsOf_eq, intervalDefinitions, h]
    simp [hbefore]
  obtain ⟨m, hm⟩ := commonTables_append n (⟨.candidates, .candidates q.filter⟩ :: before)
    (d :: ⟨.intervals, .copy (.node (compile q.time 0 plan).root)⟩ :: pageDefinitions q.page)
  rw [hdefinitions, hm]
  refine ⟨_, _, _, _, rfl, congrArg RelationName.text hname, rfl, ?_⟩
  rw [(scans_relation _ _).sources_eq, hname]
  rfl

/-- Without a plan the intervals are read from the candidates. -/
lemma exists_candidates_intervals {q : IntervalQuery} (h : q.plan = none) (n : Nat) :
    ∃ before intervals after, commonTables n (definitionsOf q) = before ++ intervals :: after ∧
      intervals.name = RelationName.intervals.text ∧
      sources intervals.body = [RelationName.candidates.text] := by
  have hdefinitions : definitionsOf q = ⟨.candidates, .candidates q.filter⟩ ::
      ⟨.intervals, .wholeWindow q.time.window⟩ :: pageDefinitions q.page := by
    rw [definitionsOf_eq, intervalDefinitions, h]
    rfl
  rw [hdefinitions]
  exact ⟨[_], _, _, rfl, rfl, (scans_relation _ _).sources_eq⟩

/-- All statements of an interval query begin with the same WITH list, which is well scoped, and with the same
values; the parentheses in a statement match, and it selects from tables of the list. If there is a plan, the
intervals of the query are read from the root of the plan, which stands before them in the list, and otherwise from
the candidates. -/
theorem withList_wellScoped (q : IntervalQuery) :
    let tables := commonTables 0 (definitionsOf q)
    let values := (withFragment (definitionsOf q)).values
    WellScoped tables ∧
      (match q.plan with
        | some plan => ∃ before root intervals after, tables = before ++ root :: intervals :: after ∧
            root.name = (RelationName.node (compile q.time 0 plan).root).text ∧
            intervals.name = RelationName.intervals.text ∧ sources intervals.body = [root.name]
        | none => ∃ before intervals after, tables = before ++ intervals :: after ∧
            intervals.name = RelationName.intervals.text ∧
            sources intervals.body = [RelationName.candidates.text]) ∧
      List.Forall₂ (fun s select =>
          s.sql = withList tables ++ select.textFrom values.length ∧ s.values = values ++ select.values ∧
            IsBalanced s.sql ∧ IsBalanced (select.textFrom values.length) ∧
            sources (select.textFrom values.length) ⊆ tables.map CommonTable.name)
        (intervalStatements q).toList (selects q).toList := by
  intro tables values
  refine ⟨wellScoped_commonTables (scoped_definitionsOf q) 0, ?_, ?_⟩
  · split
    case h_1 plan hplan => exact exists_root_intervals hplan 0
    case h_2 hplan => exact exists_candidates_intervals hplan 0
  · rw [intervalStatements, intervalFragments, IntervalStatements.toList_map, IntervalStatements.toList_map,
      List.map_map, List.forall₂_map_left_iff, List.forall₂_same]
    intro select hselect
    obtain ⟨names, hscans, hnames⟩ := exists_scans_of_mem_selects q hselect
    have hstatement : (withFragment (definitionsOf q) ++ select).render =
        ⟨withList tables ++ select.textFrom values.length, values ++ select.values⟩ := by
      rw [Fragment.render, Statement.continuedBy, Fragment.textFrom_append, Fragment.values_append,
        textFrom_withFragment]
      simp [tables, values]
    have hwhole := (scans_withFragment (definitionsOf q) 0).append (hscans values.length)
    have halone := (hscans values.length).narrow fresh_within_quiet
    rw [textFrom_withFragment] at hwhole
    rw [Function.comp_apply, hstatement]
    refine ⟨rfl, rfl, hwhole.isBalanced, halone.isBalanced, ?_⟩
    rw [halone.sources_eq, map_name_commonTables]
    exact hnames

end EntityHistory.Sql
