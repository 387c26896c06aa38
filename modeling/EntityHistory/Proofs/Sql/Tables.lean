/-
The tables of a plan.

The relations that a plan is compiled into are carried out one after the other, each on the tables of those
before it. An inner node joins the rows of two relations that overlap, by the rules of a join, of `NOT EXISTS`
and of `UNION`; what the samples of a leaf come to is taken as given. A disjunction is made pair by pair, so its
rows can overlap and repeat each other, but they cover what they should, also between instants. Evaluation
keeps canonical lists all along; both come to the same once the rows of the root are brought into normal form.

* `Sql.combines_both`, `Sql.combines_either`: what the rows of an inner node cover;
* `Sql.compiles_compile`: the root of a plan, carried out, covers what the plan says as a formula;
* `Sql.gives_normalize_rows`: its normal form is what evaluation gives.
-/
import Mathlib.Data.List.Dedup
import EntityHistory.Proofs.Interval.Rescale
import EntityHistory.Sql.Relation

namespace EntityHistory

/-- The least interval around two intervals. -/
def EntityInterval.hull (a b : EntityInterval) : EntityInterval :=
  ⟨a.entityId, min a.start b.start, max a.stop b.stop⟩

namespace Sql

open EntityInterval

/-! ### Carrying out definitions -/

/-- What a relation holds, as far as the intervals of a plan go. -/
inductive Table where
  /-- Samples of a leaf. -/
  | samples (leaf : PlanLeaf)
  /-- Intervals in some order, possibly repeated. -/
  | intervals (rows : List EntityInterval)
  /-- Anything else. -/
  | other

/-- The intervals of a table. -/
def Table.rows : Table → List EntityInterval
  | .intervals rows => rows
  | _ => []

/-- One row for each pair of rows that overlap. -/
def joinRows (combine : EntityInterval → EntityInterval → EntityInterval)
    (left right : List EntityInterval) : List EntityInterval :=
  left.flatMap fun a => (right.filter fun b => a.overlaps b).map (combine a)

/-- The rows that overlap none of others. -/
def rowsWithout (rows others : List EntityInterval) : List EntityInterval :=
  rows.filter fun a => !others.any fun b => a.overlaps b

/-- The rows of a conjunction: the common parts of overlapping rows. -/
def bothRows (left right : List EntityInterval) : List EntityInterval := joinRows inter left right

/-- The rows of a disjunction, each once: the hulls of overlapping rows, and those of either side that overlap
none of the other. -/
def eitherRows (left right : List EntityInterval) : List EntityInterval :=
  (joinRows hull left right ++ rowsWithout left right ++ rowsWithout right left).dedup

/-- The table of a relation when those of other relations are known, and to what the samples of each leaf
come. -/
def Relation.table (runsOf : PlanLeaf → List EntityInterval) (tables : RelationName → Table) :
    Relation → Table
  | .samples _ leaf => .samples leaf
  | .starts _ points => tables points
  | .timeline _ points _ => tables points
  | .runs points =>
    match tables points with
    | .samples leaf => .intervals (runsOf leaf)
    | _ => .other
  | .both left right => .intervals (bothRows (tables left).rows (tables right).rows)
  | .either left right => .intervals (eitherRows (tables left).rows (tables right).rows)
  | .nothing => .intervals []
  | .copy root => tables root
  | .candidates _ => .other
  | .wholeWindow _ => .other
  | .ids => .other
  | .anchor _ => .other

variable (runsOf : PlanLeaf → List EntityInterval)

/-- The tables after one more definition. -/
def define (tables : RelationName → Table) (d : Definition) : RelationName → Table :=
  Function.update tables d.name (d.relation.table runsOf tables)

/-- The tables after definitions, one after the other. -/
def run (definitions : List Definition) (tables : RelationName → Table) : RelationName → Table :=
  definitions.foldl (define runsOf) tables

variable {runsOf} {tables : RelationName → Table} {ds es : List Definition} {d : Definition}
  {name : RelationName}

lemma run_cons : run runsOf (d :: ds) tables = run runsOf ds (define runsOf tables d) := rfl

lemma run_append : run runsOf (ds ++ es) tables = run runsOf es (run runsOf ds tables) :=
  List.foldl_append

lemma define_of_ne (h : name ≠ d.name) : define runsOf tables d name = tables name :=
  Function.update_of_ne h _ _

/-- A table that no definition names stays as it is. -/
lemma run_of_forall_ne (h : ∀ d ∈ ds, name ≠ d.name) : run runsOf ds tables name = tables name := by
  induction ds generalizing tables with
  | nil => rfl
  | cons d ds ih =>
    rw [List.forall_mem_cons] at h
    rw [run_cons, ih h.2, define_of_ne h.1]

/-! ### What the rows of an inner node cover -/

/-- Intervals cover an entity exactly where a function is true, also between instants. -/
structure Outlines (rows : List EntityInterval) (truth : String → Instant → Bool) : Prop where
  start_le_stop : ∀ i ∈ rows, i.start ≤ i.stop
  covers_doubled : ∀ e t, covers (doubled rows) e t = truth e t

section Rows

variable {a b i : EntityInterval} {left right : List EntityInterval}
  {combine : EntityInterval → EntityInterval → EntityInterval} {p q : String → Instant → Bool}
  {e : String} {t : Instant}

lemma mem_joinRows :
    i ∈ joinRows combine left right ↔
      ∃ a ∈ left, ∃ b ∈ right, a.overlaps b = true ∧ combine a b = i := by
  simp only [joinRows, List.mem_flatMap, List.mem_map, List.mem_filter, and_assoc]

lemma mem_rowsWithout : i ∈ rowsWithout left right ↔ i ∈ left ∧ ∀ b ∈ right, ¬ i.overlaps b = true := by
  simp [rowsWithout]

lemma overlaps_comm : a.overlaps b = b.overlaps a := by
  rw [Bool.eq_iff_iff, overlaps_iff, overlaps_iff]
  constructor <;> exact fun ⟨he, hab, hba⟩ => ⟨he.symm, hba, hab⟩

lemma hull_rescale {f : Instant → Instant} (hf : StrictMono f) :
    (a.hull b).rescale f = (a.rescale f).hull (b.rescale f) := by
  simp only [hull, rescale, hf.monotone.map_max, hf.monotone.map_min]

lemma start_le_stop_hull (ha : a.start ≤ a.stop) : (a.hull b).start ≤ (a.hull b).stop :=
  (min_le_left _ _).trans (ha.trans (le_max_left _ _))

/-- Between two intervals that overlap there is no gap. -/
lemma spans_hull (h : a.overlaps b = true) : (a.hull b).Spans e t ↔ a.Spans e t ∨ b.Spans e t := by
  obtain ⟨he, hab, hba⟩ := overlaps_iff.1 h
  simp only [Spans, hull, min_le_iff, le_max_iff, ← he]
  constructor
  · rintro ⟨hae, hst, hts⟩
    rcases lt_or_ge t a.start with hta | hat
    · exact Or.inr ⟨hae, hst.resolve_left hta.not_ge, hta.le.trans hab⟩
    · rcases le_or_gt t a.stop with hta | hat'
      · exact Or.inl ⟨hae, hat, hta⟩
      · exact Or.inr ⟨hae, hba.trans hat'.le, hts.resolve_left hat'.not_ge⟩
  · rintro (⟨hae, hat, hta⟩ | ⟨hae, hbt, htb⟩)
    · exact ⟨hae, Or.inl hat, Or.inl hta⟩
    · exact ⟨hae, Or.inr hbt, Or.inr htb⟩

lemma mem_eitherRows :
    i ∈ eitherRows left right ↔ (∃ a ∈ left, ∃ b ∈ right, a.overlaps b = true ∧ a.hull b = i) ∨
      (i ∈ left ∧ ∀ b ∈ right, ¬ i.overlaps b = true) ∨
      (i ∈ right ∧ ∀ a ∈ left, ¬ i.overlaps a = true) := by
  simp only [eitherRows, List.mem_dedup, List.mem_append, mem_joinRows, mem_rowsWithout, or_assoc]

lemma outlines_nil : Outlines [] fun _ _ => false := ⟨by simp, fun _ _ => rfl⟩

lemma outlines_of_canonical {rows : List EntityInterval} (h : Canonical rows) :
    Outlines rows fun e t => covers (doubled rows) e t := ⟨h.start_le_stop, fun _ _ => rfl⟩

lemma covers_doubled_bothRows :
    covers (doubled (bothRows left right)) e t = true ↔
      covers (doubled left) e t = true ∧ covers (doubled right) e t = true := by
  have hinter : ∀ {a b : EntityInterval}, a.entityId = b.entityId →
      (((a.inter b).rescale double).Spans e t ↔
        (a.rescale double).Spans e t ∧ (b.rescale double).Spans e t) := fun he => by
    rw [← inter_rescale strictMono_double]
    exact spans_inter he
  simp only [covers_doubled_iff, bothRows, mem_joinRows]
  constructor
  · rintro ⟨-, ⟨a, ha, b, hb, hab, rfl⟩, hspans⟩
    obtain ⟨has, hbs⟩ := (hinter (overlaps_iff.1 hab).1).1 hspans
    exact ⟨⟨a, ha, has⟩, ⟨b, hb, hbs⟩⟩
  · rintro ⟨⟨a, ha, has⟩, ⟨b, hb, hbs⟩⟩
    have he : a.entityId = b.entityId := has.1.trans hbs.1.symm
    have hab : a.overlaps b = true := by
      rw [← overlaps_rescale strictMono_double, overlaps_iff]
      exact ⟨he, has.2.1.trans hbs.2.2, hbs.2.1.trans has.2.2⟩
    exact ⟨a.inter b, ⟨a, ha, b, hb, hab, rfl⟩, (hinter he).2 ⟨has, hbs⟩⟩

lemma covers_doubled_eitherRows :
    covers (doubled (eitherRows left right)) e t = true ↔
      covers (doubled left) e t = true ∨ covers (doubled right) e t = true := by
  have hhull : ∀ {a b : EntityInterval}, a.overlaps b = true → (((a.hull b).rescale double).Spans e t ↔
      (a.rescale double).Spans e t ∨ (b.rescale double).Spans e t) := fun hab => by
    rw [hull_rescale strictMono_double, spans_hull ((overlaps_rescale strictMono_double).trans hab)]
  simp only [covers_doubled_iff, mem_eitherRows]
  constructor
  · rintro ⟨i, ⟨a, ha, b, hb, hab, rfl⟩ | ⟨hi, -⟩ | ⟨hi, -⟩, hspans⟩
    · rcases (hhull hab).1 hspans with has | hbs
      · exact Or.inl ⟨a, ha, has⟩
      · exact Or.inr ⟨b, hb, hbs⟩
    · exact Or.inl ⟨i, hi, hspans⟩
    · exact Or.inr ⟨i, hi, hspans⟩
  · -- a row of either side is there by itself unless it overlaps one of the other side
    rintro (⟨a, ha, has⟩ | ⟨b, hb, hbs⟩)
    · by_cases h : ∃ b ∈ right, a.overlaps b = true
      · obtain ⟨b, hb, hab⟩ := h
        exact ⟨a.hull b, Or.inl ⟨a, ha, b, hb, hab, rfl⟩, (hhull hab).2 (Or.inl has)⟩
      · exact ⟨a, Or.inr (Or.inl ⟨ha, fun b hb hab => h ⟨b, hb, hab⟩⟩), has⟩
    · by_cases h : ∃ a ∈ left, b.overlaps a = true
      · obtain ⟨a, ha, hba⟩ := h
        rw [overlaps_comm] at hba
        exact ⟨a.hull b, Or.inl ⟨a, ha, b, hb, hba, rfl⟩, (hhull hba).2 (Or.inr hbs)⟩
      · exact ⟨b, Or.inr (Or.inr ⟨hb, fun a ha hba => h ⟨a, ha, hba⟩⟩), hbs⟩

lemma Outlines.both (hleft : Outlines left p) (hright : Outlines right q) :
    Outlines (bothRows left right) fun e t => p e t && q e t where
  start_le_stop i hi := by
    obtain ⟨a, ha, b, hb, hab, rfl⟩ := mem_joinRows.1 hi
    exact start_le_stop_inter (hleft.start_le_stop a ha) (hright.start_le_stop b hb) hab
  covers_doubled e t := by
    rw [Bool.eq_iff_iff, covers_doubled_bothRows, Bool.and_eq_true, hleft.covers_doubled,
      hright.covers_doubled]

lemma Outlines.either (hleft : Outlines left p) (hright : Outlines right q) :
    Outlines (eitherRows left right) fun e t => p e t || q e t where
  start_le_stop i hi := by
    obtain ⟨a, ha, b, -, -, rfl⟩ | ⟨hi, -⟩ | ⟨hi, -⟩ := mem_eitherRows.1 hi
    · exact start_le_stop_hull (hleft.start_le_stop a ha)
    · exact hleft.start_le_stop i hi
    · exact hright.start_le_stop i hi
  covers_doubled e t := by
    rw [Bool.eq_iff_iff, covers_doubled_eitherRows, Bool.or_eq_true, hleft.covers_doubled,
      hright.covers_doubled]

end Rows

/-! ### Carrying out a plan -/

/-- A node holds intervals that outline a function. -/
def NodeOutlines (tables : RelationName → Table) (n : Nat) (truth : String → Instant → Bool) : Prop :=
  ∃ rows, tables (.node n) = .intervals rows ∧ Outlines rows truth

/-- A way of combining two nodes into one makes of what they outline what an operation on truth values makes
of it. -/
def Combines (runsOf : PlanLeaf → List EntityInterval) (combine : RelationName → RelationName → Relation)
    (op : Bool → Bool → Bool) : Prop :=
  ∀ {tables j k p q} (n : Nat), NodeOutlines tables j p → NodeOutlines tables k q →
    NodeOutlines (define runsOf tables ⟨.node n, combine (.node j) (.node k)⟩) n
      fun e t => op (p e t) (q e t)

lemma combines_both : Combines runsOf .both and := by
  rintro tables j k p q n ⟨left, hj, hleft⟩ ⟨right, hk, hright⟩
  refine ⟨bothRows left right, ?_, hleft.both hright⟩
  rw [define, Function.update_self, Relation.table, hj, hk]
  rfl

lemma combines_either : Combines runsOf .either or := by
  rintro tables j k p q n ⟨left, hj, hleft⟩ ⟨right, hk, hright⟩
  refine ⟨eitherRows left right, ?_, hleft.either hright⟩
  rw [define, Function.update_self, Relation.table, hj, hk]
  rfl

/-- A name is numbered from one number on and below another. -/
def RelationName.Within (low high : Nat) : RelationName → Prop
  | .node n => low ≤ n ∧ n < high
  | .samples n => low ≤ n ∧ n < high
  | .starts n => low ≤ n ∧ n < high
  | .timeline n => low ≤ n ∧ n < high
  | _ => False

/-- All definitions have names that are numbered from one number on and below another. -/
def AllWithin (low high : Nat) (definitions : List Definition) : Prop :=
  ∀ d ∈ definitions, d.name.Within low high

lemma RelationName.Within.mono {low low' high high' : Nat} (h : name.Within low' high')
    (hlow : low ≤ low') (hhigh : high' ≤ high) : name.Within low high := by
  cases name with
  | node n | samples n | starts n | timeline n => exact ⟨hlow.trans h.1, h.2.trans_le hhigh⟩
  | candidates | intervals | ids | anchor => exact h

lemma AllWithin.append {low mid high : Nat} (hds : AllWithin low mid ds) (hes : AllWithin mid high es)
    (hlow : low ≤ mid) (hhigh : mid ≤ high) : AllWithin low high (ds ++ es) := by
  intro d hd
  rcases List.mem_append.1 hd with hd | hd
  · exact (hds d hd).mono le_rfl hhigh
  · exact (hes d hd).mono hlow le_rfl

/-- Definitions with higher numbers leave a node as it is. -/
lemma NodeOutlines.run {low high n : Nat} {truth : String → Instant → Bool} (h : NodeOutlines tables n truth)
    (hds : AllWithin low high ds) (hn : n < low) : NodeOutlines (run runsOf ds tables) n truth := by
  obtain ⟨rows, hrows, houtlines⟩ := h
  refine ⟨rows, ?_, houtlines⟩
  rw [run_of_forall_ne, hrows]
  rintro d hd heq
  have hwithin := hds d hd
  rw [← heq] at hwithin
  exact absurd hwithin.1 hn.not_ge

/-- Nodes below a number hold intervals that outline some functions. -/
def NodesOutline (tables : RelationName → Table) (high : Nat) :
    List Nat → List (String → Instant → Bool) → Prop :=
  List.Forall₂ fun n truth => n < high ∧ NodeOutlines tables n truth

lemma NodesOutline.run {low high : Nat} {nodes : List Nat} {truths : List (String → Instant → Bool)}
    (h : NodesOutline tables low nodes truths) (hds : AllWithin low high ds) (hle : low ≤ high) :
    NodesOutline (run runsOf ds tables) high nodes truths :=
  h.imp fun _ _ ⟨hlt, hn⟩ => ⟨hlt.trans_le hle, hn.run hds hlt⟩

/-- Definitions that are numbered from one number on and below another, after which nodes below outline some
functions. -/
structure Compiles (runsOf : PlanLeaf → List EntityInterval) (low high : Nat)
    (definitions : List Definition) (nodes : List Nat) (truths : List (String → Instant → Bool)) :
    Prop where
  le : low ≤ high
  within : AllWithin low high definitions
  outline : ∀ tables, NodesOutline (Sql.run runsOf definitions tables) high nodes truths

section Combining

variable {combine : RelationName → RelationName → Relation} {op : Bool → Bool → Bool} {root next : Nat}
  {nodes : List Nat} {p : String → Instant → Bool} {truths : List (String → Instant → Bool)}

lemma combineFrom_cons (child : Nat) : combineFrom combine root next (child :: nodes) =
    ⟨⟨.node next, combine (.node root) (.node child)⟩ ::
        (combineFrom combine next (next + 1) nodes).definitions,
      (combineFrom combine next (next + 1) nodes).root,
      (combineFrom combine next (next + 1) nodes).next⟩ := rfl

lemma allWithin_combineFrom (combine : RelationName → RelationName → Relation) (root next : Nat)
    (nodes : List Nat) : next ≤ (combineFrom combine root next nodes).next ∧
      AllWithin next (combineFrom combine root next nodes).next
        (combineFrom combine root next nodes).definitions := by
  induction nodes generalizing root next with
  | nil => exact ⟨le_rfl, by simp [combineFrom, AllWithin]⟩
  | cons child nodes ih =>
    obtain ⟨hle, hwithin⟩ := ih next (next + 1)
    rw [combineFrom_cons, AllWithin, List.forall_mem_cons]
    exact ⟨(Nat.le_succ next).trans hle, ⟨le_rfl, Nat.lt_of_succ_le hle⟩,
      fun d hd => (hwithin d hd).mono (Nat.le_succ next) le_rfl⟩

/-- Combining a node with others, one after the other, folds what they outline. -/
lemma nodesOutline_combineFrom (hcombine : Combines runsOf combine op)
    (h : NodesOutline tables next (root :: nodes) (p :: truths)) :
    NodesOutline (run runsOf (combineFrom combine root next nodes).definitions tables)
      (combineFrom combine root next nodes).next [(combineFrom combine root next nodes).root]
      [fun e t => truths.foldl (fun b truth => op b (truth e t)) (p e t)] := by
  induction nodes generalizing root next tables p truths with
  | nil =>
    cases h with
    | cons hroot hnodes =>
      cases hnodes
      exact .cons hroot .nil
  | cons child nodes ih =>
    cases h with
    | cons hroot h =>
      cases h with
      | @cons _ q _ truths hchild hnodes =>
        have hnew : AllWithin next (next + 1) [⟨.node next, combine (.node root) (.node child)⟩] := by
          simp [AllWithin, RelationName.Within]
        have hcombined := hcombine next hroot.2 hchild.2
        have hrest : NodesOutline (run runsOf [_] tables) (next + 1) nodes truths :=
          NodesOutline.run hnodes hnew (Nat.le_succ next)
        exact ih (p := fun e t => op (p e t) (q e t)) (.cons ⟨Nat.lt_succ_self next, hcombined⟩ hrest)

/-- What combining several functions gives: without any it is false everywhere. -/
def combined (op : Bool → Bool → Bool) : List (String → Instant → Bool) → String → Instant → Bool
  | [], _, _ => false
  | p :: truths, e, t => truths.foldl (fun b truth => op b (truth e t)) (p e t)

/-- The definitions of several nodes, continued by those that combine them. -/
lemma Compiles.combineAll {low high : Nat} (h : Compiles runsOf low high ds nodes truths)
    (hcombine : Combines runsOf combine op) :
    Compiles runsOf low (combineAll combine high nodes).next
      (ds ++ (combineAll combine high nodes).definitions) [(combineAll combine high nodes).root]
      [combined op truths] := by
  have hlen : nodes.length = truths.length := (h.outline fun _ => .other).length_eq
  cases nodes with
  | nil =>
    obtain rfl : truths = [] := List.eq_nil_of_length_eq_zero hlen.symm
    refine ⟨h.le.trans (Nat.le_succ high), ?_, fun tables => .cons ⟨Nat.lt_succ_self high, ?_⟩ .nil⟩
    · refine h.within.append ?_ h.le (Nat.le_succ high)
      simp [AllWithin, Sql.combineAll, RelationName.Within]
    · refine ⟨[], ?_, outlines_nil⟩
      rw [run_append]
      exact Function.update_self ..
  | cons root nodes =>
    obtain ⟨p, truths, rfl⟩ := List.exists_cons_of_length_eq_add_one hlen.symm
    obtain ⟨hle, hwithin⟩ := allWithin_combineFrom combine root high nodes
    refine ⟨h.le.trans hle, h.within.append hwithin h.le hle, fun tables => ?_⟩
    rw [run_append]
    exact nodesOutline_combineFrom hcombine (h.outline tables)

/-- The definitions of one node, continued by those of others. -/
lemma Compiles.append {low mid high : Nat} (h : Compiles runsOf low mid ds [root] [p])
    (h' : Compiles runsOf mid high es nodes truths) :
    Compiles runsOf low high (ds ++ es) (root :: nodes) (p :: truths) := by
  refine ⟨h.le.trans h'.le, h.within.append h'.within h.le h'.le, fun tables => ?_⟩
  rw [run_append]
  cases (h.outline tables).run h'.within h'.le with
  | cons hroot _ => exact .cons hroot (h'.outline _)

end Combining

section Compiling

variable {time : TimeQuery} {p : Plan} {children : List Plan}

/-- Where the intervals of a plan's leaves, doubled, make the plan true. -/
def outline (runsOf : PlanLeaf → List EntityInterval) (p : Plan) (e : String) (t : Instant) : Bool :=
  p.holds fun l => covers (doubled (runsOf l)) e t

/-- Folding the values of plans, when these have a common value by the same operation. -/
lemma foldl_value_eq {op : Bool → Bool → Bool} {value : Plan → Bool} {valueOf : List Plan → Bool}
    (hassoc : ∀ a b c, op (op a b) c = op a (op b c)) (hnil : ∀ b, op b (valueOf []) = b)
    (hcons : ∀ c cs, valueOf (c :: cs) = op (value c) (valueOf cs)) (children : List Plan) (b : Bool) :
    children.foldl (fun b c => op b (value c)) b = op b (valueOf children) := by
  induction children generalizing b with
  | nil => exact (hnil b).symm
  | cons child children ih => rw [List.foldl_cons, ih, hcons, hassoc]

lemma outline_all (children : List Plan) :
    outline runsOf (.all children) = combined and (children.map (outline runsOf)) := by
  funext e t
  cases children with
  | nil => rfl
  | cons child children =>
    rw [List.map_cons, combined, List.foldl_map]
    exact (foldl_value_eq Bool.and_assoc Bool.and_true (fun _ _ => rfl) children _).symm

lemma outline_any (children : List Plan) :
    outline runsOf (.any children) = combined or (children.map (outline runsOf)) := by
  funext e t
  cases children with
  | nil => rfl
  | cons child children =>
    rw [List.map_cons, combined, List.foldl_map]
    exact (foldl_value_eq Bool.or_assoc Bool.or_false (fun _ _ => rfl) children _).symm

lemma compiles_leaf (l : PlanLeaf) (n : Nat) (h : Canonical (runsOf l)) :
    Compiles runsOf n (n + 1) (leafDefinitions time l n) [n] [outline runsOf (.leaf l)] := by
  refine ⟨Nat.le_succ n, ?_, fun tables => .cons ⟨Nat.lt_succ_self n, runsOf l, ?_, ?_⟩ .nil⟩
  · unfold leafDefinitions
    split <;> simp [AllWithin, RelationName.Within]
  · unfold leafDefinitions
    split <;> simp [run, define, Relation.table]
  · exact outlines_of_canonical h

lemma compiles_compileList (next : Nat)
    (h : ∀ c ∈ children, ∀ next, Compiles runsOf next (compile time next c).next
      (compile time next c).definitions [(compile time next c).root] [outline runsOf c]) :
    Compiles runsOf next (compileList time next children).2.2 (compileList time next children).1
      (compileList time next children).2.1 (children.map (outline runsOf)) := by
  induction children generalizing next with
  | nil => exact ⟨le_rfl, by simp [compileList, AllWithin], fun _ => .nil⟩
  | cons child children ih =>
    rw [List.forall_mem_cons] at h
    exact (h.1 next).append (ih _ h.2)

/-- The root of a plan, carried out, outlines the plan as a formula. -/
lemma compiles_compile (h : ∀ l ∈ p.leaves, Canonical (runsOf l)) (time : TimeQuery) (next : Nat) :
    Compiles runsOf next (compile time next p).next (compile time next p).definitions
      [(compile time next p).root] [outline runsOf p] := by
  induction p using Plan.induction generalizing next with
  | leaf l => exact compiles_leaf l next (h l (by simp [Plan.leaves]))
  | all children ih =>
    have hc := compiles_compileList next fun c hc next =>
      ih c hc (fun l hl => h l (Plan.mem_leavesOf.2 ⟨c, hc, hl⟩)) next
    rw [outline_all]
    exact hc.combineAll combines_both
  | any children ih =>
    have hc := compiles_compileList next fun c hc next =>
      ih c hc (fun l hl => h l (Plan.mem_leavesOf.2 ⟨c, hc, hl⟩)) next
    rw [outline_any]
    exact hc.combineAll combines_either

/-- The intervals of a plan outline it as well. -/
lemma covers_doubled_intervals (h : ∀ l ∈ p.leaves, Canonical (runsOf l)) (e : String) (t : Instant) :
    covers (doubled (p.intervals runsOf)) e t = outline runsOf p e t := by
  have hdoubled : doubled (p.intervals runsOf) = p.intervals fun l => doubled (runsOf l) :=
    (Plan.intervals_rescale strictMono_double p).symm
  have hcanonical : ∀ l ∈ p.leaves, Canonical (doubled (runsOf l)) :=
    fun l hl => canonical_rescale (h l hl) strictMono_double
  rw [hdoubled, (Plan.represents_intervals hcanonical).covers_eq]
  rfl

end Compiling

/-- **The relations of a plan agree with its evaluation.**  If the leaves of a plan succeed with canonical
lists, whatever they do to the state, and the samples of each leaf come to the same list, then evaluation gives
the normal form of the rows that the root of the compiled plan holds, in whatever order and however often these
are listed. The numbering may begin anywhere, and the tables be any before. -/
theorem gives_normalize_rows {ε σ : Type}
    {intervalsOf : PlanLeaf → ExceptT ε (StateM σ) (List EntityInterval)}
    {f : PlanLeaf → List EntityInterval} (p : Plan)
    (hyields : ∀ l ∈ p.leaves, ∀ s, ∃ s', Gives (intervalsOf l) s (f l) s')
    (hcanonical : ∀ l ∈ p.leaves, Canonical (f l)) (time : TimeQuery) (next : Nat)
    (tables : RelationName → Table) (rows : List EntityInterval)
    (hrows : ∀ i, i ∈ rows ↔ i ∈
      (run f (compile time next p).definitions tables (.node (compile time next p).root)).rows) (s : σ) :
    ∃ s', Gives (p.evaluate intervalsOf) s (normalize rows) s' := by
  obtain ⟨s', hs'⟩ := Plan.yields_evaluate hyields s
  refine ⟨s', ?_⟩
  cases (compiles_compile hcanonical time next).outline tables with
  | cons hroot _ =>
    obtain ⟨-, rows', htable, houtlines⟩ := hroot
    have hmem : ∀ i, i ∈ rows ↔ i ∈ rows' := fun i => by rw [hrows, htable, Table.rows]
    have hnormal : normalize rows = p.intervals f := by
      refine normalize_eq_of_covers_doubled (fun i hi => houtlines.start_le_stop i ((hmem i).1 hi))
        (Plan.represents_intervals hcanonical).canonical fun e t => ?_
      rw [covers_doubled_intervals hcanonical, ← houtlines.covers_doubled, Bool.eq_iff_iff,
        covers_doubled_iff, covers_doubled_iff]
      simp only [hmem]
    rw [hnormal]
    exact hs'

/-- A leaf that asks whether an attribute is true. -/
def leafOf (attributeId : String) : PlanLeaf :=
  .comparison ⟨attributeId, none, .value, .equal, .boolean true⟩

/-- A disjunction under a conjunction under a disjunction. Of the rows of its root two overlap. -/
theorem gives_normalize_rows_nested :
    let f : PlanLeaf → List EntityInterval := fun l =>
      if l.attributeId = "a" then [⟨"e", ⟨0⟩, ⟨4⟩⟩, ⟨"e", ⟨6⟩, ⟨9⟩⟩]
      else if l.attributeId = "b" then [⟨"e", ⟨3⟩, ⟨7⟩⟩]
      else [⟨"e", ⟨1⟩, ⟨2⟩⟩, ⟨"e", ⟨5⟩, ⟨8⟩⟩, ⟨"f", ⟨1⟩, ⟨1⟩⟩]
    let intervalsOf : PlanLeaf → ExceptT String (StateM Nat) (List EntityInterval) :=
      fun l => do modify (· + 1); pure (f l)
    let p := Plan.any [.all [.any [.leaf (leafOf "a"), .leaf (leafOf "b")], .leaf (leafOf "c")], .any []]
    let rows : List EntityInterval :=
      [⟨"e", ⟨5⟩, ⟨8⟩⟩, ⟨"e", ⟨1⟩, ⟨2⟩⟩, ⟨"e", ⟨5⟩, ⟨7⟩⟩, ⟨"e", ⟨1⟩, ⟨2⟩⟩]
    let tables := run f (compile (.unbounded .observedAt) 0 p).definitions fun _ => .other
    (∀ l ∈ p.leaves, ∀ s, ∃ s', Gives (intervalsOf l) s (f l) s') ∧
      (∀ l ∈ p.leaves, Canonical (f l)) ∧
      (∀ i, i ∈ rows ↔ i ∈ (tables (.node (compile (.unbounded .observedAt) 0 p).root)).rows) ∧
      ∃ s', Gives (p.evaluate intervalsOf) 0 (normalize rows) s' := by
  intro f intervalsOf p rows tables
  have hyields : ∀ l ∈ p.leaves, ∀ s, ∃ s', Gives (intervalsOf l) s (f l) s' :=
    fun l _ s => ⟨s + 1, rfl⟩
  have hcanonical : ∀ l ∈ p.leaves, Canonical (f l) := by
    intro l _
    simp only [f]
    split_ifs <;> decide
  have hroot : (tables (.node (compile (.unbounded .observedAt) 0 p).root)).rows =
      [⟨"e", ⟨1⟩, ⟨2⟩⟩, ⟨"e", ⟨5⟩, ⟨7⟩⟩, ⟨"e", ⟨5⟩, ⟨8⟩⟩] := by decide
  have hrows : ∀ i, i ∈ rows ↔
      i ∈ (tables (.node (compile (.unbounded .observedAt) 0 p).root)).rows := by
    intro i
    rw [hroot]
    simp only [rows, List.mem_cons, List.not_mem_nil, or_false]
    grind
  exact ⟨hyields, hcanonical, hrows, gives_normalize_rows p hyields hcanonical (.unbounded .observedAt) 0
    (fun _ => .other) rows hrows 0⟩

end Sql

end EntityHistory
