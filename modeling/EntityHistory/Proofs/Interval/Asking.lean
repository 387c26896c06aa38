/-
Asking the leaves of a plan.

A plan asks its leaves from left to right. In a conjunction it stops asking once nothing is left of the intersection,
and a leaf that fails ends it altogether. So evaluating a plan is nothing but asking the leaves that are needed, one
after the other up to the first failure, and then giving what the plan would be if every leaf were taken into account:
an empty intersection stays empty.

* `Plan.FollowsEmpty`: the leaves that are not needed;
* `Plan.mem_needed_iff`: all others are;
* `Plan.evaluate_eq_ask`: evaluating is asking the leaves that are needed;
* `Plan.asks_until_failure`: which leaves are asked, and how the evaluation ends.
-/
import EntityHistory.Proofs.Interval.Plan

namespace EntityHistory

namespace Plan

open EntityInterval (intersect union)

variable {g : PlanLeaf → List EntityInterval} {p child : Plan} {children : List Plan} {is : List EntityInterval}
  {i j k : Nat} {path below : List Nat}

/-! ### Specification -/

/-- A leaf of a plan with the way to it: the number of a member, that of a member of this one, and so on. -/
structure Place where
  path : List Nat
  leaf : PlanLeaf

/-- A place in a member of a plan, as one of the plan. -/
def Place.within (i : Nat) (x : Place) : Place := ⟨i :: x.path, x.leaf⟩

mutual

/-- The leaves of a plan with the ways to them, from left to right. -/
def places : Plan → List Place
  | .leaf l => [⟨[], l⟩]
  | .all children => placesFrom 0 children
  | .any children => placesFrom 0 children

/-- The leaves of members that are numbered from a given number on. -/
def placesFrom (i : Nat) : List Plan → List Place
  | [] => []
  | child :: children => child.places.map (Place.within i) ++ placesFrom (i + 1) children

end

mutual

/-- The intervals of a plan that takes all of its leaves into account. -/
def combined (g : PlanLeaf → List EntityInterval) : Plan → List EntityInterval
  | .leaf l => g l
  | .all [] => []
  | .all (child :: children) => intersectAll g (combined g child) children
  | .any children => uniteAll g [] children

/-- The intersection of intervals with those of all of some plans. -/
def intersectAll (g : PlanLeaf → List EntityInterval) (is : List EntityInterval) : List Plan → List EntityInterval
  | [] => is
  | child :: children => intersectAll g (intersect is (combined g child)) children

/-- The union of intervals with those of all of some plans. -/
def uniteAll (g : PlanLeaf → List EntityInterval) (is : List EntityInterval) : List Plan → List EntityInterval
  | [] => is
  | child :: children => uniteAll g (union is (combined g child)) children

end

/-- A leaf stands in a member of a conjunction behind a point where the intersection of the members before is
empty. -/
inductive FollowsEmpty (g : PlanLeaf → List EntityInterval) : Plan → List Nat → Prop
  /-- The first `k` members have nothing in common, and the leaf is in a later one. -/
  | here {children : List Plan} {i k : Nat} {below : List Nat} (hpos : 0 < k) (hle : k ≤ i)
      (hempty : (all (children.take k)).combined g = []) : FollowsEmpty g (.all children) (i :: below)
  | inAll {children : List Plan} {child : Plan} {i : Nat} {below : List Nat} (hchild : children[i]? = some child)
      (h : FollowsEmpty g child below) : FollowsEmpty g (.all children) (i :: below)
  | inAny {children : List Plan} {child : Plan} {i : Nat} {below : List Nat} (hchild : children[i]? = some child)
      (h : FollowsEmpty g child below) : FollowsEmpty g (.any children) (i :: below)

/-- Asking a leaf, with a note of it. -/
def noting {ε : Type} (f : PlanLeaf → Except ε (List EntityInterval)) (l : PlanLeaf) :
    ExceptT ε (StateM (List PlanLeaf)) (List EntityInterval) :=
  ExceptT.mk fun asked => (f l, asked ++ [l])

/-- What it means that a plan asks these leaves, where `g` stands for the intervals of those that give any. -/
structure Asks {ε : Type} (f : PlanLeaf → Except ε (List EntityInterval)) (g : PlanLeaf → List EntityInterval)
    (p : Plan) (asked : List Place) : Prop where
  /-- These are the leaves that are noted, and the notes do not matter for how the plan ends. -/
  run_eq : (p.evaluate (noting f)).run.run [] = (p.evaluate f, asked.map Place.leaf)
  /-- They are asked from left to right, none of them twice. -/
  sublist : asked.Sublist p.places
  /-- A leaf is left out just when one before it has failed, or when it follows an empty intersection. -/
  not_mem_iff : ∀ x ∈ p.places, x ∉ asked ↔
    (∃ y ∈ asked, [y, x].Sublist p.places ∧ ∃ e, f y.leaf = .error e) ∨ FollowsEmpty g p x.path
  /-- The plan fails just when one of these leaves fails, and as the first of them does. -/
  eq_error_iff : ∀ e, p.evaluate f = .error e ↔ ∃ before y after,
    asked = before ++ y :: after ∧ (∀ x ∈ before, ∃ is, f x.leaf = .ok is) ∧ f y.leaf = .error e
  /-- If none of them fails, the plan has the intervals that it has when all leaves are taken into account. -/
  eq_ok : (∀ x ∈ asked, ∃ is, f x.leaf = .ok is) → p.evaluate f = .ok (p.combined g)

/-! ### All leaves -/

lemma intersectAll_append (is : List EntityInterval) (children others : List Plan) :
    intersectAll g is (children ++ others) = intersectAll g (intersectAll g is children) others := by
  induction children generalizing is with
  | nil => rfl
  | cons child children ih => exact ih _

lemma intersect_nil_left (is : List EntityInterval) : intersect [] is = [] := by
  rw [intersect, EntityInterval.sort, List.mergeSort_nil, EntityInterval.sweep]

/-- Nothing comes from an empty intersection. -/
lemma intersectAll_nil (children : List Plan) : intersectAll g [] children = [] := by
  induction children with
  | nil => rfl
  | cons child children ih => rw [intersectAll, intersect_nil_left, ih]

/-- An intersection that is empty for the first members is so for more of them. -/
lemma intersectAll_take_eq_nil (hle : k ≤ j) (h : intersectAll g is (children.take k) = []) :
    intersectAll g is (children.take j) = [] := by
  have hsplit : children.take j = children.take k ++ (children.take j).drop k := by
    conv_lhs => rw [← List.take_append_drop k (children.take j), List.take_take, min_eq_left hle]
  rw [hsplit, intersectAll_append, h, intersectAll_nil]

lemma combined_all_take_succ (child : Plan) (children : List Plan) (k : Nat) :
    (all ((child :: children).take (k + 1))).combined g = intersectAll g (child.combined g) (children.take k) := by
  rw [List.take_succ_cons, combined]

/-! ### Places -/

/-- What a function gives for members that are numbered from a given number on. -/
def numbered (h : Plan → List Place) (i : Nat) : List Plan → List Place
  | [] => []
  | child :: children => (h child).map (Place.within i) ++ numbered h (i + 1) children

lemma mem_numbered {h : Plan → List Place} {x : Place} : x ∈ numbered h i children ↔
    ∃ (j : Nat) (child : Plan) (y : Place), children[j]? = some child ∧ y ∈ h child ∧ x = y.within (i + j) := by
  induction children generalizing i with
  | nil => simp [numbered]
  | cons child children ih =>
    rw [numbered, List.mem_append, List.mem_map, ih]
    constructor
    · rintro (⟨y, hy, rfl⟩ | ⟨j, other, y, hother, hy, rfl⟩)
      · exact ⟨0, child, y, rfl, hy, rfl⟩
      · exact ⟨j + 1, other, y, hother, hy, by rw [Nat.add_right_comm, Nat.add_assoc]⟩
    · rintro ⟨j, other, y, hother, hy, rfl⟩
      cases j with
      | zero =>
        obtain rfl : child = other := Option.some.inj hother
        exact Or.inl ⟨y, hy, rfl⟩
      | succ j => exact Or.inr ⟨j, other, y, hother, hy, by rw [Nat.add_right_comm, Nat.add_assoc]⟩

lemma placesFrom_eq (i : Nat) (children : List Plan) : placesFrom i children = numbered places i children := by
  induction children generalizing i with
  | nil => rfl
  | cons child children ih => rw [placesFrom, numbered, ih]

lemma map_leaf_within (xs : List Place) (i : Nat) :
    (xs.map (Place.within i)).map Place.leaf = xs.map Place.leaf := by
  rw [List.map_map]
  rfl

/-- The leaves at the places of a plan are its leaves. -/
lemma map_leaf_places (p : Plan) : p.places.map Place.leaf = p.leaves := by
  have hfrom : ∀ children : List Plan, (∀ c ∈ children, c.places.map Place.leaf = c.leaves) →
      ∀ i, (placesFrom i children).map Place.leaf = leavesOf children := by
    intro children
    induction children with
    | nil => exact fun _ _ => rfl
    | cons child children ih =>
      intro h i
      rw [List.forall_mem_cons] at h
      rw [placesFrom, List.map_append, map_leaf_within, h.1, ih h.2, leavesOf]
  induction p using Plan.induction with
  | leaf l => rfl
  | all children ih => exact hfrom children ih 0
  | any children ih => exact hfrom children ih 0

/-- The ways to the leaves ascend from left to right. -/
lemma pairwise_places (p : Plan) : p.places.Pairwise fun x y => x.path < y.path := by
  have hfrom : ∀ children : List Plan, (∀ c ∈ children, c.places.Pairwise fun x y => x.path < y.path) →
      ∀ i, (placesFrom i children).Pairwise fun x y => x.path < y.path := by
    intro children
    induction children with
    | nil => exact fun _ _ => List.Pairwise.nil
    | cons child children ih =>
      intro h i
      rw [List.forall_mem_cons] at h
      rw [placesFrom, List.pairwise_append]
      refine ⟨List.pairwise_map.2 (h.1.imp fun hlt => ?_), ih h.2 (i + 1), ?_⟩
      · exact List.cons_lt_cons_self.2 hlt
      · intro x hx y hy
        obtain ⟨x, -, rfl⟩ := List.mem_map.1 hx
        obtain ⟨j, other, y, -, -, rfl⟩ := mem_numbered.1 (placesFrom_eq .. ▸ hy)
        exact List.cons_lt_cons_iff.2 (Or.inl (by omega))
  induction p using Plan.induction with
  | leaf l => exact List.pairwise_singleton _ _
  | all children ih => exact hfrom children ih 0
  | any children ih => exact hfrom children ih 0

lemma nodup_places (p : Plan) : p.places.Nodup :=
  p.pairwise_places.imp fun hlt heq => absurd (heq ▸ hlt) (List.lt_irrefl _)

/-- Of two leaves only one comes before the other. -/
lemma not_sublist_swap {x y : Place} (h : [x, y].Sublist p.places) : ¬ [y, x].Sublist p.places := fun h' => by
  have hlt := p.pairwise_places.sublist h
  have hgt := p.pairwise_places.sublist h'
  rw [List.pairwise_pair] at hlt hgt
  exact List.lt_asymm hlt hgt

/-! ### Leaves that are needed -/

mutual

/-- The leaves of a plan that do not follow an empty intersection. -/
def needed (g : PlanLeaf → List EntityInterval) : Plan → List Place
  | .leaf l => [⟨[], l⟩]
  | .all [] => []
  | .all (child :: children) =>
    (needed g child).map (Place.within 0) ++ neededAfter g (child.combined g) 1 children
  | .any children => neededFrom g 0 children

/-- The leaves that are needed of further members of a conjunction, after an intersection. -/
def neededAfter (g : PlanLeaf → List EntityInterval) (is : List EntityInterval) (i : Nat) : List Plan → List Place
  | [] => []
  | child :: children =>
    if is = [] then []
    else (needed g child).map (Place.within i) ++ neededAfter g (intersect is (child.combined g)) (i + 1) children

/-- The leaves that are needed of members of a disjunction. -/
def neededFrom (g : PlanLeaf → List EntityInterval) (i : Nat) : List Plan → List Place
  | [] => []
  | child :: children => (needed g child).map (Place.within i) ++ neededFrom g (i + 1) children

end

lemma neededAfter_sublist (h : ∀ c ∈ children, (c.needed g).Sublist c.places) :
    (neededAfter g is i children).Sublist (placesFrom i children) := by
  induction children generalizing is i with
  | nil => exact List.Sublist.refl []
  | cons child children ih =>
    rw [List.forall_mem_cons] at h
    rw [neededAfter, placesFrom]
    split
    · exact List.nil_sublist _
    · exact (h.1.map _).append (ih h.2)

lemma neededFrom_eq (g : PlanLeaf → List EntityInterval) (i : Nat) (children : List Plan) :
    neededFrom g i children = numbered (needed g) i children := by
  induction children generalizing i with
  | nil => rfl
  | cons child children ih => rw [neededFrom, numbered, ih]

lemma numbered_sublist {h h' : Plan → List Place} (hsub : ∀ c ∈ children, (h c).Sublist (h' c)) :
    (numbered h i children).Sublist (numbered h' i children) := by
  induction children generalizing i with
  | nil => exact List.Sublist.refl []
  | cons child children ih =>
    rw [List.forall_mem_cons] at hsub
    exact (hsub.1.map _).append (ih hsub.2)

lemma needed_sublist (g : PlanLeaf → List EntityInterval) (p : Plan) : (p.needed g).Sublist p.places := by
  induction p using Plan.induction with
  | leaf l => exact List.Sublist.refl _
  | all children ih =>
    cases children with
    | nil => exact List.Sublist.refl []
    | cons child children =>
      rw [List.forall_mem_cons] at ih
      exact (ih.1.map _).append (neededAfter_sublist ih.2)
  | any children ih =>
    rw [needed, places, neededFrom_eq, placesFrom_eq]
    exact numbered_sublist ih

/-- The leaves that are needed of further members stand where the intersection with those before is not empty. -/
lemma mem_neededAfter {x : Place} : x ∈ neededAfter g is i children ↔
    ∃ (j : Nat) (child : Plan) (y : Place), children[j]? = some child ∧ y ∈ child.needed g ∧
      intersectAll g is (children.take j) ≠ [] ∧ x = y.within (i + j) := by
  induction children generalizing is i with
  | nil => simp [neededAfter]
  | cons child children ih =>
    rw [neededAfter]
    by_cases hempty : is = []
    · -- nothing is needed any more, and the intersection stays empty
      rw [if_pos hempty, hempty]
      simp [intersectAll_nil]
    · rw [if_neg hempty, List.mem_append, List.mem_map, ih]
      constructor
      · rintro (⟨y, hy, rfl⟩ | ⟨j, other, y, hother, hy, hne, rfl⟩)
        · exact ⟨0, child, y, rfl, hy, hempty, rfl⟩
        · exact ⟨j + 1, other, y, hother, hy, hne, by rw [Nat.add_right_comm, Nat.add_assoc]⟩
      · rintro ⟨j, other, y, hother, hy, hne, rfl⟩
        cases j with
        | zero =>
          obtain rfl : child = other := Option.some.inj hother
          exact Or.inl ⟨y, hy, rfl⟩
        | succ j => exact Or.inr ⟨j, other, y, hother, hy, hne, by rw [Nat.add_right_comm, Nat.add_assoc]⟩

/-- A disjunction stops nowhere. -/
lemma followsEmpty_any_iff : FollowsEmpty g (.any children) (i :: below) ↔
    False ∨ ∃ child, children[i]? = some child ∧ FollowsEmpty g child below := by
  rw [false_or]
  constructor
  · rintro (_ | _ | ⟨hchild, h⟩)
    exact ⟨_, hchild, h⟩
  · rintro ⟨child, hchild, h⟩
    exact .inAny hchild h

/-- A conjunction stops at a member if those before it have nothing in common. -/
lemma followsEmpty_all_iff : FollowsEmpty g (.all children) (i :: below) ↔
    (0 < i ∧ (all (children.take i)).combined g = []) ∨
      ∃ child, children[i]? = some child ∧ FollowsEmpty g child below := by
  constructor
  · rintro (⟨hpos, hle, hempty⟩ | ⟨hchild, h⟩ | _)
    · refine Or.inl ⟨hpos.trans_le hle, ?_⟩
      obtain ⟨k, rfl⟩ := Nat.exists_eq_add_one_of_ne_zero hpos.ne'
      obtain ⟨i, rfl⟩ := Nat.exists_eq_add_one_of_ne_zero (hpos.trans_le hle).ne'
      cases children with
      | nil => rfl
      | cons child children =>
        rw [combined_all_take_succ] at hempty ⊢
        exact intersectAll_take_eq_nil (Nat.le_of_succ_le_succ hle) hempty
    · exact Or.inr ⟨_, hchild, h⟩
  · rintro (⟨hpos, hempty⟩ | ⟨child, hchild, h⟩)
    · exact .here hpos le_rfl hempty
    · exact .inAll hchild h

lemma mem_needed_any {x : Place} : x ∈ (any children).needed g ↔ ∃ (j : Nat) (child : Plan) (y : Place),
    children[j]? = some child ∧ y ∈ child.needed g ∧ ¬ False ∧ x = y.within j := by
  rw [needed, neededFrom_eq, mem_numbered]
  simp only [Nat.zero_add, not_false_eq_true, true_and]

lemma mem_needed_all {x : Place} : x ∈ (all children).needed g ↔ ∃ (j : Nat) (child : Plan) (y : Place),
    children[j]? = some child ∧ y ∈ child.needed g ∧
      ¬ (0 < j ∧ (all (children.take j)).combined g = []) ∧ x = y.within j := by
  cases children with
  | nil => simp [needed]
  | cons child children =>
    rw [needed, List.mem_append, List.mem_map, mem_neededAfter]
    constructor
    · rintro (⟨y, hy, rfl⟩ | ⟨j, other, y, hother, hy, hne, rfl⟩)
      · exact ⟨0, child, y, rfl, hy, by simp, rfl⟩
      · refine ⟨j + 1, other, y, hother, hy, fun h => hne ?_, by rw [Nat.add_comm]⟩
        rw [← combined_all_take_succ, h.2]
    · rintro ⟨j, other, y, hother, hy, hne, rfl⟩
      cases j with
      | zero =>
        obtain rfl : child = other := Option.some.inj hother
        exact Or.inl ⟨y, hy, rfl⟩
      | succ j =>
        refine Or.inr ⟨j, other, y, hother, hy, fun h => hne ⟨Nat.succ_pos j, ?_⟩, by rw [Nat.add_comm]⟩
        rw [combined_all_take_succ, h]

/-- The leaves that are needed of a conjunction or disjunction are as they should be when those of its members are, and
it is right at which members it stops. -/
lemma mem_needed_of_members {stops : Nat → Prop} {x : Place} (hplaces : p.places = numbered places 0 children)
    (hneeded : x ∈ p.needed g ↔ ∃ (j : Nat) (child : Plan) (y : Place),
      children[j]? = some child ∧ y ∈ child.needed g ∧ ¬ stops j ∧ x = y.within j)
    (hfollows : ∀ i below, FollowsEmpty g p (i :: below) ↔
      stops i ∨ ∃ child, children[i]? = some child ∧ FollowsEmpty g child below)
    (h : ∀ c ∈ children, ∀ y : Place, y ∈ c.needed g ↔ y ∈ c.places ∧ ¬ FollowsEmpty g c y.path) :
    x ∈ p.needed g ↔ x ∈ p.places ∧ ¬ FollowsEmpty g p x.path := by
  rw [hneeded, hplaces, mem_numbered]
  constructor
  · rintro ⟨j, child, y, hchild, hy, hgoes, rfl⟩
    obtain ⟨hplace, hnot⟩ := (h child (List.mem_of_getElem? hchild) y).1 hy
    refine ⟨⟨j, child, y, hchild, hplace, by rw [Nat.zero_add]⟩, fun hempty => ?_⟩
    rcases (hfollows j y.path).1 hempty with hstops | ⟨other, hother, hempty⟩
    · exact hgoes hstops
    · obtain rfl := Option.some.inj (hchild.symm.trans hother)
      exact hnot hempty
  · rintro ⟨⟨j, child, y, hchild, hplace, rfl⟩, hnot⟩
    rw [Nat.zero_add] at *
    have hnever : ¬ FollowsEmpty g child y.path := fun hempty =>
      hnot ((hfollows j y.path).2 (Or.inr ⟨child, hchild, hempty⟩))
    exact ⟨j, child, y, hchild, (h child (List.mem_of_getElem? hchild) y).2 ⟨hplace, hnever⟩,
      fun hstops => hnot ((hfollows j y.path).2 (Or.inl hstops)), rfl⟩

/-- The leaves that are needed are those that do not follow an empty intersection. -/
theorem mem_needed_iff {x : Place} : x ∈ p.needed g ↔ x ∈ p.places ∧ ¬ FollowsEmpty g p x.path := by
  induction p using Plan.induction generalizing x with
  | leaf l =>
    have hnot : ¬ FollowsEmpty g (.leaf l) x.path := fun h => nomatch h
    rw [needed, places, and_iff_left hnot]
  | all children ih =>
    exact mem_needed_of_members (placesFrom_eq 0 children) mem_needed_all (fun _ _ => followsEmpty_all_iff)
      fun c hc _ => ih c hc
  | any children ih =>
    exact mem_needed_of_members (placesFrom_eq 0 children) mem_needed_any (fun _ _ => followsEmpty_any_iff)
      fun c hc _ => ih c hc

/-! ### Asking -/

section Monads

variable {m : Type → Type} [Monad m] {intervalsOf : PlanLeaf → m (List EntityInterval)}

/-- Asking leaves one after the other. -/
def ask (intervalsOf : PlanLeaf → m (List EntityInterval)) : List Place → m Unit
  | [] => pure ()
  | x :: xs => do
    let _ ← intervalsOf x.leaf
    ask intervalsOf xs

variable [LawfulMonad m]

lemma ask_append (xs ys : List Place) :
    ask intervalsOf (xs ++ ys) = (do ask intervalsOf xs; ask intervalsOf ys) := by
  induction xs with
  | nil => simp [ask]
  | cons x xs ih => simp [ask, ih]

omit [LawfulMonad m] in
lemma ask_within (xs : List Place) (i : Nat) : ask intervalsOf (xs.map (Place.within i)) = ask intervalsOf xs := by
  induction xs with
  | nil => rfl
  | cons x xs ih => rw [List.map_cons, ask, ask, ih, Place.within]

lemma intersectWith_eq_ask
    (h : ∀ c ∈ children, c.evaluate intervalsOf = (do ask intervalsOf (c.needed g); pure (c.combined g)))
    (is : List EntityInterval) (i : Nat) : intersectWith intervalsOf is children = (do
      ask intervalsOf (neededAfter g is i children)
      pure (intersectAll g is children)) := by
  induction children generalizing is i with
  | nil => simp [intersectWith, neededAfter, ask, intersectAll]
  | cons child children ih =>
    rw [List.forall_mem_cons] at h
    by_cases hempty : is = []
    · simp [intersectWith, neededAfter, ask, hempty, intersectAll_nil]
    · rw [intersectWith, neededAfter, if_neg hempty, if_neg hempty, h.1, ask_append, ask_within, intersectAll]
      simp [ih h.2 _ (i + 1)]

lemma uniteWith_eq_ask
    (h : ∀ c ∈ children, c.evaluate intervalsOf = (do ask intervalsOf (c.needed g); pure (c.combined g)))
    (is : List EntityInterval) (i : Nat) : uniteWith intervalsOf is children = (do
      ask intervalsOf (neededFrom g i children)
      pure (uniteAll g is children)) := by
  induction children generalizing is i with
  | nil => simp [uniteWith, neededFrom, ask, uniteAll]
  | cons child children ih =>
    rw [List.forall_mem_cons] at h
    rw [uniteWith, neededFrom, h.1, ask_append, ask_within, uniteAll]
    simp [ih h.2 _ (i + 1)]

/-- If a leaf gives the same intervals whenever it gives any, evaluating a plan is asking the leaves that are needed
and then giving what all leaves together make. -/
theorem evaluate_eq_ask (h : ∀ l, intervalsOf l = (do let _ ← intervalsOf l; pure (g l))) (p : Plan) :
    p.evaluate intervalsOf = (do ask intervalsOf (p.needed g); pure (p.combined g)) := by
  induction p using Plan.induction with
  | leaf l =>
    rw [evaluate, h l]
    simp [needed, ask, combined]
  | all children ih =>
    cases children with
    | nil => simp [evaluate, needed, ask, combined]
    | cons child children =>
      rw [List.forall_mem_cons] at ih
      rw [evaluate, ih.1, needed, ask_append, ask_within, combined]
      simp [intersectWith_eq_ask ih.2 _ 1]
  | any children ih => exact uniteWith_eq_ask ih [] 0

end Monads

section Failures

variable {ε : Type} {e : ε} {f : PlanLeaf → Except ε (List EntityInterval)} {xs before after : List Place} {x : Place}
  {asked : List PlanLeaf}

/-- Either all of some leaves succeed, or there is a first one that fails. -/
lemma forall_ok_or_exists_first (f : PlanLeaf → Except ε (List EntityInterval)) (xs : List Place) :
    (∀ x ∈ xs, ∃ is, f x.leaf = .ok is) ∨ ∃ before x after e,
      xs = before ++ x :: after ∧ (∀ y ∈ before, ∃ is, f y.leaf = .ok is) ∧ f x.leaf = .error e := by
  induction xs with
  | nil => exact Or.inl (by simp)
  | cons x xs ih =>
    cases hx : f x.leaf with
    | error e => exact Or.inr ⟨[], x, xs, e, rfl, by simp, hx⟩
    | ok is =>
      rcases ih with hall | ⟨before, y, after, e, rfl, hbefore, hy⟩
      · exact Or.inl (List.forall_mem_cons.2 ⟨⟨is, hx⟩, hall⟩)
      · exact Or.inr ⟨x :: before, y, after, e, rfl, List.forall_mem_cons.2 ⟨⟨is, hx⟩, hbefore⟩, hy⟩

lemma run_noting (f : PlanLeaf → Except ε (List EntityInterval)) (l : PlanLeaf) (asked : List PlanLeaf) :
    (noting f l).run.run asked = (f l, asked ++ [l]) := rfl

/-- Leaves that succeed are all asked. -/
lemma run_ask_append (h : ∀ x ∈ before, ∃ is, f x.leaf = .ok is) (asked : List PlanLeaf) (xs : List Place) :
    (ask (noting f) (before ++ xs)).run.run asked =
      (ask (noting f) xs).run.run (asked ++ before.map Place.leaf) := by
  induction before generalizing asked with
  | nil => simp
  | cons x before ih =>
    obtain ⟨⟨is, hx⟩, hbefore⟩ := List.forall_mem_cons.1 h
    rw [List.cons_append, ask, run_bind, run_noting, hx]
    simp [ih hbefore]

/-- A leaf that fails is the last that is asked. -/
lemma run_ask_cons (h : f x.leaf = .error e) (asked : List PlanLeaf) (xs : List Place) :
    (ask (noting f) (x :: xs)).run.run asked = (.error e, asked ++ [x.leaf]) := by
  rw [ask, run_bind, run_noting, h]

/-- The notes do not matter for how asking ends. -/
lemma fst_run_ask (asked : List PlanLeaf) (xs : List Place) :
    ((ask (noting f) xs).run.run asked).1 = ask f xs := by
  induction xs generalizing asked with
  | nil => rfl
  | cons x xs ih =>
    rw [ask, ask, run_bind, run_noting]
    cases f x.leaf with
    | error e => rfl
    | ok is => exact ih _

section Stable

variable (hg : ∀ l is, f l = .ok is → g l = is)

include hg

lemma eq_bind_pure (l : PlanLeaf) : f l = (do let _ ← f l; pure (g l)) := by
  cases hl : f l with
  | error e => rfl
  | ok is => rw [hg l is hl]; rfl

lemma noting_eq_bind_pure (l : PlanLeaf) : noting f l = (do let _ ← noting f l; pure (g l)) := by
  refine ExceptT.ext (StateT.ext fun asked => ?_)
  rw [run_bind, run_noting]
  cases hl : f l with
  | error e => rfl
  | ok is => rw [hg l is hl]; rfl

/-- How a plan ends whose leaves are noted, and which are: as asking those that are needed does. -/
lemma run_evaluate_noting (p : Plan) : (p.evaluate (noting f)).run.run [] =
    (p.evaluate f, ((ask (noting f) (p.needed g)).run.run []).2) := by
  rw [evaluate_eq_ask (noting_eq_bind_pure hg), evaluate_eq_ask (eq_bind_pure hg), run_bind,
    ← fst_run_ask [] (p.needed g)]
  rcases (ask (noting f) (p.needed g)).run.run [] with ⟨_ | _, _⟩ <;> rfl

end Stable

/-- Of leaves that succeed but for the last, it is the last that fails. -/
lemma eq_of_fails {y : Place} (hbefore : ∀ y ∈ before, ∃ is, f y.leaf = .ok is) (hy : y ∈ before ++ [x])
    (hfails : f y.leaf = .error e) : y = x := by
  rcases List.mem_append.1 hy with hy | hy
  · obtain ⟨is, hok⟩ := hbefore y hy
    cases hfails.symm.trans hok
  · exact List.mem_singleton.1 hy

/-- Where all leaves that are needed succeed, these are asked. -/
lemma asks_needed (hg : ∀ l is, f l = .ok is → g l = is) (hok : ∀ x ∈ p.needed g, ∃ is, f x.leaf = .ok is) :
    Asks f g p (p.needed g) := by
  have hasked := run_ask_append hok [] []
  rw [List.append_nil, List.nil_append] at hasked
  have hend : ask f (p.needed g) = .ok () := by
    rw [← fst_run_ask [], hasked]
    rfl
  have hvalue : p.evaluate f = .ok (p.combined g) := by
    rw [evaluate_eq_ask (eq_bind_pure hg), hend]
    rfl
  have hnever {y : Place} (hy : y ∈ p.needed g) {e : ε} : f y.leaf ≠ .error e := by
    obtain ⟨is, his⟩ := hok y hy
    rw [his]
    exact fun h => nomatch h
  refine ⟨?_, needed_sublist g p, fun x hx => ?_, fun e => ?_, fun _ => hvalue⟩
  · rw [run_evaluate_noting hg, hasked]
    rfl
  · rw [mem_needed_iff, not_and, not_not]
    refine ⟨fun h => Or.inr (h hx), ?_⟩
    rintro (⟨y, hy, -, e, hfails⟩ | h)
    · exact absurd hfails (hnever hy)
    · exact fun _ => h
  · rw [hvalue]
    constructor
    · intro h
      cases h
    · rintro ⟨before, y, after, heq, -, hfails⟩
      have hy : y ∈ p.needed g := heq ▸ List.mem_append_right before List.mem_cons_self
      exact absurd hfails (hnever hy)

/-- Up to the first of the needed leaves that fails, left out are those behind it and those that are not needed. -/
lemma not_mem_until_first_iff (hneeded : p.needed g = before ++ x :: after)
    (hbefore : ∀ y ∈ before, ∃ is, f y.leaf = .ok is) (hx : f x.leaf = .error e) {z : Place} (hz : z ∈ p.places) :
    z ∉ before ++ [x] ↔ (∃ y ∈ before ++ [x], [y, z].Sublist p.places ∧ ∃ e, f y.leaf = .error e) ∨
      FollowsEmpty g p z.path := by
  have hsub := needed_sublist g p
  rw [hneeded] at hsub
  have hinitial : (before ++ [x]).Sublist (before ++ x :: after) :=
    ((List.nil_sublist after).cons_cons x).append_left before
  have hmem : z ∈ before ++ x :: after ↔ ¬ FollowsEmpty g p z.path := by
    rw [← hneeded, mem_needed_iff, and_iff_right hz]
  constructor
  · intro hnot
    by_cases hfollows : FollowsEmpty g p z.path
    · exact Or.inr hfollows
    · -- it is needed, and so it comes after the leaf that fails
      have hafter : z ∈ after := by
        have hin := hmem.2 hfollows
        simp only [List.mem_append, List.mem_cons, List.not_mem_nil, or_false, not_or] at hin hnot
        exact (hin.resolve_left hnot.1).resolve_left hnot.2
      refine Or.inl ⟨x, by simp, ?_, e, hx⟩
      have hpair : [x, z].Sublist (x :: after) := (List.singleton_sublist.2 hafter).cons_cons x
      exact (hpair.trans (List.sublist_append_right before _)).trans hsub
  · rintro (⟨y, hy, hpair, e', hfails⟩ | hfollows) hin
    · obtain rfl := eq_of_fails hbefore hy hfails
      rcases List.mem_append.1 hin with hin | hin
      · have hswap : [z, y].Sublist (before ++ [y]) := (List.singleton_sublist.2 hin).append (List.Sublist.refl [y])
        exact not_sublist_swap hpair (hswap.trans (hinitial.trans hsub))
      · obtain rfl := List.mem_singleton.1 hin
        exact not_sublist_swap hpair hpair
    · exact hmem.1 (hinitial.subset hin) hfollows

/-- Where a leaf that is needed fails, those up to the first of this kind are asked. -/
lemma asks_until_first (hg : ∀ l is, f l = .ok is → g l = is) (hneeded : p.needed g = before ++ x :: after)
    (hbefore : ∀ y ∈ before, ∃ is, f y.leaf = .ok is) (hx : f x.leaf = .error e) : Asks f g p (before ++ [x]) := by
  have hasked : (ask (noting f) (p.needed g)).run.run [] = (.error e, (before ++ [x]).map Place.leaf) := by
    rw [hneeded, run_ask_append hbefore, run_ask_cons hx, List.nil_append, List.map_append]
    rfl
  have hvalue : p.evaluate f = .error e := by
    rw [evaluate_eq_ask (eq_bind_pure hg), ← fst_run_ask [], hasked]
    rfl
  have hinitial : (before ++ [x]).Sublist (p.needed g) := by
    rw [hneeded]
    exact ((List.nil_sublist after).cons_cons x).append_left before
  refine ⟨?_, hinitial.trans (needed_sublist g p), fun z hz => not_mem_until_first_iff hneeded hbefore hx hz,
    fun e' => ?_, fun hok => ?_⟩
  · rw [run_evaluate_noting hg, hasked]
  · rw [hvalue]
    constructor
    · intro h
      cases h
      exact ⟨before, x, [], rfl, hbefore, hx⟩
    · rintro ⟨before', y, after', heq, -, hfails⟩
      have hy : y ∈ before ++ [x] := heq ▸ List.mem_append_right before' List.mem_cons_self
      obtain rfl := eq_of_fails hbefore hy hfails
      exact congrArg Except.error (Except.error.inj (hx.symm.trans hfails))
  · obtain ⟨is, hok⟩ := hok x (by simp)
    cases hx.symm.trans hok

/-- **A plan asks its leaves until one fails.**  Whatever the leaves give, and whatever is put for those that fail: a
plan asks its leaves from left to right, each at most once; it leaves out those behind the first that has failed, and
those of later members of a conjunction when there is nothing left to intersect, and no others. It fails just when a
leaf that is asked fails, as the first of them does, and otherwise it has the intervals that it would have without
leaving any out. -/
theorem asks_until_failure (hg : ∀ l is, f l = .ok is → g l = is) (p : Plan) :
    p.places.map Place.leaf = p.leaves ∧ p.places.Nodup ∧ ∃ asked, Asks f g p asked := by
  refine ⟨map_leaf_places p, nodup_places p, ?_⟩
  rcases forall_ok_or_exists_first f (p.needed g) with hok | ⟨before, x, after, e, hneeded, hbefore, hx⟩
  · exact ⟨_, asks_needed hg hok⟩
  · exact ⟨_, asks_until_first hg hneeded hbefore hx⟩

/-- A leaf that fails is first passed over, behind a leaf without intervals, and then asked; the last leaf is the first
one once more and is not asked again. -/
theorem asks_until_failure_passedOver :
    let f : PlanLeaf → Except String (List EntityInterval) := fun l =>
      if l.attributeId = "broken" then .error "unavailable"
      else if l.attributeId = "never" then .ok [] else .ok [⟨"e", ⟨0⟩, ⟨4⟩⟩]
    let g : PlanLeaf → List EntityInterval := fun l => if l.attributeId = "never" then [] else [⟨"e", ⟨0⟩, ⟨4⟩⟩]
    let p := Plan.any [.leaf (leafOf "always"), .all [.leaf (leafOf "never"), .leaf (leafOf "broken")],
      .leaf (leafOf "broken"), .leaf (leafOf "always")]
    (∀ l is, f l = .ok is → g l = is) ∧
      p.places.map Place.leaf = p.leaves ∧ p.places.Nodup ∧ ∃ asked, Asks f g p asked := by
  intro f g p
  have hg : ∀ l is, f l = .ok is → g l = is := by
    intro l is h
    simp only [f, g] at h ⊢
    split at h
    case isTrue => cases h
    case isFalse =>
      split at h
      case isTrue hnever => rw [if_pos hnever, ← Except.ok.inj h]
      case isFalse hnot => rw [if_neg hnot, ← Except.ok.inj h]
  exact ⟨hg, asks_until_failure hg p⟩

end Failures

end Plan

end EntityHistory
