/-
Running computations on a state.

A computation on a state may end in a failure, and the state is kept in either case. Here is what it means
that it succeeds: run from one state, it gives a value and leaves another state. Successes compose along the
computations, and folding over a list keeps what every step keeps. A computation without a state succeeds only
where its steps do. A computation may also end in one way whatever the state is, as long as an invariant holds
of it; then it is as good as one without a state. It may just keep an invariant, however it ends. And two
computations on different states may mirror each other: run from related states, they end alike.
-/
import Mathlib.Tactic.Lemma
import EntityHistory.Context.Gather

namespace EntityHistory

variable {ε σ α β : Type} {x : ExceptT ε (StateM σ) α} {s s' s'' : σ} {a : α} {b : β}

/-- Run from a state, a computation succeeds with a value and leaves a state. -/
def Gives (x : ExceptT ε (StateM σ) α) (s : σ) (a : α) (s' : σ) : Prop := x.run.run s = (.ok a, s')

/-- A failure ends a computation at once. -/
lemma run_bind (x : ExceptT ε (StateM σ) α) (f : α → ExceptT ε (StateM σ) β) (s : σ) :
    (x >>= f).run.run s = (match x.run.run s with
      | (.ok a, s) => (f a).run.run s
      | (.error e, s) => (.error e, s)) := by
  simp only [ExceptT.run_bind, StateT.run_bind]
  rcases x.run.run s with ⟨_ | _, _⟩ <;> rfl

lemma run_map (f : α → β) (x : ExceptT ε (StateM σ) α) (s : σ) :
    ((f <$> x).run.run s).1 = f <$> (x.run.run s).1 := by
  rw [map_eq_pure_bind, run_bind]
  rcases x.run.run s with ⟨_ | _, _⟩ <;> rfl

/-- Where the whole succeeds, the first step has. -/
lemma exists_of_run_bind {f : α → ExceptT ε (StateM σ) β} (h : ((x >>= f).run.run s).1 = .ok b) :
    ∃ a s', x.run.run s = (.ok a, s') ∧ ((f a).run.run s').1 = .ok b := by
  rw [run_bind] at h
  rcases hx : x.run.run s with ⟨_ | a, s'⟩
  · rw [hx] at h
    cases h
  · rw [hx] at h
    exact ⟨a, s', rfl, h⟩

lemma gives_pure (a : α) (s : σ) : Gives (pure a : ExceptT ε (StateM σ) α) s a s := rfl

lemma Gives.bind {f : α → ExceptT ε (StateM σ) β} (hx : Gives x s a s') (hf : Gives (f a) s' b s'') :
    Gives (x >>= f) s b s'' := by
  rw [Gives, run_bind, hx]
  exact hf

/-! ### Computations without a state -/

/-- A step has succeeded where the whole has. -/
lemma exists_of_bind_eq_ok {x : Except ε α} {f : α → Except ε β} (h : x >>= f = .ok b) :
    ∃ a, x = .ok a ∧ f a = .ok b := by
  cases x with
  | error e => cases h
  | ok a => exact ⟨a, rfl, h⟩

lemma exists_of_map_eq_ok {x : Except ε α} {f : α → β} (h : f <$> x = .ok b) : ∃ a, x = .ok a ∧ f a = b := by
  cases x with
  | error e => cases h
  | ok a => exact ⟨a, rfl, Except.ok.inj h⟩

lemma eq_error_of_map_eq_error {x : Except ε α} {f : α → β} {e : ε} (h : f <$> x = .error e) : x = .error e := by
  cases x with
  | error e' => exact congrArg Except.error (Except.error.inj h)
  | ok a => cases h

lemma eq_error_of_bind_eq_error {x : Except ε α} {f : α → Except ε β} {e : ε} (h : x >>= f = .error e) :
    x = .error e ∨ ∃ a, x = .ok a ∧ f a = .error e := by
  cases x with
  | error e' => exact Or.inl (congrArg Except.error (Except.error.inj h))
  | ok a => exact Or.inr ⟨a, rfl, h⟩

/-- Folding over a list keeps what each step keeps that succeeds. -/
lemma holds_of_foldlM_eq_ok {f : α → β → Except ε α} {P : α → Prop} {l : List β} {a a' : α}
    (hstep : ∀ b ∈ l, ∀ a a', P a → f a b = .ok a' → P a') (ha : P a) (h : l.foldlM f a = .ok a') : P a' := by
  induction l generalizing a with
  | nil =>
    obtain rfl : a = a' := Except.ok.inj h
    exact ha
  | cons b l ih =>
    rw [List.foldlM_cons] at h
    obtain ⟨a'', hfirst, hrest⟩ := exists_of_bind_eq_ok h
    exact ih (fun b hb => hstep b (List.mem_cons_of_mem _ hb)) (hstep b List.mem_cons_self a a'' ha hfirst) hrest

/-- Folding over a list fails at one of its steps, and those before it have succeeded. -/
lemma exists_of_foldlM_eq_error {f : α → β → Except ε α} {l : List β} {a : α} {e : ε}
    (h : l.foldlM f a = .error e) :
    ∃ before b after a', l = before ++ b :: after ∧ before.foldlM f a = .ok a' ∧ f a' b = .error e := by
  induction l generalizing a with
  | nil => cases h
  | cons b l ih =>
    rw [List.foldlM_cons] at h
    rcases eq_error_of_bind_eq_error h with h | ⟨a', hfirst, h⟩
    · exact ⟨[], b, l, a, rfl, rfl, h⟩
    · obtain ⟨before, b', after, a'', rfl, hbefore, hfails⟩ := ih h
      refine ⟨b :: before, b', after, a'', rfl, ?_, hfails⟩
      rw [List.foldlM_cons, hfirst]
      exact hbefore

/-! ### Computations that do not depend on the state -/

/-- Run from any state of which an invariant holds, a computation ends in the given way and leaves a state of
which the invariant holds. -/
def Ends (inv : σ → Prop) (x : ExceptT ε (StateM σ) α) (r : Except ε α) : Prop :=
  ∀ s, inv s → (x.run.run s).1 = r ∧ inv (x.run.run s).2

section Ending

variable {inv : σ → Prop} {r : Except ε α}

lemma ends_pure (a : α) : Ends inv (pure a : ExceptT ε (StateM σ) α) (pure a) := fun _ hs => ⟨rfl, hs⟩

lemma ends_throw (e : ε) : Ends inv (throw e : ExceptT ε (StateM σ) α) (throw e) := fun _ hs => ⟨rfl, hs⟩

lemma Ends.bind {f : α → ExceptT ε (StateM σ) β} {g : α → Except ε β} (hx : Ends inv x r)
    (hf : ∀ a, Ends inv (f a) (g a)) : Ends inv (x >>= f) (r >>= g) := by
  intro s hs
  obtain ⟨hr, hs'⟩ := hx s hs
  rw [run_bind]
  generalize x.run.run s = result at hr hs'
  obtain ⟨_ | a, s'⟩ := result
  · subst hr
    exact ⟨rfl, hs'⟩
  · subst hr
    exact hf a s' hs'

/-- What follows a computation that always succeeds with one value only matters for this value. -/
lemma Ends.pure_bind {f : α → ExceptT ε (StateM σ) β} {r : Except ε β} (hx : Ends inv x (pure a))
    (hf : Ends inv (f a) r) : Ends inv (x >>= f) r := by
  intro s hs
  obtain ⟨hr, hs'⟩ := hx s hs
  rw [run_bind]
  generalize x.run.run s = result at hr hs'
  obtain ⟨_ | _, s'⟩ := result
  · cases hr
  · obtain rfl := Except.ok.inj hr
    exact hf s' hs'

/-- What follows a computation that always fails does not matter. -/
lemma Ends.throw_bind {e : ε} (hx : Ends inv x (throw e)) (f : α → ExceptT ε (StateM σ) β) :
    Ends inv (x >>= f) (throw e) := by
  intro s hs
  obtain ⟨hr, hs'⟩ := hx s hs
  rw [run_bind]
  generalize x.run.run s = result at hr hs'
  obtain ⟨_ | _, s'⟩ := result
  · obtain rfl := Except.error.inj hr
    exact ⟨rfl, hs'⟩
  · cases hr

lemma Ends.map (hx : Ends inv x r) (f : α → β) : Ends inv (f <$> x) (f <$> r) := by
  rw [map_eq_pure_bind, map_eq_pure_bind]
  exact hx.bind fun a => ends_pure (f a)

lemma Ends.foldlM {f : α → β → ExceptT ε (StateM σ) α} {g : α → β → Except ε α}
    (h : ∀ a b, Ends inv (f a b) (g a b)) (a : α) (l : List β) : Ends inv (l.foldlM f a) (l.foldlM g a) := by
  induction l generalizing a with
  | nil => exact ends_pure a
  | cons b l ih =>
    rw [List.foldlM_cons, List.foldlM_cons]
    exact (h a b).bind ih

/-- Folding over a list keeps what every step keeps. -/
lemma exists_ends_foldlM {f : α → β → ExceptT ε (StateM σ) α} {P : List β → α → Prop}
    (hstep : ∀ done b a, P done a → ∃ a', Ends inv (f a b) (pure a') ∧ P (done ++ [b]) a') (done l : List β)
    (h : P done a) : ∃ a', Ends inv (l.foldlM f a) (pure a') ∧ P (done ++ l) a' := by
  induction l generalizing done a with
  | nil => exact ⟨a, ends_pure a, by simpa using h⟩
  | cons b l ih =>
    obtain ⟨a', ha', h'⟩ := hstep done b a h
    obtain ⟨a'', ha'', h''⟩ := ih (done ++ [b]) h'
    refine ⟨a'', ?_, by simpa using h''⟩
    rw [List.foldlM_cons]
    exact ha'.pure_bind ha''

end Ending

/-! ### Computations that keep an invariant -/

/-- Run from any state of which an invariant holds, a computation leaves one of which it holds. -/
def Keeps (inv : σ → Prop) (x : ExceptT ε (StateM σ) α) : Prop := ∀ s, inv s → inv (x.run.run s).2

section Keeping

variable {inv : σ → Prop}

lemma keeps_pure (a : α) : Keeps inv (pure a : ExceptT ε (StateM σ) α) := fun _ hs => hs

lemma keeps_throw (e : ε) : Keeps inv (throw e : ExceptT ε (StateM σ) α) := fun _ hs => hs

lemma Keeps.bind {f : α → ExceptT ε (StateM σ) β} (hx : Keeps inv x) (hf : ∀ a, Keeps inv (f a)) :
    Keeps inv (x >>= f) := by
  intro s hs
  have hs' := hx s hs
  rw [run_bind]
  generalize x.run.run s = result at hs'
  obtain ⟨_ | a, s'⟩ := result
  · exact hs'
  · exact hf a s' hs'

lemma Keeps.map (hx : Keeps inv x) (f : α → β) : Keeps inv (f <$> x) := by
  rw [map_eq_pure_bind]
  exact hx.bind fun a => keeps_pure (f a)

lemma Keeps.foldlM {f : α → β → ExceptT ε (StateM σ) α} (h : ∀ a b, Keeps inv (f a b)) (a : α) (l : List β) :
    Keeps inv (l.foldlM f a) := by
  induction l generalizing a with
  | nil => exact keeps_pure a
  | cons b l ih =>
    rw [List.foldlM_cons]
    exact (h a b).bind ih

end Keeping

/-! ### Computations on related states -/

section Mirroring

variable {τ : Type} {rel : σ → τ → Prop} {fails : ε → Prop} {y : ExceptT ε (StateM τ) α}

/-- Run from related states, two computations end in the same way and leave related states; and if they fail, it
is with a failure of a certain kind. -/
def Mirrors (rel : σ → τ → Prop) (fails : ε → Prop) (x : ExceptT ε (StateM σ) α)
    (y : ExceptT ε (StateM τ) α) : Prop :=
  ∀ s t, rel s t → (x.run.run s).1 = (y.run.run t).1 ∧ rel (x.run.run s).2 (y.run.run t).2 ∧
    ∀ e, (y.run.run t).1 = .error e → fails e

lemma mirrors_pure (a : α) :
    Mirrors rel fails (pure a : ExceptT ε (StateM σ) α) (pure a : ExceptT ε (StateM τ) α) :=
  fun _ _ h => ⟨rfl, h, fun _ he => by cases he⟩

lemma mirrors_throw {e : ε} (he : fails e) :
    Mirrors rel fails (throw e : ExceptT ε (StateM σ) α) (throw e : ExceptT ε (StateM τ) α) :=
  fun _ _ h => ⟨rfl, h, fun _ he' => Except.error.inj he' ▸ he⟩

lemma Mirrors.bind {f : α → ExceptT ε (StateM σ) β} {g : α → ExceptT ε (StateM τ) β}
    (hx : Mirrors rel fails x y) (hf : ∀ a, Mirrors rel fails (f a) (g a)) :
    Mirrors rel fails (x >>= f) (y >>= g) := by
  intro s t h
  obtain ⟨hsame, h', hfails⟩ := hx s t h
  rw [run_bind, run_bind]
  generalize x.run.run s = left at hsame h'
  generalize y.run.run t = right at hsame h' hfails
  obtain ⟨result, s'⟩ := left
  obtain ⟨result', t'⟩ := right
  obtain rfl : result = result' := hsame
  cases result with
  | error e => exact ⟨rfl, h', fun e' he' => hfails e' (Except.error.inj he' ▸ rfl)⟩
  | ok a => exact hf a s' t' h'

lemma Mirrors.ite {p : Prop} [Decidable p] {x' : ExceptT ε (StateM σ) α} {y' : ExceptT ε (StateM τ) α}
    (h : Mirrors rel fails x y) (h' : Mirrors rel fails x' y') :
    Mirrors rel fails (if p then x else x') (if p then y else y') := by
  split
  · exact h
  · exact h'

lemma Mirrors.foldlM {f : α → β → ExceptT ε (StateM σ) α} {g : α → β → ExceptT ε (StateM τ) α}
    (h : ∀ a b, Mirrors rel fails (f a b) (g a b)) (a : α) (l : List β) :
    Mirrors rel fails (l.foldlM f a) (l.foldlM g a) := by
  induction l generalizing a with
  | nil => exact mirrors_pure a
  | cons b l ih =>
    rw [List.foldlM_cons, List.foldlM_cons]
    exact (h a b).bind ih

end Mirroring

end EntityHistory
