/-
Look-ups of creation times.

Whoever looks up creation times holds what is remembered of them beside the repository. A look-up either finds the
creation times of its attribute remembered, or has the repository load them and remembers them then, or fails with
the repository and remembers nothing. So the repository loads the creation times of an attribute once and once more
for each time that it fails, and over the log in memory every look-up gives the creation that the log has, whatever
has been looked up before.

* `LookUp.run_eq`: the three ways in which a look-up ends;
* `LookUp.run_noting`: what a look-up has the repository load;
* `LookUp.exists_answers_noting`: how often the creation times of an attribute are loaded;
* `LookUp.answers_eq_creations`: what look-ups give, and when they have the repository load.
-/
import EntityHistory.Proofs.Service.Calls

namespace EntityHistory

variable {σ : Type} {repository : Repository σ} {known : Creations}

/-! ### Specification -/

/-- A look-up of the creation of an attribute at an instant. -/
structure LookUp where
  entityId : String
  attributeId : String
  time : Instant
deriving DecidableEq, Repr

namespace LookUp

/-- What the creation times of a look-up are remembered under. -/
def key (l : LookUp) : String × String := (l.entityId, l.attributeId)

/-- A look-up in what is remembered and in the repository. -/
def run (repository : Repository σ) (l : LookUp) : Action (Resolver σ) Instant :=
  Resolver.resolve repository l.entityId l.attributeId l.time

/-- The answers to look-ups, one after the other, and what is held after them. -/
def answers (repository : Repository σ) : List LookUp → Resolver σ → List (Except Error Instant) × Resolver σ
  | [], r => ([], r)
  | l :: ls, r =>
    let (answer, r) := (l.run repository).run.run r
    let (rest, r) := answers repository ls r
    (answer :: rest, r)

/-- A call that loads the creation times of an attribute. -/
def loads (key : String × String) : Call → Bool
  | .creationTimes entityId attributeId => (entityId, attributeId) = key
  | _ => false

/-- A look-up for an attribute that has failed. -/
def failed (key : String × String) (outcome : LookUp × Except Error Instant) : Bool :=
  outcome.1.key = key && !outcome.2.isOk

/-- A look-up for an attribute that has succeeded. -/
def succeeded (key : String × String) (outcome : LookUp × Except Error Instant) : Bool :=
  outcome.1.key = key && outcome.2.isOk

/-! ### One look-up -/

variable {l : LookUp} {ls : List LookUp} {log : Log} {store store' : σ} {key : String × String} {known' : Creations}
  {answer : Except Error Instant}

lemma lookup_cons (key key' : String × String) (creations : List Instant) (known : Creations) :
    List.lookup key' ((key, creations) :: known) = if key' = key then some creations else known.lookup key' := by
  by_cases h : key' = key
  · rw [h, List.lookup_cons_self, if_pos rfl]
  · rw [List.lookup_cons, beq_eq_false_iff_ne.2 h, if_neg h]

/-- A look-up finds what it needs remembered, or loads it, or fails. -/
lemma run_eq (repository : Repository σ) (l : LookUp) (known : Creations) (store : σ) :
    (l.run repository).run.run ⟨known, store⟩ = (match known.lookup l.key with
      | some creations => (.ok (creationAt creations l.time), ⟨known, store⟩)
      | none =>
        match (repository.creationTimes l.entityId l.attributeId).run.run store with
        | (.ok creations, store) => (.ok (creationAt creations l.time), ⟨(l.key, creations) :: known, store⟩)
        | (.error e, store) => (.error e, ⟨known, store⟩)) :=
  Resolver.run_resolve repository l.entityId l.attributeId l.time known store

/-- What a look-up changes, however it ends. -/
lemma cases_of_run (h : (l.run repository).run.run ⟨known, store⟩ = (answer, ⟨known', store'⟩)) :
    ((known.lookup l.key).isSome ∧ known' = known ∧ answer.isOk) ∨
      (known.lookup l.key = none ∧ (∃ creations, known' = (l.key, creations) :: known) ∧ answer.isOk) ∨
      (known.lookup l.key = none ∧ known' = known ∧ answer.isOk = false) := by
  rw [run_eq] at h
  cases hlookup : known.lookup l.key with
  | some creations =>
    rw [hlookup] at h
    cases h
    exact Or.inl ⟨rfl, rfl, rfl⟩
  | none =>
    rw [hlookup] at h
    dsimp only at h
    rcases hload : (repository.creationTimes l.entityId l.attributeId).run.run store with ⟨_ | creations, _⟩
    · rw [hload] at h
      cases h
      exact Or.inr (Or.inr ⟨rfl, rfl, rfl⟩)
    · rw [hload] at h
      cases h
      exact Or.inr (Or.inl ⟨rfl, ⟨creations, rfl⟩, rfl⟩)

/-- A look-up does not matter for what is remembered of other attributes. -/
lemma lookup_of_run (h : (l.run repository).run.run ⟨known, store⟩ = (answer, ⟨known', store'⟩)) (hne : l.key ≠ key) :
    known'.lookup key = known.lookup key := by
  rcases cases_of_run h with ⟨-, rfl, -⟩ | ⟨-, ⟨creations, rfl⟩, -⟩ | ⟨-, rfl, -⟩
  · rfl
  · rw [lookup_cons, if_neg hne.symm]
  · rfl

/-- What a look-up has loaded: what it needs and is not remembered. -/
def loaded (known : Creations) (l : LookUp) : List Call :=
  if (known.lookup l.key).isSome then [] else [.creationTimes l.entityId l.attributeId]

lemma countP_loads_loaded (key : String × String) (known : Creations) (l : LookUp) :
    (loaded known l).countP (loads key) = (decide (l.key = key) && (known.lookup key).isNone).toNat := by
  have hloads : loads key (.creationTimes l.entityId l.attributeId) = decide (l.key = key) := rfl
  rw [loaded]
  by_cases hkey : l.key = key
  · subst hkey
    cases known.lookup l.key <;> simp [hloads]
  · cases known.lookup l.key <;> simp [hloads, hkey]

/-- Whether or not calls are noted, a look-up ends the same. -/
lemma run_noting (h : (l.run repository).run.run ⟨known, store⟩ = (answer, ⟨known', store'⟩)) (noted : List Call) :
    (l.run repository.noting).run.run ⟨known, (store, noted)⟩ =
      (answer, ⟨known', (store', noted ++ loaded known l)⟩) := by
  have hload : (repository.noting.creationTimes l.entityId l.attributeId).run.run (store, noted) =
      (((repository.creationTimes l.entityId l.attributeId).run.run store).1,
        (((repository.creationTimes l.entityId l.attributeId).run.run store).2,
          noted ++ [.creationTimes l.entityId l.attributeId])) := rfl
  rw [run_eq, loaded]
  rw [run_eq] at h
  cases hlookup : known.lookup l.key with
  | some creations =>
    rw [hlookup] at h
    cases h
    simp
  | none =>
    rw [hlookup] at h
    dsimp only at h ⊢
    rw [hload]
    rcases hresult : (repository.creationTimes l.entityId l.attributeId).run.run store with ⟨_ | creations, _⟩ <;>
    · rw [hresult] at h
      cases h
      rfl

/-! ### Any look-ups -/

lemma answers_cons (repository : Repository σ) (l : LookUp) (ls : List LookUp) {r r' : Resolver σ}
    (h : (l.run repository).run.run r = (answer, r')) :
    answers repository (l :: ls) r = (answer :: (answers repository ls r').1, (answers repository ls r').2) := by
  rw [answers, h]

/-- Over the log in memory each look-up gives the creation that the log has. -/
lemma forall₂_answers_log [PatternEngine] {r : Resolver Log} (h : Reconstruction.Remembers log r) (ls : List LookUp) :
    List.Forall₂
      (fun l answer => answer = .ok (creationAt (creationTimesIn log.instances l.entityId l.attributeId) l.time)) ls
      (answers Log.repository ls r).1 := by
  induction ls generalizing r with
  | nil => exact .nil
  | cons l ls ih =>
    obtain ⟨hanswer, h'⟩ := Reconstruction.ends_resolve log l.entityId l.attributeId l.time r h
    exact .cons hanswer (ih h')

/-- Look-ups of other attributes do not matter for what is remembered of an attribute. -/
lemma lookup_answers_of_forall_ne (h : ∀ l ∈ ls, l.key ≠ key) (known : Creations) (store : σ) :
    (answers repository ls ⟨known, store⟩).2.known.lookup key = known.lookup key := by
  induction ls generalizing known store with
  | nil => rfl
  | cons l ls ih =>
    rcases hrun : (l.run repository).run.run ⟨known, store⟩ with ⟨answer, known', store'⟩
    rw [answers_cons _ _ _ hrun, ih fun l' hl' => h l' (List.mem_cons_of_mem l hl')]
    exact lookup_of_run hrun (h l List.mem_cons_self)

/-- How often the creation times of an attribute are loaded: each time that they cannot be, and once when they can. -/
lemma exists_answers_noting (repository : Repository σ) (ls : List LookUp) (known : Creations) (store : σ)
    (noted : List Call) :
    ∃ more, answers repository.noting ls ⟨known, (store, noted)⟩ = ((answers repository ls ⟨known, store⟩).1,
        ⟨(answers repository ls ⟨known, store⟩).2.known,
          ((answers repository ls ⟨known, store⟩).2.store, noted ++ more)⟩) ∧
      ∀ key, more.countP (loads key) =
        (ls.zip (answers repository ls ⟨known, store⟩).1).countP (failed key) +
          ((known.lookup key).isNone && (ls.zip (answers repository ls ⟨known, store⟩).1).any (succeeded key)).toNat := by
  induction ls generalizing known store noted with
  | nil => exact ⟨[], by simp [answers], by simp [answers]⟩
  | cons l ls ih =>
    rcases hrun : (l.run repository).run.run ⟨known, store⟩ with ⟨answer, known', store'⟩
    obtain ⟨more, hmore, hcount⟩ := ih known' store' (noted ++ loaded known l)
    refine ⟨loaded known l ++ more, ?_, fun key => ?_⟩
    · rw [answers_cons _ _ _ hrun, answers_cons _ _ _ (run_noting hrun noted), hmore, List.append_assoc]
    · rw [answers_cons _ _ _ hrun, List.countP_append, hcount, countP_loads_loaded, List.zip_cons_cons,
        List.countP_cons, List.any_cons, failed, succeeded]
      by_cases hkey : l.key = key
      · subst hkey
        -- what is loaded once is remembered from then on, and what has failed is not
        rcases cases_of_run hrun with ⟨hsome, hknown, hok⟩ | ⟨hnone, ⟨creations, hknown⟩, hok⟩ | ⟨hnone, hknown, hok⟩
        · simp [hknown, Option.isNone_eq_false_iff.2 hsome, hok]
        · simp [hknown, hnone, hok, Nat.add_comm]
        · simp [hknown, hnone, hok, Nat.add_comm, Nat.add_left_comm]
      · simp [hkey, lookup_of_run hrun hkey]

/-- **Look-ups of creation times.**  Over the log in memory, whatever is looked up one after the other, each look-up
gives the creation of its attribute at its instant. Over any repository, noting the calls changes no answer, and the
creation times of an attribute are loaded as often as look-ups for it have failed and once more if one has succeeded.
And where what a look-up needs is not remembered and cannot be loaded, the look-up fails with the same error, just as
much is remembered as before, and the next look-up for the attribute has it loaded again. -/
theorem answers_eq_creations [PatternEngine] :
    (∀ (log : Log) (ls : List LookUp),
      List.Forall₂
        (fun l answer => ∃ c, answer = .ok c ∧ IsCreationAt log.instances l.entityId l.attributeId l.time c) ls
        (answers Log.repository ls { store := log }).1) ∧
      (∀ (σ : Type) (repository : Repository σ) (store : σ) (ls : List LookUp) (key : String × String),
        let noted := answers repository.noting ls { store := (store, []) }
        noted.1 = (answers repository ls { store }).1 ∧
          noted.2.store.2.countP (loads key) = (ls.zip noted.1).countP (failed key) +
            if (ls.zip noted.1).any (succeeded key) then 1 else 0) ∧
      ∀ (σ : Type) (repository : Repository σ) (known : Creations) (store store' : σ) (l : LookUp) (e : Error),
        known.lookup l.key = none →
        (repository.creationTimes l.entityId l.attributeId).run.run store = (.error e, store') →
          (l.run repository).run.run ⟨known, store⟩ = (.error e, ⟨known, store'⟩) ∧
            ∀ (others : List LookUp) (next : LookUp), (∀ other ∈ others, other.key ≠ l.key) → next.key = l.key →
              let before := (answers repository.noting others ⟨known, (store', [])⟩).2
              ((next.run repository.noting).run.run before).2.store.2 =
                before.store.2 ++ [.creationTimes l.entityId l.attributeId] := by
  refine ⟨fun log ls => ?_, fun σ repository store ls key => ?_, ?_⟩
  · have hnothing : Reconstruction.Remembers log { store := log } := ⟨by simp, rfl⟩
    exact (forall₂_answers_log hnothing ls).imp fun l answer hl => ⟨_, hl, isCreationAt_creationAt _ _ _ _⟩
  · obtain ⟨more, hmore, hcount⟩ := exists_answers_noting repository ls [] store []
    dsimp only
    rw [hmore, List.nil_append, hcount key, List.lookup_nil, Option.isNone_none, Bool.true_and]
    refine ⟨rfl, ?_⟩
    cases (ls.zip (answers repository ls ⟨[], store⟩).1).any (succeeded key) <;> rfl
  · intro σ repository known store store' l e hlookup hload
    refine ⟨by rw [run_eq, hlookup]; dsimp only; rw [hload], fun others next hothers hnext => ?_⟩
    rcases hbefore : (answers repository.noting others ⟨known, (store', [])⟩).2 with ⟨known₁, store₁, noted⟩
    have hnone : known₁.lookup next.key = none := by
      rw [hnext, ← hlookup, ← lookup_answers_of_forall_ne hothers known (store', []), hbefore]
    have hcall : loaded known₁ next = [.creationTimes l.entityId l.attributeId] := by
      obtain ⟨hentity, hattribute⟩ := Prod.mk.inj hnext
      rw [loaded, hnone, hentity, hattribute]
      rfl
    rcases hrun : (next.run repository).run.run ⟨known₁, store₁⟩ with ⟨answer, known₂, store₂⟩
    dsimp only
    rw [run_noting hrun, hcall]

/-- A repository that cannot do anything but load the same creation times over and over, and that not the first time. -/
def busyAtFirst : Repository Nat where
  findIntervals _ := throw (.internal "busy")
  entityRecords _ := throw (.internal "busy")
  instances _ := throw (.internal "busy")
  subInstances _ := throw (.internal "busy")
  creationTimes _ _ := do
    let before ← get
    set (before + 1)
    if before = 0 then throw (.internal "busy") else pure [.ofSecond 1, .ofSecond 4]
  mostAttributes _ := throw (.internal "busy")

/-- The first look-up fails, the second has the creation times loaded, and the third finds them remembered. -/
theorem answers_eq_creations_busyAtFirst :
    let ls : List LookUp :=
      [⟨"urn:a", "speed", .ofSecond 3⟩, ⟨"urn:a", "speed", .ofSecond 3⟩, ⟨"urn:a", "speed", .ofSecond 9⟩]
    let noted := answers busyAtFirst.noting ls { store := (0, []) }
    noted.1 = [.error (.internal "busy"), .ok (.ofSecond 1), .ok (.ofSecond 4)] ∧
      noted.2.store.2.countP (loads ("urn:a", "speed")) = 2 ∧
      (ls[0].run busyAtFirst).run.run ⟨[], 0⟩ = (.error (.internal "busy"), ⟨[], 1⟩) ∧
      ((ls[2].run busyAtFirst.noting).run.run ⟨[], (1, [])⟩).2.store.2 = [.creationTimes "urn:a" "speed"] := by
  intro ls noted
  obtain ⟨-, hcount, hfails⟩ := answers_eq_creations
  have hanswers : noted.1 = [.error (.internal "busy"), .ok (.ofSecond 1), .ok (.ofSecond 4)] := by decide +kernel
  obtain ⟨-, hloads⟩ := hcount Nat busyAtFirst 0 ls ("urn:a", "speed")
  obtain ⟨hfirst, hnext⟩ := hfails Nat busyAtFirst [] 0 1 ls[0] (.internal "busy") rfl rfl
  refine ⟨hanswers, hloads.trans ?_, hfirst, hnext [] ls[2] (by simp) rfl⟩
  rw [hanswers]
  rfl

end LookUp

end EntityHistory
