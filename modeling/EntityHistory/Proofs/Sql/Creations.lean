/-
Comparing creation times.

A comparison with the creation time of an attribute looks at the last creation up to the instance. A statement takes
it with a sub-query, which gives null if there is none. In memory it is looked up among the creation times, where the
low water mark stands for none; so a creation at the low water mark itself is taken for none as well. The two agree on
all instances but those whose last creation is at the low water mark, and on these nothing is compared in memory.

* `Log.createdAt_eq_some_iff`: the creation time that is compared in memory;
* `Log.operand_eq_operandInStatement_iff`: when it is the one that is compared in a statement;
* `Log.exists_operandInMemory_ne`: a creation that is not compared in memory.
-/
import EntityHistory.Proofs.Entity.Creation
import EntityHistory.Proofs.Sql.Agreement
import EntityHistory.Store.Memory

namespace EntityHistory.Log

variable {log : Log} {c : Comparison} {i : AttributeInstance} {t : Instant}

/-! ### Specification -/

/-- The times at which the attribute of an instance was created until the instance was written. -/
def creations (log : Log) (i : AttributeInstance) : Set Instant :=
  createdUntil log.instances i.entityId i.attributeId i.writtenAt

/-- What a comparison looks at in an instance in memory. -/
def operandInMemory? (log : Log) (c : Comparison) (i : AttributeInstance) : Option Operand :=
  i.operand? (log.createdAt i) c.target

/-- What a comparison looks at in the row of an instance in a statement. -/
def operandInStatement? (log : Log) (c : Comparison) (i : AttributeInstance) : Option Operand :=
  (Sql.Operand.ofComparison c).inMemory? (.ofInstance log.instances i)

/-- The intervals over candidates in which a comparison holds of what it looks at. -/
def intervalsBy [PatternEngine] (log : Log) (candidates : List String) (time : TimeQuery) (c : Comparison)
    (operand? : AttributeInstance → Option Operand) : List EntityInterval :=
  TimelinePoint.intervals
    ((log.instances.filter fun i => i.attributeId = c.attributeId && candidates.contains i.entityId).filterMap fun i =>
      (i.time? time.property).map fun t => ⟨i.entityId, t,
        i.mode ≠ .delete && (operand? i).any fun operand => operand.compare c.operator c.value⟩) time

/-! ### The last creation -/

lemma isCreationUntil_iff : Sql.RowData.IsCreationUntil log.instances i t ↔ t ∈ log.creations i := by
  constructor
  · rintro ⟨cr, hcr, hentity, hattribute, hmode, rfl, hle⟩
    exact ⟨hle, cr, hcr, hentity, hattribute, hmode, rfl⟩
  · rintro ⟨hle, cr, hcr, hentity, hattribute, hmode, rfl⟩
    exact ⟨cr, hcr, hentity, hattribute, hmode, rfl, hle⟩

lemma lastCreation_eq_some_iff_isGreatest :
    (Sql.RowData.ofInstance log.instances i).lastCreation = some t ↔ IsGreatest (log.creations i) t := by
  rw [Sql.RowData.lastCreation_eq_some_iff]
  exact Eq.to_iff (congrArg (IsGreatest · t) (Set.ext fun _ => isCreationUntil_iff))

/-- In memory the last creation is compared unless it is at the low water mark. -/
lemma createdAt_eq_some_iff : log.createdAt i = some t ↔ IsGreatest (log.creations i) t ∧ t ≠ lowWaterMark := by
  rw [createdAt]
  rcases isCreationAt_creationAt log.instances i.entityId i.attributeId i.writtenAt with hgreatest | ⟨hempty, hmark⟩
  · split
    · rename_i hmark
      rw [hmark] at hgreatest
      exact iff_of_false (by simp) fun ⟨ht, hne⟩ => hne (ht.unique hgreatest)
    · rename_i hne
      constructor
      · intro h
        obtain rfl := Option.some.inj h
        exact ⟨hgreatest, hne⟩
      · rintro ⟨ht, -⟩
        rw [ht.unique hgreatest]
  · rw [if_pos hmark]
    exact iff_of_false (by simp) fun ⟨ht, _⟩ => Set.notMem_empty t (hempty.subset ht.1)

/-- It is the one on the row of the instance but for a creation at the low water mark. -/
lemma createdAt_eq_lastCreation_iff : log.createdAt i = (Sql.RowData.ofInstance log.instances i).lastCreation ↔
    ¬ IsGreatest (log.creations i) lowWaterMark := by
  constructor
  · intro heq hgreatest
    have hmark := heq.trans (lastCreation_eq_some_iff_isGreatest.2 hgreatest)
    exact (createdAt_eq_some_iff.1 hmark).2 rfl
  · intro hne
    ext t
    rw [createdAt_eq_some_iff, lastCreation_eq_some_iff_isGreatest]
    refine ⟨And.left, fun ht => ⟨ht, ?_⟩⟩
    rintro rfl
    exact hne ht

/-! ### Operands -/

lemma operandInMemory?_eq (htarget : c.target = .createdAt) (i : AttributeInstance) :
    log.operandInMemory? c i = (log.createdAt i).map .time := by
  rw [operandInMemory?, htarget, AttributeInstance.operand?]

lemma operandInStatement?_eq (htarget : c.target = .createdAt) (hsub : c.subAttribute = none)
    (i : AttributeInstance) :
    log.operandInStatement? c i = (Sql.RowData.ofInstance log.instances i).lastCreation.map .time := by
  rw [operandInStatement?, Sql.inMemory?_ofInstance hsub, htarget, AttributeInstance.operand?]

/-- Without a sub-attribute, a comparison holds of what it looks at in the instance itself. -/
lemma holds_eq_any_operandInMemory? [PatternEngine] (hsub : c.subAttribute = none) (i : AttributeInstance) :
    c.holds i log.subInstances (log.createdAt i) =
      (i.mode ≠ .delete && (log.operandInMemory? c i).any fun operand => operand.compare c.operator c.value) := by
  rw [Comparison.holds, hsub, operandInMemory?]
  by_cases hmode : i.mode = .delete
  · simp [hmode]
  · simp [hmode]

lemma leafIntervals_eq_intervalsBy [PatternEngine] (hsub : c.subAttribute = none) (candidates : List String)
    (time : TimeQuery) :
    log.leafIntervals candidates time (.comparison c) =
      log.intervalsBy candidates time c (log.operandInMemory? c) := by
  have hholds (i : AttributeInstance) : log.leafHolds (.comparison c) i =
      (i.mode ≠ .delete && (log.operandInMemory? c i).any fun operand => operand.compare c.operator c.value) :=
    holds_eq_any_operandInMemory? hsub i
  simp only [leafIntervals, leafPoints, intervalsBy, hholds, PlanLeaf.attributeId]
  rfl

/-- **Comparisons with the creation time of an attribute.**  Take any log and any comparison with the creation time of
an attribute. Its intervals come from what it looks at in memory. In a statement it looks at the greatest creation
time of the attribute up to the instance, which a sub-query finds, and at nothing if there is none. In memory it looks
at the same in just those instances whose last creation is not at the low water mark; in the others it looks at
nothing, and so it does not hold of them, whatever it compares with. -/
theorem operand_eq_operandInStatement_iff [PatternEngine] (log : Log) (candidates : List String) (time : TimeQuery)
    (c : Comparison) (htarget : c.target = .createdAt) (hsub : c.subAttribute = none) :
    log.leafIntervals candidates time (.comparison c) = log.intervalsBy candidates time c (log.operandInMemory? c) ∧
      (Sql.Operand.ofComparison c).fragment "ai" =
        Sql.text (Sql.temporalExpression (Sql.creationExpression "ai") c.value.elementKind) ∧
      ∀ i, (∀ operand, log.operandInStatement? c i = some operand ↔
            ∃ t, operand = .time t ∧ IsGreatest (log.creations i) t) ∧
          (log.operandInMemory? c i = log.operandInStatement? c i ↔ ¬ IsGreatest (log.creations i) lowWaterMark) ∧
          (IsGreatest (log.creations i) lowWaterMark → log.operandInMemory? c i = none ∧
            c.holds i log.subInstances (log.createdAt i) = false) := by
  refine ⟨leafIntervals_eq_intervalsBy hsub candidates time, ?_, fun i => ⟨fun operand => ?_, ?_, fun hmark => ?_⟩⟩
  · have hoperand : Sql.Operand.ofComparison c = .createdAt c.value.elementKind := by
      simp [Sql.Operand.ofComparison, htarget, hsub]
    rw [hoperand, Sql.Operand.fragment]
  · rw [operandInStatement?_eq htarget hsub, Option.map_eq_some_iff]
    refine exists_congr fun t => ?_
    rw [lastCreation_eq_some_iff_isGreatest, and_comm, eq_comm]
  · have htime : Function.Injective Operand.time := fun _ _ => Operand.time.inj
    rw [operandInMemory?_eq htarget, operandInStatement?_eq htarget hsub, ← createdAt_eq_lastCreation_iff]
    exact (Option.map_injective htime).eq_iff
  · have hnone : log.operandInMemory? c i = none := by
      rw [operandInMemory?_eq htarget, Option.map_eq_none_iff, Option.eq_none_iff_forall_ne_some]
      intro t ht
      obtain ⟨hgreatest, hne⟩ := createdAt_eq_some_iff.1 ht
      exact hne (hgreatest.unique hmark)
    refine ⟨hnone, ?_⟩
    rw [holds_eq_any_operandInMemory? hsub, hnone, Option.any_none, Bool.and_false]

/-- An attribute that is created at the low water mark and another one that is created at two seconds. -/
def createdAtMark : Log where
  instances := [
    ⟨"1", "urn:a", "urn:p", .create, some (.boolean true), some (.ofSecond 1), lowWaterMark, none, none, false⟩,
    ⟨"2", "urn:b", "urn:p", .create, some (.boolean true), some (.ofSecond 1), .ofSecond 2, none, none, false⟩]

/-- The comparison whether an attribute was created in the first five seconds. -/
def createdInFiveSeconds : Comparison where
  attributeId := "urn:p"
  subAttribute := none
  target := .createdAt
  operator := .lessOrEqual
  value := .dateTime (.ofSecond 5)

/-- What is observed in the first ten seconds. -/
def inTenSeconds : TimeQuery := ⟨.between (.ofSecond 0) (.ofSecond 10), .observedAt, true⟩

/-- The later creation is compared alike in memory and in a statement, and the one at the low water mark is not. -/
theorem operand_eq_operandInStatement_iff_createdAtMark :
    let c := createdInFiveSeconds
    createdAtMark.leafIntervals ["urn:a", "urn:b"] inTenSeconds (.comparison c) =
        createdAtMark.intervalsBy ["urn:a", "urn:b"] inTenSeconds c (createdAtMark.operandInMemory? c) ∧
      createdAtMark.operandInMemory? c createdAtMark.instances[1] = some (.time (.ofSecond 2)) ∧
      createdAtMark.operandInStatement? c createdAtMark.instances[1] = some (.time (.ofSecond 2)) ∧
      createdAtMark.operandInMemory? c createdAtMark.instances[0] = none := by
  intro c
  obtain ⟨hintervals, -, hoperands⟩ :=
    operand_eq_operandInStatement_iff createdAtMark ["urn:a", "urn:b"] inTenSeconds c rfl rfl
  have hfirst : IsGreatest (createdAtMark.creations createdAtMark.instances[0]) lowWaterMark :=
    lastCreation_eq_some_iff_isGreatest.1 (by decide)
  have hsecond : IsGreatest (createdAtMark.creations createdAtMark.instances[1]) (.ofSecond 2) :=
    lastCreation_eq_some_iff_isGreatest.1 (by decide)
  obtain ⟨-, -, hnone⟩ := hoperands createdAtMark.instances[0]
  obtain ⟨hstatement, hmemory, -⟩ := hoperands createdAtMark.instances[1]
  have hlast : createdAtMark.operandInStatement? c createdAtMark.instances[1] = some (.time (.ofSecond 2)) :=
    (hstatement _).2 ⟨_, rfl, hsecond⟩
  have hne : ¬ IsGreatest (createdAtMark.creations createdAtMark.instances[1]) lowWaterMark :=
    fun h => absurd (h.unique hsecond) (by decide)
  exact ⟨hintervals, (hmemory.2 hne).trans hlast, hlast, (hnone hfirst).1⟩

/-- A creation at the low water mark is not compared in memory, so that an interval is missing. -/
theorem exists_operandInMemory_ne :
    ∃ (log : Log) (candidates : List String) (time : TimeQuery) (c : Comparison) (i : AttributeInstance),
      i ∈ log.instances ∧ c.target = .createdAt ∧ c.subAttribute = none ∧
        IsGreatest (log.creations i) lowWaterMark ∧
        log.operandInStatement? c i = some (.time lowWaterMark) ∧ log.operandInMemory? c i = none ∧
        log.leafIntervals candidates time (.comparison c) = [] ∧
        log.intervalsBy candidates time c (log.operandInStatement? c) = [⟨"urn:a", .ofSecond 1, .ofSecond 1⟩] := by
  refine ⟨createdAtMark, ["urn:a"], inTenSeconds, createdInFiveSeconds, createdAtMark.instances[0], by simp,
    rfl, rfl, lastCreation_eq_some_iff_isGreatest.1 (by decide), by rfl, by decide +kernel, by decide +kernel, by decide +kernel⟩

end EntityHistory.Log
