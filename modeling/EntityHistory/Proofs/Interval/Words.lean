/-
Budgets in machine words.

The ceiling and the share of an attribute are words of 32 bits, and the numbers of entities and attributes are
words of 64 bits. The budget is computed in these words: a product that does not fit or a division by zero gives
none, a quotient is cut down to 32 bits, and the instance more that is fetched is left out where it does not fit.
If the product of the numbers of entities and attributes fits, then there is a budget and it is the one computed
without bounds, and it divides the ceiling as it should.

* `map_toBudget_wordBudget?`: when there is a budget, and which one;
* `isGreatest_share`: a share is the greatest that the ceiling allows;
* `InstanceBudget.isFair`: what a budget grants, limits and fetches;
* `wordBudget_isFair_of_fits`: the same of the budget in words.
-/
import Mathlib.Order.Bounds.Basic
import EntityHistory.Proofs.Interval.Governor

namespace EntityHistory

variable {ceiling : UInt32} {lastN : Option UInt32} {entities attributes : Nat}

/-! ### Specification -/

/-- The number of attributes of all entities; a response has at least one. -/
def attributeCount (entities attributes : Nat) : Nat := max entities 1 * max attributes 1

/-- A budget divides a number of instances fairly among so many attributes. -/
structure InstanceBudget.IsFair (b : InstanceBudget) (ceiling count : Nat) (lastN : Option UInt32) : Prop where
  pos : 1 ≤ b.perAttribute
  mul_le : count ≤ ceiling → b.perAttribute * count ≤ ceiling
  greatest : count ≤ ceiling → lastN = none → IsGreatest {m | m * count ≤ ceiling} b.perAttribute
  requested : count ≤ ceiling → ∀ n, lastN = some n → 1 ≤ n.toNat →
    ∃ m, IsGreatest {m | m * count ≤ ceiling} m ∧ b.perAttribute = min n.toNat m
  limited_iff : b.limited = true ↔ ∃ n, lastN = some n ∧ ceiling < n.toNat * count
  exceeded_iff : b.perAttribute < UInt32.size - 1 → ∀ available,
    b.isExceededBy (min available b.fetchLimit) = true ↔ lastN = none ∧ b.perAttribute < available

/-! ### Shares -/

lemma attributeCount_pos (entities attributes : Nat) : 0 < attributeCount entities attributes :=
  Nat.mul_pos (Nat.le_max_right _ _) (Nat.le_max_right _ _)

/-- A share is the greatest number that each attribute can have within the ceiling. -/
theorem isGreatest_share (ceiling : UInt32) (entities attributes : Nat) :
    IsGreatest {m | m * attributeCount entities attributes ≤ max ceiling.toNat 1}
      (share ceiling entities attributes) := by
  have hpos := attributeCount_pos entities attributes
  constructor
  · exact Nat.div_mul_le_self _ _
  · exact fun m hm => (Nat.le_div_iff_mul_le hpos).2 hm

lemma one_le_share (h : attributeCount entities attributes ≤ max ceiling.toNat 1) :
    1 ≤ share ceiling entities attributes :=
  (isGreatest_share ceiling entities attributes).2 (by simpa using h)

lemma share_lt_iff (n : Nat) : share ceiling entities attributes < n ↔
    max ceiling.toNat 1 < n * attributeCount entities attributes :=
  Nat.div_lt_iff_lt_mul (attributeCount_pos entities attributes)

/-- What is fetched exceeds a budget just when an instance more is looked for and there is one. -/
lemma InstanceBudget.isExceededBy_fetched (b : InstanceBudget) (h : b.perAttribute < UInt32.size - 1)
    (available : Nat) :
    b.isExceededBy (min available b.fetchLimit) = true ↔ b.probes = true ∧ b.perAttribute < available := by
  rw [isExceededBy, decide_eq_true_eq, fetchLimit]
  cases b.probes with
  | true =>
    rw [if_pos rfl]
    simp only [true_and]
    omega
  | false =>
    simp

section Granted

variable (h : attributeCount entities attributes ≤ max ceiling.toNat 1)
include h

lemma perAttribute_le_share_of_le :
    (budget ceiling lastN entities attributes).perAttribute ≤ share ceiling entities attributes :=
  Nat.le_trans perAttribute_le_share (Nat.max_le.2 ⟨Nat.le_refl _, one_le_share h⟩)

/-- Without a number that is asked for, each attribute may have its share. -/
lemma perAttribute_none :
    (budget ceiling none entities attributes).perAttribute = share ceiling entities attributes :=
  Nat.max_eq_left (one_le_share h)

/-- Of a number that is asked for, each attribute may have as many as its share has. -/
lemma perAttribute_some {n : UInt32} (hone : 1 ≤ n.toNat) :
    (budget ceiling (some n) entities attributes).perAttribute =
      min n.toNat (share ceiling entities attributes) :=
  Nat.max_eq_left (Nat.le_min.2 ⟨hone, one_le_share h⟩)

end Granted

lemma budget_limited_iff : (budget ceiling lastN entities attributes).limited = true ↔
    ∃ n, lastN = some n ∧ max ceiling.toNat 1 < n.toNat * attributeCount entities attributes := by
  cases lastN with
  | none => simp [budget]
  | some n => simp [budget, share_lt_iff]

lemma budget_probes_iff : (budget ceiling lastN entities attributes).probes = true ↔ lastN = none := by
  cases lastN with
  | none => simp [budget]
  | some n => simp [budget]

/-- A budget divides the ceiling fairly. -/
theorem InstanceBudget.isFair (ceiling : UInt32) (lastN : Option UInt32) (entities attributes : Nat) :
    (budget ceiling lastN entities attributes).IsFair (max ceiling.toNat 1)
      (attributeCount entities attributes) lastN where
  pos := one_le_perAttribute
  mul_le h := Nat.le_trans (Nat.mul_le_mul_right _ (perAttribute_le_share_of_le h)) (isGreatest_share _ _ _).1
  greatest h hlast := by
    subst hlast
    rw [perAttribute_none h]
    exact isGreatest_share _ _ _
  requested h n hlast hone := by
    subst hlast
    exact ⟨share ceiling entities attributes, isGreatest_share _ _ _, perAttribute_some h hone⟩
  limited_iff := budget_limited_iff
  exceeded_iff hlt available := by
    rw [isExceededBy_fetched _ hlt, budget_probes_iff]

/-! ### Arithmetic of words -/

/-- The product of two words, if it fits. -/
def wordMul? (a b : UInt64) : Option UInt64 := if a.toNat * b.toNat < UInt64.size then some (a * b) else none

/-- The quotient of two words, if the second is not zero. -/
def wordDiv? (a b : UInt64) : Option UInt64 := if b = 0 then none else some (a / b)

/-- The word after a word; the greatest stays as it is. -/
def wordNext (a : UInt32) : UInt32 := if a.toNat + 1 < UInt32.size then a + 1 else a

/-- A budget whose numbers are words. -/
structure WordBudget where
  perAttribute : UInt32
  limited : Bool
  probes : Bool

namespace WordBudget

/-- The budget with its number of instances as it is. -/
def toBudget (b : WordBudget) : InstanceBudget := ⟨b.perAttribute.toNat, b.limited, b.probes⟩

/-- The number of instances to fetch for each attribute. -/
def fetchLimit (b : WordBudget) : UInt32 := if b.probes then wordNext b.perAttribute else b.perAttribute

/-- Whether so many fetched instances of an attribute are too many. -/
def isExceededBy (b : WordBudget) (fetched : UInt64) : Bool := b.perAttribute.toUInt64 < fetched

lemma toNat_wordNext (a : UInt32) : (wordNext a).toNat = min (a.toNat + 1) (UInt32.size - 1) := by
  have hlt : a.toNat < UInt32.size := a.toNat_lt
  rw [wordNext]
  split
  case isTrue h =>
    rw [UInt32.toNat_add, UInt32.toNat_one, Nat.mod_eq_of_lt h]
    omega
  case isFalse h => omega

lemma toNat_fetchLimit (b : WordBudget) : b.fetchLimit.toNat = b.toBudget.fetchLimit := by
  rw [fetchLimit, InstanceBudget.fetchLimit, toBudget]
  cases b.probes with
  | true => exact toNat_wordNext b.perAttribute
  | false => rfl

lemma isExceededBy_eq (b : WordBudget) (fetched : UInt64) :
    b.isExceededBy fetched = b.toBudget.isExceededBy fetched.toNat := by
  rw [isExceededBy, InstanceBudget.isExceededBy, toBudget, decide_eq_decide, UInt64.lt_iff_toNat_lt,
    UInt32.toNat_toUInt64]

end WordBudget

/-- The share of each attribute, computed in words. -/
def wordShare? (ceiling : UInt32) (entities attributes : UInt64) : Option UInt32 := do
  let count ← wordMul? (max entities 1) (max attributes 1)
  let quotient ← wordDiv? (max ceiling 1).toUInt64 count
  pure quotient.toUInt32

/-- The budget with a share. -/
def WordBudget.ofShare (share : UInt32) : Option UInt32 → WordBudget
  | some n => { perAttribute := max (min n share) 1, limited := share < n, probes := false }
  | none => { perAttribute := max share 1, limited := false, probes := true }

/-- The budget of a response, computed in words. -/
def wordBudget? (ceiling : UInt32) (lastN : Option UInt32) (entities attributes : UInt64) : Option WordBudget :=
  (wordShare? ceiling entities attributes).map fun share => .ofShare share lastN

/-! ### Words that fit -/

lemma wordMul?_eq (a b : UInt64) : wordMul? a b =
    if a.toNat * b.toNat < UInt64.size then some (.ofNat (a.toNat * b.toNat)) else none := by
  rw [wordMul?]
  split
  case isTrue h =>
    refine congrArg some (UInt64.toNat_inj.1 ?_)
    rw [UInt64.toNat_mul, UInt64.toNat_ofNat']
  case isFalse => rfl

/-- A quotient of a word of 32 bits is one of 32 bits. -/
lemma toNat_quotient (ceiling : UInt32) (count : UInt64) :
    ((max ceiling 1).toUInt64 / count).toUInt32.toNat = max ceiling.toNat 1 / count.toNat := by
  have hlt : max ceiling.toNat 1 < 2 ^ 32 := by
    have := ceiling.toNat_lt
    omega
  rw [UInt64.toNat_toUInt32, UInt64.toNat_div, UInt32.toNat_toUInt64, UInt32.toNat_max, UInt32.toNat_one]
  exact Nat.mod_eq_of_lt (Nat.lt_of_le_of_lt (Nat.div_le_self _ _) hlt)

/-- The share is computed in words just when the number of attributes of all entities fits. -/
lemma map_toNat_wordShare? (ceiling : UInt32) (entities attributes : UInt64) :
    (wordShare? ceiling entities attributes).map UInt32.toNat =
      if attributeCount entities.toNat attributes.toNat < UInt64.size then
        some (share ceiling entities.toNat attributes.toNat)
      else none := by
  have hcount : (max entities 1).toNat * (max attributes 1).toNat =
      attributeCount entities.toNat attributes.toNat := by
    rw [UInt64.toNat_max, UInt64.toNat_max, UInt64.toNat_one, attributeCount]
  rw [wordShare?, wordMul?_eq, hcount]
  split
  case isFalse => rfl
  case isTrue hfits =>
    have htoNat : (UInt64.ofNat (attributeCount entities.toNat attributes.toNat)).toNat =
        attributeCount entities.toNat attributes.toNat := UInt64.toNat_ofNat_of_lt' hfits
    have hne : UInt64.ofNat (attributeCount entities.toNat attributes.toNat) ≠ 0 := by
      intro hzero
      rw [hzero] at htoNat
      exact absurd htoNat (Nat.ne_of_lt (attributeCount_pos _ _))
    rw [Option.bind_eq_bind, Option.bind_some, wordDiv?, if_neg hne]
    refine congrArg some ?_
    rw [toNat_quotient, htoNat]
    rfl

lemma toBudget_ofShare {s : UInt32} (hs : s.toNat = share ceiling entities attributes) :
    (WordBudget.ofShare s lastN).toBudget = budget ceiling lastN entities attributes := by
  cases lastN with
  | none => rw [WordBudget.ofShare, WordBudget.toBudget, UInt32.toNat_max, hs, UInt32.toNat_one, budget]
  | some n =>
    have hlimited : decide (s < n) = decide (share ceiling entities attributes < n.toNat) := by
      rw [decide_eq_decide, UInt32.lt_iff_toNat_lt, hs]
    rw [WordBudget.ofShare, hlimited, WordBudget.toBudget, UInt32.toNat_max, UInt32.toNat_min, hs,
      UInt32.toNat_one, budget]

/-- There is a budget in words just when the number of attributes of all entities fits, and then it is the one
computed without bounds. -/
theorem map_toBudget_wordBudget? (ceiling : UInt32) (lastN : Option UInt32) (entities attributes : UInt64) :
    (wordBudget? ceiling lastN entities attributes).map WordBudget.toBudget =
      if attributeCount entities.toNat attributes.toNat < UInt64.size then
        some (budget ceiling lastN entities.toNat attributes.toNat)
      else none := by
  have hshare := map_toNat_wordShare? ceiling entities attributes
  by_cases hfits : attributeCount entities.toNat attributes.toNat < UInt64.size
  · rw [if_pos hfits] at hshare ⊢
    obtain ⟨s, hs, heq⟩ := Option.map_eq_some_iff.1 hshare
    rw [wordBudget?, hs, Option.map_some, Option.map_some, toBudget_ofShare heq]
  · rw [if_neg hfits] at hshare ⊢
    rw [wordBudget?, Option.map_eq_none_iff.1 hshare]
    rfl

/-- **Budgets in words.**  If the number of attributes of all entities fits into a word, then the budget is computed
in words without an overflow or a division by zero. It is the one computed without bounds, fetches and exceeds as
this one does, and divides the ceiling fairly. -/
theorem wordBudget_isFair_of_fits (ceiling : UInt32) (lastN : Option UInt32) (entities attributes : UInt64)
    (hfits : attributeCount entities.toNat attributes.toNat < UInt64.size) :
    ∃ b, wordBudget? ceiling lastN entities attributes = some b ∧
      b.toBudget = budget ceiling lastN entities.toNat attributes.toNat ∧
      b.fetchLimit.toNat = b.toBudget.fetchLimit ∧
      (∀ fetched, b.isExceededBy fetched = b.toBudget.isExceededBy fetched.toNat) ∧
      b.toBudget.IsFair (max ceiling.toNat 1) (attributeCount entities.toNat attributes.toNat) lastN := by
  have hbudget := map_toBudget_wordBudget? ceiling lastN entities attributes
  rw [if_pos hfits] at hbudget
  obtain ⟨b, hb, heq⟩ := Option.map_eq_some_iff.1 hbudget
  refine ⟨b, hb, heq, b.toNat_fetchLimit, b.isExceededBy_eq, ?_⟩
  rw [heq]
  exact InstanceBudget.isFair ceiling lastN entities.toNat attributes.toNat

/-- Of almost as many attributes as the ceiling has instances each may have one. -/
theorem wordBudget_isFair_of_fits_almostAll :
    attributeCount (65536 : UInt64).toNat (65535 : UInt64).toNat < UInt64.size ∧
      ∃ b, wordBudget? 4294967295 none 65536 65535 = some b ∧ b.toBudget = ⟨1, false, true⟩ ∧
        b.fetchLimit.toNat = 2 ∧ b.toBudget.IsFair 4294967295 4294901760 none := by
  have hfits : attributeCount (65536 : UInt64).toNat (65535 : UInt64).toNat < UInt64.size := by decide
  have hceiling : max (4294967295 : UInt32).toNat 1 = 4294967295 := by decide
  have hcount : attributeCount (65536 : UInt64).toNat (65535 : UInt64).toNat = 4294901760 := by decide
  have hone : budget 4294967295 none (65536 : UInt64).toNat (65535 : UInt64).toNat = ⟨1, false, true⟩ := by decide
  obtain ⟨b, hb, heq, hfetch, -, hfair⟩ := wordBudget_isFair_of_fits 4294967295 none 65536 65535 hfits
  rw [hceiling, hcount] at hfair
  refine ⟨hfits, b, hb, ?_, ?_, hfair⟩
  · rw [heq, hone]
  · rw [hfetch, heq, hone]
    decide

end EntityHistory
