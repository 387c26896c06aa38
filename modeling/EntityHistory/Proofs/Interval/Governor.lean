/-
The budget of a response.

Every attribute may have at least one instance, and what is fetched for it is never less than what it may
have. If there is an instance for every attribute of every entity at all, then the shares of all attributes
together do not exceed the ceiling.

* `perAttribute_mul_le`: the shares of all attributes within the ceiling.
-/
import Mathlib.Tactic.Lemma
import EntityHistory.Interval.Governor

namespace EntityHistory

variable {ceiling : UInt32} {lastN : Option UInt32} {n : UInt32} {entities attributes : Nat}

lemma one_le_perAttribute : 1 ≤ (budget ceiling lastN entities attributes).perAttribute := by
  cases lastN with
  | none => exact Nat.le_max_right _ _
  | some n => exact Nat.le_max_right _ _

lemma perAttribute_le_share :
    (budget ceiling lastN entities attributes).perAttribute ≤ max (share ceiling entities attributes) 1 := by
  cases lastN with
  | none => exact Nat.le_refl _
  | some n =>
    have hmin : min n.toNat (share ceiling entities attributes) ≤ share ceiling entities attributes :=
      Nat.min_le_right _ _
    simp only [budget]
    omega

/-- At least as many instances are fetched of an attribute as it may have. -/
lemma perAttribute_le_fetchLimit : (budget ceiling lastN entities attributes).perAttribute ≤
    (budget ceiling lastN entities attributes).fetchLimit := by
  have hceiling : ceiling.toNat < UInt32.size := ceiling.toNat_lt
  have hshare : share ceiling entities attributes ≤ max ceiling.toNat 1 := Nat.div_le_self _ _
  have hmax : max (share ceiling entities attributes) 1 ≤ UInt32.size - 1 := by
    rw [UInt32.size] at *
    omega
  have hle : (budget ceiling lastN entities attributes).perAttribute ≤ UInt32.size - 1 :=
    Nat.le_trans perAttribute_le_share hmax
  rw [InstanceBudget.fetchLimit]
  split
  · omega
  · exact Nat.le_refl _

/-- Without a number that is asked for, an instance more is fetched than an attribute may have, unless the
ceiling is the greatest one. -/
lemma fetchLimit_of_none (hceiling : ceiling.toNat < UInt32.size - 1) :
    (budget ceiling none entities attributes).fetchLimit =
      (budget ceiling none entities attributes).perAttribute + 1 := by
  have hshare : share ceiling entities attributes ≤ max ceiling.toNat 1 := Nat.div_le_self _ _
  have hle : (budget ceiling none entities attributes).perAttribute + 1 ≤ UInt32.size - 1 := by
    simp only [budget, UInt32.size] at *
    omega
  exact Nat.min_eq_left hle

/-- If there may be an instance for each attribute of each entity, then the shares of all of them together do
not exceed the ceiling. -/
lemma perAttribute_mul_le (h : entities * attributes ≤ ceiling.toNat) :
    entities * attributes * (budget ceiling lastN entities attributes).perAttribute ≤ ceiling.toNat := by
  rcases Nat.eq_zero_or_pos (entities * attributes) with hzero | hpos
  · rw [hzero, Nat.zero_mul]
    exact Nat.zero_le _
  · have hentities : max entities 1 = entities := Nat.max_eq_left (Nat.pos_of_mul_pos_right hpos)
    have hattributes : max attributes 1 = attributes := Nat.max_eq_left (Nat.pos_of_mul_pos_left hpos)
    have hceiling : max ceiling.toNat 1 = ceiling.toNat := Nat.max_eq_left (Nat.le_trans hpos h)
    have hshare : share ceiling entities attributes = ceiling.toNat / (entities * attributes) := by
      rw [share, hentities, hattributes, hceiling]
    have hone : 1 ≤ share ceiling entities attributes := by
      rw [hshare]
      exact (Nat.one_le_div_iff hpos).2 h
    calc entities * attributes * (budget ceiling lastN entities attributes).perAttribute
        ≤ entities * attributes * share ceiling entities attributes := by
          refine Nat.mul_le_mul_left _ (Nat.le_trans perAttribute_le_share ?_)
          exact Nat.max_le.2 ⟨Nat.le_refl _, hone⟩
      _ ≤ ceiling.toNat := by
          rw [hshare]
          exact Nat.mul_div_le _ _

/-- A request for so many instances as the share has, or fewer, is given as many. -/
lemma perAttribute_of_lastN (hn : 1 ≤ n.toNat) (hshare : n.toNat ≤ share ceiling entities attributes) :
    (budget ceiling (some n) entities attributes).perAttribute = n.toNat := by
  simp only [budget]
  omega

end EntityHistory
