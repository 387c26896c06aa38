/-
Values that are numbers.

A decimal and a quotient are rounded to a number or to an infinity, and never to the value that is not a
number: the exponent field of a rounded value is either below the greatest one, or the fraction beside it is
zero. So what is read from a decimal is in an order with all numbers.

* `Double.isNaN_ofRatio`, `Double.isNaN_ofDecimal`: rounding gives a number or an infinity;
* `Double.compare?_eq_some`: such values are in an order.
-/
import Mathlib.Tactic.Lemma
import Mathlib.Tactic.SplitIfs
import EntityHistory.Number.Double

namespace EntityHistory.Double

variable {a b : Double} {m : Nat}

lemma magnitude_ofMagnitude (negative : Bool) (h : m < Nat.pow 2 63) :
    (ofMagnitude negative m).magnitude = m := by
  have hsize : m + (if negative then Nat.pow 2 63 else 0) < 2 ^ 64 := by
    have hpow : Nat.pow 2 63 + Nat.pow 2 63 = 2 ^ 64 := rfl
    split <;> omega
  rw [magnitude, ofMagnitude, UInt64.toNat_ofNat_of_lt' hsize]
  cases negative with
  | true => rw [if_pos rfl, Nat.add_mod_right, Nat.mod_eq_of_lt h]
  | false => rw [if_neg Bool.false_ne_true, Nat.add_zero, Nat.mod_eq_of_lt h]

lemma isNaN_ofMagnitude (negative : Bool) (h : m ≤ 2047 * Nat.pow 2 52) :
    (ofMagnitude negative m).isNaN = false := by
  have hsize : m < Nat.pow 2 63 := Nat.lt_of_le_of_lt h (by decide)
  rw [isNaN, magnitude_ofMagnitude negative hsize, decide_eq_false_iff_not, Nat.not_lt]
  exact h

lemma isNaN_infinity (negative : Bool) : (infinity negative).isNaN = false :=
  isNaN_ofMagnitude negative (Nat.le_refl _)

/-- A magnitude below that of the infinities is that of a number. -/
lemma isNaN_ite (negative : Bool) (m : Nat) :
    (if 2047 * Nat.pow 2 52 ≤ m then infinity negative else ofMagnitude negative m).isNaN = false := by
  by_cases h : 2047 * Nat.pow 2 52 ≤ m
  · rw [if_pos h]
    exact isNaN_infinity negative
  · rw [if_neg h]
    exact isNaN_ofMagnitude negative (Nat.le_of_not_le h)

/-- A quotient is rounded to a number or to an infinity. -/
theorem isNaN_ofRatio (negative : Bool) (num den : Nat) : (ofRatio negative num den).isNaN = false := by
  by_cases h : num = 0 ∨ den = 0
  · rw [ofRatio, if_pos h]
    exact isNaN_ofMagnitude negative (Nat.zero_le _)
  · rw [ofRatio, if_neg h]
    exact isNaN_ite negative _

lemma isNaN_ofInt (n : Int) : (ofInt n).isNaN = false := isNaN_ofRatio _ _ _

/-- So is a decimal. -/
theorem isNaN_ofDecimal (negative : Bool) (digits : Nat) (exponent : Int) :
    (ofDecimal negative digits exponent).isNaN = false := by
  rw [ofDecimal]
  split_ifs
  · exact isNaN_ofMagnitude negative (Nat.zero_le _)
  · exact isNaN_infinity negative
  · exact isNaN_ofRatio negative _ _

lemma isNaN_of_isFinite (h : a.isFinite = true) : a.isNaN = false := by
  rw [isFinite, decide_eq_true_eq] at h
  rw [isNaN, decide_eq_false_iff_not]
  exact Nat.lt_asymm h

lemma compare?_eq_some (ha : a.isNaN = false) (hb : b.isNaN = false) :
    a.compare? b = some (compare a.rank b.rank) := by
  rw [compare?, ha, hb]
  rfl

end EntityHistory.Double
