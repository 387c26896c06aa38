/-
The order of instants.

Instants are linearly ordered by their ticks, so that the general facts about linear orders, least and
greatest elements hold of them.
-/
import Mathlib.Data.String.Basic
import Mathlib.Order.MinMax
import Mathlib.Tactic.Order
import EntityHistory.Time.Instant

namespace EntityHistory.Instant

lemma ext_ticks {a b : Instant} (h : a.ticks = b.ticks) : a = b := by
  cases a
  cases b
  simpa using h

lemma compare_eq_compareOfLessAndEq (a b : Instant) : compare a b = compareOfLessAndEq a b := by
  have h : compare a b = compareOfLessAndEq a.ticks b.ticks := by
    have hthen : compare a b = (compare a.ticks b.ticks).then .eq := rfl
    rw [hthen, Ordering.then_eq]
    rfl
  have heq : a.ticks = b.ticks ↔ a = b := ⟨ext_ticks, congrArg ticks⟩
  rw [h]
  simp only [compareOfLessAndEq, heq]
  rfl

instance : LinearOrder Instant where
  le_refl a := Int.le_refl a.ticks
  le_trans _ _ _ h h' := Int.le_trans h h'
  le_antisymm _ _ h h' := ext_ticks (Int.le_antisymm h h')
  le_total a b := Int.le_total a.ticks b.ticks
  lt_iff_le_not_ge _ _ := Int.lt_iff_le_and_not_ge
  toDecidableLE := inferInstance
  toDecidableLT := inferInstance
  toDecidableEq := inferInstance
  compare_eq_compareOfLessAndEq := compare_eq_compareOfLessAndEq

end EntityHistory.Instant
