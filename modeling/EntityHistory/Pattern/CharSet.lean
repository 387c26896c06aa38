/-
Sets of characters in patterns.

The operations that a bracketed set of a pattern may combine its members with. They work on ranges in
ascending order without overlap, into which `canonical` brings any list of ranges.
-/
import EntityHistory.Unicode.CaseFolding
import EntityHistory.Unicode.Categories

namespace EntityHistory.Unicode.Ranges

/-- One more range before others in canonical form, united with those that it touches. -/
def mergeInto (low high : Nat) : Ranges → Ranges
  | [] => [(low, high)]
  | (low', high') :: rest =>
    if low' ≤ high + 1 then mergeInto low (max high high') rest else (low, high) :: (low', high') :: rest

/-- Ascending ranges that neither overlap nor touch, with the same members. -/
def canonical (ranges : Ranges) : Ranges :=
  (ranges.mergeSort fun a b => a.1 ≤ b.1).foldr (fun (low, high) rest => mergeInto low high rest) []

/-- The code points that are not members. -/
def complement (ranges : Ranges) : Ranges := gaps 0 ranges.canonical

/-- The common members of two sets. -/
def inter (a b : Ranges) : Ranges :=
  canonical <| a.flatMap fun (low, high) =>
    b.filterMap fun (low', high') =>
      if max low low' ≤ min high high' then some (max low low', min high high') else none

/-- The members of the first set that are not members of the second. -/
def diff (a b : Ranges) : Ranges := inter a b.complement

/-- The members of exactly one of two sets. -/
def symmDiff (a b : Ranges) : Ranges := canonical (diff a b ++ diff b a)

end EntityHistory.Unicode.Ranges
