/-
Bounding the size of results.

A response holds so many attribute instances in all. The governor divides this number among the attributes
of all entities. A request for the last instances of each attribute may ask for less than that share. One
that asks for no number fetches an instance more than its share, to see whether any are left out.
-/
namespace EntityHistory

/-- The number of instances that each attribute of a response may have. -/
structure InstanceBudget where
  perAttribute : Nat
  /-- Whether more instances were asked for than there may be. -/
  limited : Bool
  /-- Whether one instance more is fetched. -/
  probes : Bool
deriving DecidableEq, Repr

namespace InstanceBudget

/-- The number of instances to fetch for each attribute, within 32 bits. -/
def fetchLimit (b : InstanceBudget) : Nat :=
  if b.probes then min (b.perAttribute + 1) (UInt32.size - 1) else b.perAttribute

/-- Whether so many fetched instances of an attribute are too many. -/
def isExceededBy (b : InstanceBudget) (fetched : Nat) : Bool := b.perAttribute < fetched

end InstanceBudget

/-- The share of each attribute in a number of instances. -/
def share (ceiling : UInt32) (entities attributes : Nat) : Nat :=
  max ceiling.toNat 1 / (max entities 1 * max attributes 1)

/-- The budget of a response with so many entities and attributes. -/
def budget (ceiling : UInt32) (lastN : Option UInt32) (entities attributes : Nat) : InstanceBudget :=
  let share := share ceiling entities attributes
  match lastN with
  | some n =>
    { perAttribute := max (min n.toNat share) 1, limited := share < n.toNat, probes := false }
  | none => { perAttribute := max share 1, limited := false, probes := true }

end EntityHistory
