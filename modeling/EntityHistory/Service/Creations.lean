/-
Looking up creation times.

The creation times of an attribute are asked of the repository once and then remembered. What is remembered is
kept beside the store, and it only grows after the repository has answered. So when the repository fails,
nothing is remembered, and the next look-up asks again.
-/
import EntityHistory.Entity.Creation
import EntityHistory.Store.Repository

namespace EntityHistory

/-- The creation times remembered, for each entity and attribute. -/
abbrev Creations := List ((String × String) × List Instant)

/-- What is held while creation times are looked up. -/
structure Resolver (σ : Type) where
  known : Creations := []
  store : σ

namespace Resolver

variable {σ α : Type}

/-- Works on what is stored. -/
def onStore (action : Action σ α) : Action (Resolver σ) α := ExceptT.mk fun r =>
  let (result, store) := action.run.run r.store
  (result, { r with store })

/-- Works with what is remembered so far, and gives what is remembered in the end. -/
def runFrom (known : Creations) (action : Action (Resolver σ) α) : Action σ (α × Creations) :=
  ExceptT.mk fun store =>
    let (result, r) := action.run.run { known, store }
    (result.map (·, r.known), r.store)

/-- Remembers the creation times of an attribute. -/
def remember (entityId attributeId : String) (creations : List Instant) : Action (Resolver σ) Unit :=
  modify fun r => { r with known := ((entityId, attributeId), creations) :: r.known }

/-- The creation of an attribute that an instant belongs to. -/
def resolve (repository : Repository σ) (entityId attributeId : String) (t : Instant) :
    Action (Resolver σ) Instant := do
  match (← get).known.lookup (entityId, attributeId) with
  | some creations => pure (creationAt creations t)
  | none =>
    let creations ← onStore (repository.creationTimes entityId attributeId)
    remember entityId attributeId creations
    pure (creationAt creations t)

end Resolver

/-- A look-up for whoever keeps what is remembered. -/
def Creations.resolve {σ : Type} (repository : Repository σ) (known : Creations)
    (entityId attributeId : String) (t : Instant) : Action σ (Instant × Creations) :=
  Resolver.runFrom known (Resolver.resolve repository entityId attributeId t)

end EntityHistory
