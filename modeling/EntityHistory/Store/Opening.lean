/-
Opening the store.

The settings say where the log is kept: in memory, where it begins empty, or in a database that has to be
reached first. How a database is reached is a parameter, and it may fail. The engine for patterns is the one
of this library.
-/
import EntityHistory.Pattern.Reader
import EntityHistory.Settings.Basic
import EntityHistory.Store.Memory

namespace EntityHistory

/-- A repository together with its present state. -/
structure Store where
  σ : Type
  repository : Repository σ
  state : σ

namespace Store

/-- An empty log in memory. -/
def inMemory : Store := ⟨Log, Log.repository, {}⟩

/-- The store that the settings ask for. -/
def ofSettings? (connect : DatabaseSettings → Option Store) (s : DatabaseSettings) : Option Store :=
  match s.backend with
  | .memory => some inMemory
  | .postgres => connect s

end Store

end EntityHistory
