/-
Following references between context documents.

Starting from a list of addresses, each document is fetched once, its references are followed before it
takes its place, and they are followed for eight steps at most. How a document is fetched is a parameter, and
so is what happens besides: it may be loaded directly, or be taken from a cache.
-/
import EntityHistory.Context.Names

namespace EntityHistory

/-- A computation on a state that may end in an error; the state is kept in either case. -/
abbrev Action (σ : Type) := ExceptT Error (StateM σ)

/-- The documents gathered so far, in their order of effect, and the addresses met so far. -/
structure Gathered where
  documents : List Document := []
  seen : List String := []
deriving Repr, Inhabited

/-- How many documents may stand in a chain of references. -/
def longestChain : Nat := 9

variable {m : Type → Type} [Monad m] [MonadExceptOf Error m]

/-- Gathers the document at an address after those that it refers to, when so many documents may still
stand in the chain. -/
def gather (fetch : String → m Document) : Nat → Gathered → String → m Gathered
  | 0, _, url => throw (.contextUnavailable (.importsTooDeep url))
  | depth + 1, g, url =>
    if g.seen.contains url then pure g
    else do
      let document ← fetch url
      let g ← document.imports.foldlM (gather fetch depth) { g with seen := url :: g.seen }
      pure { g with documents := g.documents ++ [document] }

/-- The context of several addresses, in their order. -/
def gatherAll (fetch : String → m Document) (urls : List String) : m Context := do
  let g ← urls.foldlM (gather fetch longestChain) {}
  pure (.ofDocuments g.documents)

end EntityHistory
