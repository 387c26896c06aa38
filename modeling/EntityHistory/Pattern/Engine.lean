/-
Engines for patterns.

A query may ask whether a pattern occurs in a text. Which texts are patterns, and where they occur, is decided
by an engine, and nothing in the query language or in the stores depends on which one it is.
-/

namespace EntityHistory

/-- An engine reads patterns and looks for them in texts. -/
class PatternEngine where
  /-- A pattern as the engine has read it. -/
  Compiled : Type
  /-- The pattern that a text denotes, if it denotes one. -/
  compile? : List Char → Option Compiled
  /-- Whether a pattern occurs in a text. -/
  occursIn : Compiled → List Char → Bool

end EntityHistory
