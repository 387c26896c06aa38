/-
Reading time queries.

The parts of a time query are texts: the relation, which may be written in capitals, one or two timestamps,
and the name of the time property, which is the observation time unless another is named.
-/
import EntityHistory.Error

namespace EntityHistory

/-- The relation that a text names, in small letters or capitals. -/
def TimeRelation.ofText (text : String) : Except Error TimeRelation :=
  match text.map Char.toLower with
  | "before" => pure .before
  | "after" => pure .after
  | "between" => pure .between
  | name => throw (.invalidTimeRelation (.unknownRelation name))

/-- The time property that a text names. -/
def TimeProperty.ofText (text : String) : Except QueryFault TimeProperty :=
  match TimeProperty.ofName? text with
  | some property => pure property
  | none => throw (.unsupportedTimeProperty text)

/-- The instant that a text in a parameter denotes. -/
def readTime (parameter text : String) : Except QueryFault Instant :=
  match Instant.read text.toList with
  | .ok t => pure t
  | .error fault => throw (.notATimestamp parameter text fault)

/-- Reads a time query from the texts of its parts. -/
def TimeQuery.ofTexts (timerel time endTime timeproperty : Option String) (inclusive : Bool) :
    Except Error TimeQuery := do
  let relation ← timerel.mapM TimeRelation.ofText
  let time ← (time.mapM (readTime "time") : Except QueryFault _)
  let endTime ← (endTime.mapM (readTime "endTime") : Except QueryFault _)
  let property ← (timeproperty.mapM TimeProperty.ofText : Except QueryFault _)
  TimeQuery.ofParts relation time endTime (property.getD .observedAt) inclusive

end EntityHistory
