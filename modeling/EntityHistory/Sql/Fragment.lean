/-
Statements with parameters.

A fragment of a statement is fixed text and values. When a fragment is rendered, each value gives way to a
placeholder, and the placeholders are numbered from left to right, so a fragment can be put into any other
one. The text of a statement thus never holds a value. A statement can be read back: where its text has a
placeholder for one of its values, the value takes its place again, so that a fragment that was rendered by
itself can be put into another one as well.
-/
import EntityHistory.Json.Basic
import EntityHistory.Number.Reading
import EntityHistory.Time.Instant

namespace EntityHistory.Sql

/-- A value of one of the types that statements exchange with a database; each type has a null of its own. -/
inductive Value where
  | string (s : Option String)
  | bigint (n : Option Int)
  | double (d : Option Double)
  | bool (b : Option Bool)
  | timestamptz (t : Option Instant)
  | date (d : Option Date)
  | time (t : Option TimeOfDay)
  | json (j : Option Json)
deriving Repr, Inhabited

namespace Value

def ofString (s : String) : Value := .string (some s)

def ofNat (n : Nat) : Value := .bigint (some n)

def ofInstant (t : Instant) : Value := .timestamptz (some t)

end Value

/-- A part of a statement. -/
inductive Piece where
  | text (s : String)
  | bind (v : Value)
deriving Repr

/-- A fragment of a statement. -/
abbrev Fragment := List Piece

/-- A statement: its text with placeholders, and the values for them in the order of their numbers. -/
structure Statement where
  sql : String
  values : List Value
deriving Repr

/-- Fixed text as a fragment. -/
def text (s : String) : Fragment := [.text s]

/-- A value as a fragment. -/
def bind (v : Value) : Fragment := [.bind v]

namespace Fragment

/-- Fragments with a text between neighbours. -/
def separated (separator : String) : List Fragment → Fragment
  | [] => []
  | [f] => f
  | f :: fs => f ++ text separator ++ separated separator fs

/-- Values with commas between them. -/
def bindList (values : List Value) : Fragment := separated ", " (values.map Sql.bind)

/-- The values of a fragment in order. -/
def values : Fragment → List Value
  | [] => []
  | .text _ :: rest => values rest
  | .bind v :: rest => v :: values rest

/-- The text of a fragment when so many placeholders stand before it. -/
def textFrom (placeholders : Nat) : Fragment → String
  | [] => ""
  | .text s :: rest => s ++ textFrom placeholders rest
  | .bind _ :: rest => "$" ++ toString (placeholders + 1) ++ textFrom (placeholders + 1) rest

/-- A text in front of a fragment; it joins a text that the fragment begins with. -/
def prependText (s : String) : Fragment → Fragment
  | .text s' :: rest => .text (s ++ s') :: rest
  | f => .text s :: f

end Fragment

namespace Statement

/-- A statement that goes on with a fragment, whose placeholders follow those of the statement. -/
def continuedBy (s : Statement) (f : Fragment) : Statement :=
  ⟨s.sql ++ f.textFrom s.values.length, s.values ++ f.values⟩

/-- What stands in the text of a statement: a character, or a placeholder with the digits of its number. -/
inductive Mark where
  | character (c : Char)
  | placeholder (digits : List Char)
deriving DecidableEq, Repr

/-- What stands in a text. A placeholder takes all digits that follow its sign. -/
def marks : List Char → List Mark
  | [] => []
  | c :: cs =>
    if c = '$' then
      .placeholder (cs.takeWhile Char.isDigit) :: (marks cs).drop (cs.takeWhile Char.isDigit).length
    else .character c :: marks cs

/-- The value that the digits of a placeholder stand for; the numbers begin at one. -/
def valueAt (values : List Value) (digits : List Char) : Option Value :=
  if digits = [] ∨ digitsValue digits = 0 then none else values[digitsValue digits - 1]?

/-- The fragment of what stands in a text, with values for the placeholders that have one. Others are text. -/
def fill (values : List Value) : List Mark → Fragment
  | [] => []
  | .character c :: rest => (fill values rest).prependText (String.singleton c)
  | .placeholder digits :: rest =>
    match valueAt values digits with
    | some v => .bind v :: fill values rest
    | none => (fill values rest).prependText (String.ofList ('$' :: digits))

/-- The fragment that a statement reads as. -/
def fragment (s : Statement) : Fragment := fill s.values (marks s.sql.toList)

end Statement

namespace Fragment

/-- The statement that a fragment makes. -/
def render (f : Fragment) : Statement := Statement.continuedBy ⟨"", []⟩ f

/-- A fragment that is rendered by itself and read back. -/
def respliced (f : Fragment) : Fragment := f.render.fragment

theorem values_append (f g : Fragment) : values (f ++ g) = values f ++ values g := by
  induction f with
  | nil => rfl
  | cons p f ih => cases p <;> simp [values, ih]

/-- The placeholders of the second fragment follow those of the first. -/
theorem textFrom_append (n : Nat) (f g : Fragment) :
    textFrom n (f ++ g) = textFrom n f ++ textFrom (n + (values f).length) g := by
  induction f generalizing n with
  | nil => simp [textFrom, values]
  | cons p f ih =>
    cases p with
    | text s => simp [textFrom, values, ih, String.append_assoc]
    | bind v =>
      simp [textFrom, values, ih, String.append_assoc, Nat.add_assoc, Nat.add_comm 1]

end Fragment

end EntityHistory.Sql
