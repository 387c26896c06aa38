/-
Quoted strings and cuts outside them.

A quoted string stands between double quotes; inside it a backslash takes the next character as it is.
`quote` writes a text so that `unquote` reads it back. `cutOutside` cuts at the occurrences of a separator
that stand outside quotes. It walks the encoded bytes of the text and looks for the separator at each byte
outside quotes, so a character of more than one byte that stands there is cut in its middle: the walk then
has no answer.
-/
import EntityHistory.Text.Pieces

namespace EntityHistory.Text

/-- Where a scan from the left stands with respect to quoted strings. -/
inductive Quoting where
  /-- Outside every quoted string. -/
  | outside
  /-- Inside a quoted string. -/
  | inside
  /-- Inside a quoted string, just after a backslash. -/
  | escaped
deriving DecidableEq, Repr

/-- The position after one more character. -/
def Quoting.next : Quoting → Char → Quoting
  | .outside, c => if c = '"' then .inside else .outside
  | .inside, c => if c = '\\' then .escaped else if c = '"' then .outside else .inside
  | .escaped, _ => .inside

/-- The position after a whole text. -/
def Quoting.after (q : Quoting) (cs : List Char) : Quoting := cs.foldl Quoting.next q

@[simp] theorem Quoting.after_nil (q : Quoting) : q.after [] = q := rfl

@[simp] theorem Quoting.after_cons (q : Quoting) (c : Char) (cs : List Char) :
    q.after (c :: cs) = (q.next c).after cs := rfl

theorem Quoting.after_append (q : Quoting) (cs ds : List Char) :
    q.after (cs ++ ds) = (q.after cs).after ds := by
  simp [after]

/-- Whether a text begins with one double quote and ends with another. -/
def isQuoted (cs : List Char) : Bool :=
  2 ≤ cs.length && cs.head? == some '"' && cs.getLast? == some '"'

/-- The text with a backslash before each quote and each backslash. -/
def escape : List Char → List Char
  | [] => []
  | c :: cs => if c = '"' ∨ c = '\\' then '\\' :: c :: escape cs else c :: escape cs

/-- The quoted form of a text. -/
def quote (cs : List Char) : List Char := '"' :: escape cs ++ ['"']

/-- Undoes `escape`; a lone quote or a backslash at the end is refused. -/
def unescape : List Char → Option (List Char)
  | [] => some []
  | [c] => if c = '\\' ∨ c = '"' then none else some [c]
  | c :: d :: cs =>
    if c = '\\' then (unescape cs).map (d :: ·)
    else if c = '"' then none
    else (unescape (d :: cs)).map (c :: ·)

/-- The text that a quoted string stands for. -/
def unquote (cs : List Char) : Option (List Char) :=
  match cs with
  | '"' :: rest => if rest.getLast? = some '"' then unescape rest.dropLast else none
  | _ => none

/-- What is left of a text after a separator at its start; an empty separator is never found. -/
def afterSeparator (separator cs : List Char) : Option (List Char) :=
  if separator = [] then none else afterPhrase separator cs

theorem length_lt_of_afterSeparator {separator cs rest : List Char}
    (h : afterSeparator separator cs = some rest) : rest.length < cs.length := by
  unfold afterSeparator at h
  split at h
  · simp at h
  · rename_i hne
    obtain rfl := afterPhrase_eq_some_iff.1 h
    have : separator.length ≠ 0 := by simpa using hne
    simp only [List.length_append]
    omega

/-- The list of pieces with one more character at the start of the first. -/
def growFirst (c : Char) : List (List Char) → List (List Char)
  | [] => [[c]]
  | piece :: rest => (c :: piece) :: rest

/-- The pieces of a text between the separators outside quotes, from a given position in the quoting on.
There is none when a character of several bytes stands outside quotes and starts no separator. -/
def cutOutsideFrom (separator : List Char) : Quoting → List Char → Option (List (List Char))
  | _, [] => some [[]]
  | q, c :: cs =>
    if q = .outside ∧ c ≠ '"' then
      match _found : afterSeparator separator (c :: cs) with
      | some rest => (cutOutsideFrom separator .outside rest).map ([] :: ·)
      | none =>
        if c.toNat < 128 then (cutOutsideFrom separator .outside cs).map (growFirst c) else none
    else (cutOutsideFrom separator (q.next c) cs).map (growFirst c)
termination_by _ cs => cs.length
decreasing_by
  · exact length_lt_of_afterSeparator _found
  · simp
  · simp

/-- The pieces of a text between the separators outside quotes. -/
def cutOutside (separator cs : List Char) : Option (List (List Char)) :=
  cutOutsideFrom separator .outside cs

end EntityHistory.Text
