/-
Patterns and what they match.

A pattern is read here as a function on sets of positions of a text: from the positions at which a match
may begin it gives the positions at which it may end. A set of positions is a number whose bit `i` stands
for the position before the character `i`. A sequence composes the functions, an alternative unites their
values, and a repetition iterates, so a search needs no backtracking and always ends. Which of several
matches is preferred plays no part: a search only says whether there is one.
-/
import EntityHistory.Pattern.CharSet

namespace EntityHistory

open Unicode (Ranges)

/-- A condition on a position that consumes no character. Word characters are those of every script when
`allScripts` holds, else those of ASCII. -/
inductive Anchor where
  | textStart
  | textEnd
  /-- At the start or after a line feed. -/
  | lineStart
  /-- At the end or before a line feed. -/
  | lineEnd
  /-- As `lineStart`, where a carriage return also ends a line and a return with its feed is one end. -/
  | lineStartAnyEnd
  /-- As `lineEnd`, where a carriage return also ends a line and a return with its feed is one end. -/
  | lineEndAnyEnd
  | wordBoundary (allScripts : Bool)
  | noWordBoundary (allScripts : Bool)
  | wordStart (allScripts : Bool)
  | wordEnd (allScripts : Bool)
  /-- No word character before the position. -/
  | wordStartHalf (allScripts : Bool)
  /-- No word character after the position. -/
  | wordEndHalf (allScripts : Bool)
deriving DecidableEq, Repr

/-- A pattern. -/
inductive Pattern where
  /-- Matches the empty text. -/
  | empty
  /-- Matches one character of a set. -/
  | oneOf (chars : Ranges)
  /-- Matches the empty text where the condition holds. -/
  | anchor (a : Anchor)
  | seq (first second : Pattern)
  | either (left right : Pattern)
  /-- Matches between `least` and `most` times in a row; without `most` there is no upper bound. -/
  | times (body : Pattern) (least : Nat) (most : Option Nat)
deriving DecidableEq, Repr

namespace Pattern

/-- The word characters of every script: letters, marks, digits, connectors and joiners. -/
def wordChars : Ranges :=
  Unicode.alphabetic ++ Unicode.categoryMn ++ Unicode.categoryMc ++ Unicode.categoryMe ++
    Unicode.decimalDigit ++ Unicode.categoryPc ++ [(0x200C, 0x200D)]

/-- The word characters of ASCII. -/
def asciiWordChars : Ranges := [(0x30, 0x39), (0x41, 0x5A), (0x5F, 0x5F), (0x61, 0x7A)]

/-- Whether the character beside a position is a word character; none stands beyond either end. -/
def isWord (allScripts : Bool) : Option Char → Bool
  | none => false
  | some c => (if allScripts then wordChars else asciiWordChars).contains c.toNat

/-- Whether a condition holds between two neighbouring characters. -/
def anchorHolds (a : Anchor) (before after : Option Char) : Bool :=
  match a with
  | .textStart => before.isNone
  | .textEnd => after.isNone
  | .lineStart => before.isNone || before == some '\n'
  | .lineEnd => after.isNone || after == some '\n'
  | .lineStartAnyEnd =>
    before.isNone || before == some '\n' || (before == some '\r' && after != some '\n')
  | .lineEndAnyEnd =>
    after.isNone || after == some '\r' || (after == some '\n' && before != some '\r')
  | .wordBoundary u => isWord u before != isWord u after
  | .noWordBoundary u => isWord u before == isWord u after
  | .wordStart u => !isWord u before && isWord u after
  | .wordEnd u => isWord u before && !isWord u after
  | .wordStartHalf u => !isWord u before
  | .wordEndHalf u => !isWord u after

/-- The positions of a text, each as the characters before and after it. -/
def neighbours (cs : List Char) : List (Option Char × Option Char) :=
  (none :: cs.map some).zip (cs.map some ++ [none])

/-- The set of the positions whose neighbours satisfy a condition. -/
def positionsWhere (at_ : List (Option Char × Option Char))
    (holds : Option Char → Option Char → Bool) : Nat :=
  at_.foldr (fun (before, after) set => 2 * set + (if holds before after then 1 else 0)) 0

/-- The positions at which a match can end that begins at one of `starts`. -/
def ends (text : List (Option Char × Option Char)) : Pattern → Nat → Nat
  | .empty, starts => starts
  | .oneOf chars, starts =>
    (starts &&& positionsWhere text fun _ after => after.any fun c => chars.contains c.toNat) <<< 1
  | .anchor a, starts => starts &&& positionsWhere text (anchorHolds a)
  | .seq first second, starts => ends text second (ends text first starts)
  | .either left right, starts => ends text left starts ||| ends text right starts
  | .times body least most, starts =>
    let required := Nat.repeat (fun set => ends text body set) least starts
    -- further rounds than there are characters reach no new position
    let rounds := match most with
      | some most => min (most - least) text.length
      | none => text.length
    Nat.repeat (fun set => set ||| ends text body set) rounds required

/-- Whether a text holds a match of the pattern anywhere. -/
def occursIn (p : Pattern) (cs : List Char) : Bool :=
  let text := neighbours cs
  p.ends text (positionsWhere text fun _ _ => true) != 0

/-- About how many states recognize one character of a range byte by byte. The last two bytes of a character
have states of their own, and so has every further length of encoding that occurs in the range. -/
def rangeWeight (low high : Nat) : Nat :=
  if high ≤ 0x7F then 0
  else 2 + 9 * ((Char.ofNat high).utf8Size - (Char.ofNat low).utf8Size)

/-- About how many automaton states the pattern expands to. -/
def weight : Pattern → Nat
  | .empty => 1
  | .oneOf chars => max 1 (chars.canonical.map fun (low, high) => rangeWeight low high).sum
  | .anchor _ => 1
  | .seq first second => first.weight + second.weight
  | .either left right => left.weight + right.weight + 1
  | .times body least most =>
    match most with
    | some most => least * body.weight + (most - least) * (body.weight + 1) + 1
    | none => max least 1 * body.weight + 2

end Pattern

end EntityHistory
