/-
Reading patterns.

The written form: characters stand for themselves; `.`, bracketed sets, escapes and named properties for
sets of characters; `^`, `$` and `\b` for conditions on a position; parentheses group, `|` separates
alternatives, and `?`, `*`, `+` and counts in braces repeat. Flags such as `(?i)` hold to the end of their
group. There is no looking ahead or behind and no reference to an earlier group: a text that asks for them
is no pattern, nor is one whose syntax tree is higher than 250 layers or that expands to more states than an
automaton of ten million bytes holds.
-/
import EntityHistory.Pattern.Basic
import EntityHistory.Pattern.CharSet
import EntityHistory.Pattern.Engine
import EntityHistory.Unicode.Scripts
import EntityHistory.Text.Blank

namespace EntityHistory.Pattern

open Unicode (Ranges)

/-- The flags in force at a place of a pattern. -/
structure Flags where
  /-- Characters match without regard to case. -/
  anyCase : Bool := false
  /-- `^` and `$` match at line ends. -/
  multiLine : Bool := false
  /-- `.` matches a line feed too. -/
  dotAll : Bool := false
  /-- Sets of characters reach beyond ASCII. -/
  allScripts : Bool := true
  /-- A carriage return ends a line. -/
  anyLineEnd : Bool := false
  /-- White space and comments in the pattern are skipped. -/
  spaced : Bool := false
  /-- Greedy and sparing repetition change places; a search does not tell them apart. -/
  sparing : Bool := false
deriving DecidableEq, Repr

/-- A set of characters as it is matched under the flags: with the other case added if case is disregarded,
and then complemented if the set is written negatively. Outside the flag for all scripts a complement
would match a part of a character, so there is none. -/
def setUnder (flags : Flags) (negated : Bool) (set : Ranges) : Option Ranges :=
  let folded :=
    if !flags.anyCase then set
    else if flags.allScripts then set.foldCase
    else (set.foldCase).inter [(0, 0x7F)]
  if !negated then some folded
  else if flags.allScripts then some folded.complement
  else none

/-- What one escape denotes. -/
inductive Escape where
  | char (c : Nat)
  | set (set : Ranges)
  | anchor (a : Anchor)
deriving Repr

/-- A code point in hexadecimal digits: exactly `count` of them, or any number between braces. -/
def readHex (count : Nat) (cs : List Char) : Option (Nat × List Char) :=
  let checked (n : Nat) (rest : List Char) :=
    if n.isValidChar then some (n, rest) else none
  match cs with
  | '\x7b' :: rest => do
    let (digits, rest) ← Text.cutOnce '\x7d' rest
    checked (← Unicode.hexValue? digits) rest
  | _ => do
    if cs.length < count then none
    checked (← Unicode.hexValue? (cs.take count)) (cs.drop count)

/-- The set that a property in braces denotes: a category, a script or a property of its own, or one of
them after `name=` or `name:`, with `!=` and a leading `^` for the complement. -/
def propertySet (name : List Char) : Option (Bool × Ranges) :=
  let (inverse, name) := match name with
    | '^' :: rest => (true, rest)
    | _ => (false, name)
  let split := match Text.cutPhrase ['!', '='] name with
    | some (key, value) => some (true, key, value)
    | none =>
      match Text.cutOnce ':' name with
      | some (key, value) => some (false, key, value)
      | none => (Text.cutOnce '=' name).map fun (key, value) => (false, key, value)
  match split with
  | none =>
    let loose := Unicode.looseName name
    let short := if loose.startsWith "is" then (loose.drop 2).toString else loose
    let found := fun n =>
      (Unicode.category? n).orElse fun _ => (Unicode.property? n).orElse fun _ => Unicode.script? n
    ((found loose).orElse fun _ => found short).map fun set => (inverse, set)
  | some (unequal, key, value) =>
    let key := Unicode.looseName key
    let value := Unicode.looseName value
    let set :=
      if key = "gc" ∨ key = "generalcategory" then Unicode.category? value
      else if key = "sc" ∨ key = "script" ∨ key = "scx" ∨ key = "scriptextensions" then
        Unicode.script? value
      else none
    set.map fun set => (inverse != unequal, set)

/-- Reads an escape, from the character after the backslash on. -/
def readEscape (flags : Flags) (cs : List Char) : Option (Escape × List Char) :=
  let named (negated : Bool) (all ascii : Ranges) (rest : List Char) :=
    (setUnder { flags with anyCase := false } negated (if flags.allScripts then all else ascii)).map
      fun set => (Escape.set set, rest)
  let asciiSpace : Ranges := [(9, 13), (0x20, 0x20)]
  match cs with
  | [] => none
  | c :: rest =>
    match c with
    | 'a' => some (.char 7, rest)
    | 'f' => some (.char 12, rest)
    | 't' => some (.char 9, rest)
    | 'n' => some (.char 10, rest)
    | 'r' => some (.char 13, rest)
    | 'v' => some (.char 11, rest)
    | 'x' => (readHex 2 rest).map fun (n, rest) => (.char n, rest)
    | 'u' => (readHex 4 rest).map fun (n, rest) => (.char n, rest)
    | 'U' => (readHex 8 rest).map fun (n, rest) => (.char n, rest)
    | 'd' => named false Unicode.decimalDigit [(0x30, 0x39)] rest
    | 'D' => named true Unicode.decimalDigit [(0x30, 0x39)] rest
    | 's' => named false Unicode.whiteSpace asciiSpace rest
    | 'S' => named true Unicode.whiteSpace asciiSpace rest
    | 'w' => named false wordChars asciiWordChars rest
    | 'W' => named true wordChars asciiWordChars rest
    | 'A' => some (.anchor .textStart, rest)
    | 'z' => some (.anchor .textEnd, rest)
    | '<' => some (.anchor (.wordStart flags.allScripts), rest)
    | '>' => some (.anchor (.wordEnd flags.allScripts), rest)
    | 'B' => some (.anchor (.noWordBoundary flags.allScripts), rest)
    | 'b' =>
      match rest with
      | '\x7b' :: after =>
        match Text.cutOnce '\x7d' after with
        | none => some (.anchor (.wordBoundary flags.allScripts), rest)
        | some (name, after) =>
          if name.all fun c => c.isAlpha || c == '-' then
            match String.ofList name with
            | "start" => some (.anchor (.wordStart flags.allScripts), after)
            | "end" => some (.anchor (.wordEnd flags.allScripts), after)
            | "start-half" => some (.anchor (.wordStartHalf flags.allScripts), after)
            | "end-half" => some (.anchor (.wordEndHalf flags.allScripts), after)
            | _ => none
          else some (.anchor (.wordBoundary flags.allScripts), rest)
      | _ => some (.anchor (.wordBoundary flags.allScripts), rest)
    | 'p' | 'P' => do
      if !flags.allScripts then none
      let (name, rest) ← match rest with
        | '\x7b' :: rest => Text.cutOnce '\x7d' rest
        | letter :: rest => some ([letter], rest)
        | [] => none
      let (inverse, set) ← propertySet name
      let set ← setUnder flags (inverse != (c == 'P')) set
      pure (.set set, rest)
    | c => if c.toNat < 128 && !c.isAlphanum then some (.char c.toNat, rest) else none

/-- The sets of ASCII that have a name of their own inside brackets. -/
def asciiSet? : String → Option Ranges
  | "alnum" => some [(0x30, 0x39), (0x41, 0x5A), (0x61, 0x7A)]
  | "alpha" => some [(0x41, 0x5A), (0x61, 0x7A)]
  | "ascii" => some [(0, 0x7F)]
  | "blank" => some [(9, 9), (0x20, 0x20)]
  | "cntrl" => some [(0, 0x1F), (0x7F, 0x7F)]
  | "digit" => some [(0x30, 0x39)]
  | "graph" => some [(0x21, 0x7E)]
  | "lower" => some [(0x61, 0x7A)]
  | "print" => some [(0x20, 0x7E)]
  | "punct" => some [(0x21, 0x2F), (0x3A, 0x40), (0x5B, 0x60), (0x7B, 0x7E)]
  | "space" => some [(9, 13), (0x20, 0x20)]
  | "upper" => some [(0x41, 0x5A)]
  | "word" => some asciiWordChars
  | "xdigit" => some [(0x30, 0x39), (0x41, 0x46), (0x61, 0x66)]
  | _ => none

/-- Reads a named set of ASCII, such as `[:alpha:]` or `[:^alpha:]`. -/
def readAsciiSet (flags : Flags) (cs : List Char) : Option (Ranges × List Char) := do
  let after ← Text.afterPhrase ['[', ':'] cs
  let (name, rest) ← Text.cutPhrase [':', ']'] after
  let (negated, name) := match name with
    | '^' :: name => (true, name)
    | _ => (false, name)
  let set ← asciiSet? (String.ofList name)
  pure ((← setUnder flags negated set), rest)

/-- How two sets are combined inside brackets. -/
inductive SetOp where
  | inter
  | diff
  | symmDiff
deriving DecidableEq, Repr

def SetOp.apply : SetOp → Ranges → Ranges → Ranges
  | .inter, a, b => a.inter b
  | .diff, a, b => a.diff b
  | .symmDiff, a, b => a.symmDiff b

/-- The height of the syntax tree whose parts stand side by side, last first: a part alone makes no layer. -/
def heightOf : List Nat → Nat
  | [] => 0
  | [height] => height
  | heights => 1 + heights.foldl max 0

/-- A bracketed set that is still open: whether it is negated, the operand and operation that wait for
their right side with the height of the operand, and the members read since then with the height of each. -/
structure OpenSet where
  negated : Bool
  pending : Option (Ranges × SetOp × Nat) := none
  members : Ranges := []
  heights : List Nat := []
deriving Repr

/-- The value of the members so far, combined with what waits for them. -/
def OpenSet.value (s : OpenSet) (flags : Flags) : Option Ranges := do
  let right ← setUnder flags false s.members
  pure (match s.pending with
    | some (left, op, _) => op.apply left right
    | none => right)

/-- The height of the members so far, combined with what waits for them. -/
def OpenSet.height (s : OpenSet) : Nat :=
  match s.pending with
  | some (_, _, left) => 1 + max left (heightOf s.heights)
  | none => heightOf s.heights

/-- One more member, or a set of them, of the given height. -/
def OpenSet.add (s : OpenSet) (set : Ranges) (height : Nat) : OpenSet :=
  { s with members := s.members ++ set, heights := height :: s.heights }

/-- White space and comments, where the flags say to skip them. -/
def skipSpace (flags : Flags) (cs : List Char) : List Char :=
  if !flags.spaced then cs else skip false cs
where
  skip : Bool → List Char → List Char
    | _, [] => []
    | true, c :: cs => if c = '\n' then skip false cs else skip true cs
    | false, c :: cs =>
      if Text.isBlank c then skip false cs else if c = '#' then skip true cs else c :: cs

/-- Reads what follows an opening bracket: a caret for the complement, and a hyphen or a closing bracket
that stands for itself because it comes first. -/
def readSetOpening (flags : Flags) (cs : List Char) : OpenSet × List Char :=
  let cs := skipSpace flags cs
  let (negated, cs) := match cs with
    | '^' :: rest => (true, skipSpace flags rest)
    | _ => (false, cs)
  let hyphens := cs.takeWhile (· == '-')
  match hyphens, cs.dropWhile (· == '-') with
  | [], ']' :: rest => (({ negated } : OpenSet).add [(0x5D, 0x5D)] 0, rest)
  | [], cs => ({ negated }, cs)
  | hyphens, cs => ({ negated, members := [(0x2D, 0x2D)], heights := hyphens.map fun _ => 0 }, cs)

/-- Reads one member of a bracketed set: a character, or a set of its own. -/
def readSetMember (flags : Flags) : List Char → Option (Escape × List Char)
  | [] => none
  | '\\' :: rest =>
    match readEscape flags rest with
    | some (.anchor _, _) => none
    | result => result
  | c :: rest => some (.char c.toNat, rest)

/-- Reads a member or a range of characters. -/
def readSetRange (flags : Flags) (cs : List Char) : Option (Ranges × List Char) := do
  let (first, rest) ← readSetMember flags cs
  let rest := skipSpace flags rest
  let single : Ranges := match first with
    | .char n => [(n, n)]
    | .set set => set
    | .anchor _ => []
  match rest with
  | [] => none
  | '-' :: after =>
    match skipSpace flags after with
    | [] => none
    | ']' :: _ => pure (single, rest)
    | '-' :: _ => pure (single, rest)
    | after =>
      let (last, rest) ← readSetMember flags after
      match first, last with
      | .char low, .char high => if low ≤ high then pure ([(low, high)], rest) else none
      | _, _ => none
  | _ => pure (single, rest)

/-- One step inside brackets: the open sets, innermost first, after the next piece of text; the finished
set and its height when the outermost bracket closes. -/
def setStep (flags : Flags) (inner : OpenSet) (outer : List OpenSet) (cs : List Char) :
    Option ((OpenSet × List OpenSet ⊕ Ranges × Nat) × List Char) :=
  let operation (op : SetOp) (rest : List Char) := do
    let value ← inner.value flags
    pure (.inl ({ negated := inner.negated, pending := some (value, op, inner.height) }, outer), rest)
  match skipSpace flags cs with
  | [] => none
  | '[' :: rest =>
    match readAsciiSet flags ('[' :: rest) with
    | some (set, rest) => some (.inl (inner.add set 0, outer), rest)
    | none =>
      let (nested, rest) := readSetOpening flags rest
      some (.inl (nested, inner :: outer), rest)
  | ']' :: rest => do
    let value ← inner.value flags
    let value ← if inner.negated then setUnder { flags with anyCase := false } true value
      else some value
    match outer with
    | [] => pure (.inr (value, 1 + inner.height), rest)
    | next :: outer => pure (.inl (next.add value (1 + inner.height), outer), rest)
  | '&' :: '&' :: rest => operation .inter rest
  | '-' :: '-' :: rest => operation .diff rest
  | '~' :: '~' :: rest => operation .symmDiff rest
  | cs => (readSetRange flags cs).map fun (set, rest) => (.inl (inner.add set 0, outer), rest)

/-- Reads a bracketed set up to its closing bracket; it comes with its height. -/
def readSet (flags : Flags) (inner : OpenSet) (outer : List OpenSet) (cs : List Char) :
    Option ((Ranges × Nat) × List Char) :=
  match setStep flags inner outer cs with
  | none => none
  | some (.inr set, rest) => some (set, rest)
  | some (.inl (inner, outer), rest) =>
    -- every step takes at least one character
    if rest.length < cs.length then readSet flags inner outer rest else none
termination_by cs.length

/-- A part of an alternative, with the height of its syntax tree. A part that only sets flags holds no
pattern. -/
structure Part where
  pattern? : Option Pattern
  height : Nat
deriving Repr

/-- A group that is still open: the flags that hold again after it, the finished alternatives and the
parts of the current one, both last first. -/
structure OpenGroup where
  flagsAfter : Flags := {}
  alternatives : List (List Part) := []
  parts : List Part := []
deriving Repr

/-- The parts of an alternative in sequence. -/
def sequence (parts : List Part) : Pattern :=
  match parts.reverse.filterMap (·.pattern?) with
  | [] => .empty
  | first :: rest => rest.foldl Pattern.seq first

/-- The pattern of a group whose last alternative is complete. -/
def OpenGroup.pattern (g : OpenGroup) : Pattern :=
  g.alternatives.foldl (fun right left => .either (sequence left) right) (sequence g.parts)

/-- The height of the syntax tree inside a group whose last alternative is complete. -/
def OpenGroup.height (g : OpenGroup) : Nat :=
  heightOf ((g.parts :: g.alternatives).map fun parts => heightOf (parts.map (·.height)))

/-- The state of reading: the flags in force, the innermost open group, the groups around it, and the
group names given so far. -/
structure Reading where
  flags : Flags := {}
  group : OpenGroup := {}
  outer : List OpenGroup := []
  names : List (List Char) := []
deriving Repr

namespace Reading

/-- One more part in the current alternative. -/
def add (r : Reading) (pattern? : Option Pattern) (height : Nat) : Reading :=
  { r with group := { r.group with parts := { pattern?, height } :: r.group.parts } }

/-- Repeats the last part; there must be one. -/
def repeatLast (r : Reading) (least : Nat) (most : Option Nat) : Option Reading :=
  match r.group.parts with
  | { pattern? := some p, height } :: parts =>
    some ({ r with group := { r.group with parts } }.add (some (.times p least most)) (1 + height))
  | _ => none

end Reading

/-- Reads flags up to the colon or parenthesis that ends them; a flag may occur once. -/
def readFlags (flags : Flags) (on : Bool) (seen : List Char) : List Char →
    Option (Flags × Bool × List Char)
  | [] => none
  | ':' :: rest => if seen.head? = some '-' then none else some (flags, true, rest)
  | ')' :: rest => if seen.head? = some '-' ∨ seen = [] then none else some (flags, false, rest)
  | '-' :: rest => if on then readFlags flags false ('-' :: seen) rest else none
  | c :: rest =>
    if seen.contains c then none
    else
      match c with
      | 'i' => readFlags { flags with anyCase := on } on (c :: seen) rest
      | 'm' => readFlags { flags with multiLine := on } on (c :: seen) rest
      | 's' => readFlags { flags with dotAll := on } on (c :: seen) rest
      | 'U' => readFlags { flags with sparing := on } on (c :: seen) rest
      | 'u' => readFlags { flags with allScripts := on } on (c :: seen) rest
      | 'R' => readFlags { flags with anyLineEnd := on } on (c :: seen) rest
      | 'x' => readFlags { flags with spaced := on } on (c :: seen) rest
      | _ => none

/-- Whether a group may bear the name. -/
def isGroupName (name : List Char) : Bool :=
  match name with
  | [] => false
  | c :: rest =>
    (c == '_' || Unicode.alphabetic.contains c.toNat) &&
      rest.all fun c => c == '_' || c == '.' || c == '[' || c == ']' || Unicode.isAlphanumeric c

/-- Opens a group, from the character after its parenthesis on. -/
def openGroup (r : Reading) (cs : List Char) : Option (Reading × List Char) :=
  let opened (r : Reading) (flags : Flags) : Reading :=
    { r with flags, group := { flagsAfter := r.flags }, outer := r.group :: r.outer }
  let named (rest : List Char) : Option (Reading × List Char) := do
    let (name, rest) ← Text.cutOnce '>' rest
    if isGroupName name && !r.names.contains name then
      pure (opened { r with names := name :: r.names } r.flags, rest)
    else none
  match skipSpace r.flags cs with
  | '?' :: 'P' :: '<' :: rest => named rest
  | '?' :: '<' :: '=' :: _ => none
  | '?' :: '<' :: '!' :: _ => none
  | '?' :: '<' :: rest => named rest
  | '?' :: rest => do
    let (flags, isGroup, rest) ← readFlags r.flags true [] rest
    pure (if isGroup then opened r flags else { r with flags }.add none 0, rest)
  | cs => some (opened r r.flags, cs)

/-- Reads the digits of a count and the white space around them. -/
def readCount (cs : List Char) : Option (Nat × List Char) :=
  let cs := Text.trimStart cs
  let digits := cs.takeWhile Char.isDigit
  let n := digits.foldl (fun n c => 10 * n + (c.toNat - '0'.toNat)) 0
  if digits = [] ∨ Nat.pow 2 32 ≤ n then none
  else some (n, Text.trimStart (cs.dropWhile Char.isDigit))

/-- Reads the counts of a repetition, from the character after its brace on. -/
def readCounts (cs : List Char) : Option (Nat × Option Nat × List Char) := do
  let (least, rest) ← readCount cs
  match rest with
  | '\x7d' :: rest => pure (least, some least, rest)
  | ',' :: rest =>
    match Text.trimStart rest with
    | '\x7d' :: rest => pure (least, none, rest)
    | rest =>
      let (most, rest) ← readCount rest
      match rest with
      | '\x7d' :: rest => if least ≤ most then pure (least, some most, rest) else none
      | _ => none
  | _ => none

/-- The text after a question mark that makes a repetition sparing; a search is the same either way. -/
def skipSparing : List Char → List Char
  | '?' :: rest => rest
  | cs => cs

/-- One step of reading: the state after the next piece of text. -/
def step (r : Reading) (cs : List Char) : Option (Reading × List Char) :=
  match skipSpace r.flags cs with
  | [] => some (r, [])
  | '(' :: rest => openGroup r rest
  | ')' :: rest =>
    match r.outer with
    | [] => none
    | group :: outer =>
      let closed := { r with flags := r.group.flagsAfter, group, outer }
      some (closed.add (some r.group.pattern) (1 + r.group.height), rest)
  | '|' :: rest =>
    let g := r.group
    some ({ r with group := { g with alternatives := g.parts :: g.alternatives, parts := [] } }, rest)
  | '[' :: rest => do
    let (inner, rest) := readSetOpening r.flags rest
    let ((set, height), rest) ← readSet r.flags inner [] rest
    pure (r.add (some (.oneOf set)) height, rest)
  | '?' :: rest => (r.repeatLast 0 (some 1)).map fun r => (r, skipSparing rest)
  | '*' :: rest => (r.repeatLast 0 none).map fun r => (r, skipSparing rest)
  | '+' :: rest => (r.repeatLast 1 none).map fun r => (r, skipSparing rest)
  | '\x7b' :: rest => do
    let (least, most, rest) ← readCounts rest
    pure ((← r.repeatLast least most), skipSparing rest)
  | '.' :: rest =>
    if !r.flags.allScripts then none
    else
      let lineEnds : Ranges :=
        if r.flags.dotAll then [] else if r.flags.anyLineEnd then [(10, 10), (13, 13)] else [(10, 10)]
      some (r.add (some (.oneOf (Ranges.complement lineEnds))) 0, rest)
  | '^' :: rest =>
    let a := if !r.flags.multiLine then Anchor.textStart
      else if r.flags.anyLineEnd then .lineStartAnyEnd else .lineStart
    some (r.add (some (.anchor a)) 0, rest)
  | '$' :: rest =>
    let a := if !r.flags.multiLine then Anchor.textEnd
      else if r.flags.anyLineEnd then .lineEndAnyEnd else .lineEnd
    some (r.add (some (.anchor a)) 0, rest)
  | '\\' :: rest => do
    let (escape, rest) ← readEscape r.flags rest
    match escape with
    | .char n => pure (r.add (some (.oneOf (← setUnder r.flags false [(n, n)]))) 0, rest)
    | .set set => pure (r.add (some (.oneOf set)) 0, rest)
    | .anchor a => pure (r.add (some (.anchor a)) 0, rest)
  | c :: rest => do
    pure (r.add (some (.oneOf (← setUnder r.flags false [(c.toNat, c.toNat)]))) 0, rest)

/-- Reads to the end of the text. -/
def readAll (r : Reading) (cs : List Char) : Option Reading :=
  match cs with
  | [] => some r
  | c :: cs =>
    match step r (c :: cs) with
    | none => none
    | some (r, rest) =>
      -- every step takes at least one character
      if _shorter : rest.length < (c :: cs).length then readAll r rest else none
termination_by cs.length
decreasing_by exact _shorter

/-- The number of states that an automaton of ten million bytes holds. -/
def stateLimit : Nat := 327680

/-- The number of layers that the syntax tree of a pattern may have. -/
def heightLimit : Nat := 250

/-- The pattern that a text denotes. -/
def ofText? (cs : List Char) : Option Pattern := do
  let r ← readAll {} cs
  if !r.outer.isEmpty then none
  let p := r.group.pattern
  if r.group.height ≤ heightLimit ∧ p.weight ≤ stateLimit then some p else none

/-- Patterns as they are read here. -/
instance : PatternEngine where
  Compiled := Pattern
  compile? := ofText?
  occursIn := occursIn

end EntityHistory.Pattern
