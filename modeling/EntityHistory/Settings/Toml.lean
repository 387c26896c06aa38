/-
Settings in files.

A file of settings is written in TOML 1.0: lines with a key and a value, under headers that name groups. A key
may be a path. A group is defined once at most: by a header, by keys that are paths, or between braces. A file
is read into a draft, whose groups remember how they came about, and the draft then gives a tree of settings.
Dates and times are read as groups without members, since no setting is one.
-/
import EntityHistory.Number.Reading
import EntityHistory.Settings.Tree
import EntityHistory.Settings.Written
import EntityHistory.Text.Pieces
import EntityHistory.Time.Reading

namespace EntityHistory.Toml

open Written

/-! ### Lines -/

def isSpace (c : Char) : Bool := c == ' ' || c == '\t'

/-- Skips a comment. -/
def skipComment : List Char → List Char
  | '#' :: rest => rest.dropWhile fun c => !isControl c
  | cs => cs

/-- What follows a line end. -/
def newline? : List Char → Option (List Char)
  | '\n' :: rest => some rest
  | '\r' :: '\n' :: rest => some rest
  | _ => none

/-- What follows the end of a line of which nothing is left but white space and a comment. -/
def lineEnd? (cs : List Char) : Option (List Char) :=
  match skipComment (cs.dropWhile isSpace) with
  | [] => some []
  | rest => newline? rest

theorem length_skipComment (cs : List Char) : (skipComment cs).length ≤ cs.length := by
  unfold skipComment
  split
  · exact Nat.le_succ_of_le (List.dropWhile_suffix _).length_le
  · exact Nat.le_refl _

theorem length_newline? {cs rest : List Char} (h : newline? cs = some rest) :
    rest.length < cs.length := by
  unfold newline? at h
  split at h
  · obtain rfl := Option.some.inj h
    exact Nat.lt_succ_self _
  · obtain rfl := Option.some.inj h
    exact Nat.lt_succ_of_lt (Nat.lt_succ_self _)
  · exact absurd h (by simp)

/-- Skips white space, comments and line ends. -/
def skipLines (cs : List Char) : List Char :=
  match _found : newline? (skipComment (cs.dropWhile isSpace)) with
  | some rest => skipLines rest
  | none => skipComment (cs.dropWhile isSpace)
termination_by cs.length
decreasing_by
  have h₁ := length_newline? _found
  have h₂ := length_skipComment (cs.dropWhile isSpace)
  have h₃ : (cs.dropWhile isSpace).length ≤ cs.length := (List.dropWhile_suffix _).length_le
  omega

/-! ### Texts -/

/-- Reads a text between single quotes, which has no escapes, after the opening quote. -/
def literal (cs : List Char) : Option (List Char × List Char) :=
  match cs.dropWhile fun c => c ≠ '\'' && !isControl c with
  | '\'' :: rest => some (cs.takeWhile fun c => c ≠ '\'' && !isControl c, rest)
  | _ => none

/-- Reads a text between three quotes, after the opening ones. The closing quotes are the last three of at
most five. After a backslash at the end of a line the white space is skipped up to the next character. -/
def longText (quote : Char) : Nat → List Char → Option (List Char × List Char)
  | 0, _ => none
  | fuel + 1, cs =>
    let more (c : Char) (rest : List Char) : Option (List Char × List Char) :=
      (longText quote fuel rest).map fun (s, rest) => (c :: s, rest)
    match Text.afterPhrase [quote, quote, quote] cs, newline? cs, cs with
    | some rest, _, _ =>
      let extra := (rest.take 2).takeWhile (· = quote)
      some (extra, rest.drop extra.length)
    | none, some rest, _ => more '\n' rest
    | none, none, c :: rest =>
      if c = '\\' ∧ quote = '"' then
        match newline? (rest.dropWhile isSpace) with
        | some after => longText quote fuel (after.dropWhile fun c => isSpace c || c == '\n' || c == '\r')
        | none => (escaped rest).bind fun (c, rest) => more c rest
      else if isControl c then none
      else more c rest
    | none, none, [] => none

/-- Reads a text between one or three quotes of a kind; a line end right after three is left out. -/
def text? (cs : List Char) : Option (List Char × List Char) :=
  let long (quote : Char) (rest : List Char) : Option (List Char × List Char) :=
    longText quote (cs.length + 1) ((newline? rest).getD rest)
  match cs with
  | '"' :: '"' :: '"' :: rest => long '"' rest
  | '\'' :: '\'' :: '\'' :: rest => long '\'' rest
  | '"' :: rest => quoted rest
  | '\'' :: rest => literal rest
  | _ => none

/-! ### Keys -/

def isBareKey (c : Char) : Bool := c.isAlphanum || c == '_' || c == '-'

/-- Reads one part of a key. -/
def keyPart : List Char → Option (List Char × List Char)
  | '"' :: rest => quoted rest
  | '\'' :: rest => literal rest
  | cs => if cs.takeWhile isBareKey = [] then none else some (cs.takeWhile isBareKey, cs.dropWhile isBareKey)

/-- Reads a key, whose parts have points between them. -/
def key : Nat → List Char → Option (List String × List Char)
  | 0, _ => none
  | fuel + 1, cs => do
    let (part, rest) ← keyPart (cs.dropWhile isSpace)
    match rest.dropWhile isSpace with
    | '.' :: rest =>
      let (path, rest) ← key fuel rest
      pure (String.ofList part :: path, rest)
    | rest => pure ([String.ofList part], rest)

/-! ### Numbers, truth values and times -/

/-- Digits of some kind, with single underscores between them if the writer likes, without those. -/
def digits (isOne : Char → Bool) (cs : List Char) : Option (List Char) :=
  let parts := Text.pieces '_' cs
  if parts.all fun part => part ≠ [] && part.all isOne then some parts.flatten else none

/-- The value of digits in a base. -/
def valueIn (base : Nat) (digits : List Char) : Nat :=
  digits.foldl (fun n c => base * n + (Unicode.hexDigit? c).getD 0) 0

/-- A sign, if there is one, and what follows it. -/
def sign : List Char → Bool × List Char
  | '-' :: rest => (true, rest)
  | '+' :: rest => (false, rest)
  | cs => (false, cs)

/-- Decimal digits without needless zeros in front. -/
def decimal (cs : List Char) : Option Nat := do
  let ds ← digits Char.isDigit cs
  if ds.head? = some '0' ∧ 1 < ds.length then none else pure (digitsValue ds)

/-- A whole number of 64 bits. -/
def integer? (cs : List Char) : Option SettingTree := do
  let n : Int ← match cs with
    | '0' :: 'x' :: rest =>
      (digits (fun c => (Unicode.hexDigit? c).isSome) rest).map fun ds => (valueIn 16 ds : Int)
    | '0' :: 'o' :: rest =>
      (digits (fun c => '0' ≤ c && c ≤ '7') rest).map fun ds => (valueIn 8 ds : Int)
    | '0' :: 'b' :: rest =>
      (digits (fun c => c == '0' || c == '1') rest).map fun ds => (valueIn 2 ds : Int)
    | _ =>
      let (negative, unsigned) := sign cs
      (decimal unsigned).map fun n => if negative then -(n : Int) else n
  if -(Nat.pow 2 63) ≤ n ∧ n < Nat.pow 2 63 then pure (.integer n) else none

/-- Whether a text is a number with a fraction or an exponent, or the name of one that is not finite. -/
def isReal (cs : List Char) : Bool :=
  let (_, unsigned) := sign cs
  let isExponent (c : Char) : Bool := c == 'e' || c == 'E'
  let mantissa := unsigned.takeWhile fun c => !isExponent c
  let wellFormed : Bool := match unsigned.dropWhile fun c => !isExponent c with
    | [] => mantissa.contains '.'
    | _ :: power => (digits Char.isDigit (sign power).2).isSome
  let whole := mantissa.takeWhile (· ≠ '.')
  let fractional : Bool := match mantissa.dropWhile (· ≠ '.') with
    | [] => true
    | _ :: fraction => (digits Char.isDigit fraction).isSome
  unsigned = "inf".toList || unsigned = "nan".toList ||
    (wellFormed && (decimal whole).isSome && fractional)

/-- Whether a text is a date, a time of day, or both with or without an offset. -/
def isMoment (cs : List Char) : Bool :=
  (Date.ofText? cs).isSome || (cs.head?.any Char.isDigit && (TimeOfDay.ofText? cs).isSome) ||
    (Instant.ofText? cs).isSome || (Instant.ofText? (cs ++ ['Z'])).isSome

/-- The characters of which numbers, truth values and times are made. -/
def isPlain (c : Char) : Bool := isBareKey c || c == '+' || c == '.' || c == ':'

/-- Reads a number, a truth value or a time. A date may be followed by a space and a time. -/
def plain (cs : List Char) : Option (SettingTree × List Char) := do
  let word := cs.takeWhile isPlain
  let rest := cs.dropWhile isPlain
  let (word, rest) := match rest with
    | ' ' :: d :: more =>
      if d.isDigit && (Date.ofText? word).isSome then
        (word ++ 'T' :: (d :: more).takeWhile isPlain, (d :: more).dropWhile isPlain)
      else (word, rest)
    | _ => (word, rest)
  let value ←
    if word = "true".toList then some (.flag true)
    else if word = "false".toList then some (.flag false)
    else if isMoment word then some (.group [])
    else if isReal word then some .real
    else integer? word
  pure (value, rest)

/-! ### Groups -/

/-- How a group came about. -/
inductive Origin where
  /-- As part of the path of a header. -/
  | implied
  /-- As part of a key. -/
  | keyed
  /-- By a header of its own. -/
  | headed
deriving DecidableEq, Repr

/-- An entry of a draft: a value, a group, or a list of groups of which each has a header; the last one
stands first. -/
inductive Entry where
  | value (t : SettingTree)
  | group (origin : Origin) (members : List (String × Entry))
  | groups (members : List (List (String × Entry)))
deriving Repr

/-- The members of a group in a draft. -/
abbrev Draft := Named Entry

mutual

/-- The tree that an entry gives. -/
def Entry.tree : Entry → SettingTree
  | .value t => t
  | .group _ members => .group (membersTree members)
  | .groups groups => .list (groupsTree groups).reverse

/-- The trees of the members of a group. -/
def membersTree : List (String × Entry) → List (String × SettingTree)
  | [] => []
  | (name, entry) :: rest => (name, entry.tree) :: membersTree rest

/-- The trees of some groups. -/
def groupsTree : List (List (String × Entry)) → List SettingTree
  | [] => []
  | members :: rest => .group (membersTree members) :: groupsTree rest

end

namespace Draft

/-- The draft with the group at a path changed; groups on the path that are missing are made. A key may not
reach into a group that has a header, and the group it ends in has to come from a key. -/
def alter (inKey : Bool) (change : Draft → Option Draft) : List String → Draft → Option Draft
  | [], d => change d
  | name :: path, d =>
    let put (entry : Entry) : Draft := Named.insert name entry d
    match Named.get? d name with
    | none => (alter inKey change path []).map fun members =>
      put (.group (if inKey then .keyed else .implied) members)
    | some (.value _) => none
    | some (.group origin members) =>
      if inKey ∧ (origin = .headed ∨ (path = [] ∧ origin ≠ .keyed)) then none
      else (alter inKey change path members).map fun members => put (.group origin members)
    | some (.groups []) => none
    | some (.groups (last :: earlier)) =>
      if inKey ∧ path = [] then none
      else (alter inKey change path last).map fun members => put (.groups (members :: earlier))

/-- The draft with the value of a key that has none yet. -/
def define (path : List String) (t : SettingTree) (d : Draft) : Option Draft :=
  let add (d : Draft) : Option Draft := do
    let name ← path.getLast?
    if (Named.get? d name).isSome then none else pure (Named.insert name (.value t) d)
  alter true add path.dropLast d

/-- The draft with a group that gets a header. -/
def head (path : List String) (d : Draft) : Option Draft :=
  let add (d : Draft) : Option Draft := do
    let name ← path.getLast?
    match Named.get? d name with
    | none => pure (Named.insert name (.group .headed []) d)
    | some (.group .implied members) => pure (Named.insert name (.group .headed members) d)
    | some _ => none
  alter false add path.dropLast d

/-- The draft with one more group in the list of groups at a path. -/
def append (path : List String) (d : Draft) : Option Draft :=
  let add (d : Draft) : Option Draft := do
    let name ← path.getLast?
    match Named.get? d name with
    | none => pure (Named.insert name (.groups [[]]) d)
    | some (.groups groups) => pure (Named.insert name (.groups ([] :: groups)) d)
    | some _ => none
  alter false add path.dropLast d

end Draft

/-! ### Values and files -/

mutual

/-- Reads a value. -/
def value : Nat → List Char → Option (SettingTree × List Char)
  | 0, _ => none
  | fuel + 1, cs =>
    match cs with
    | '[' :: rest => (items fuel rest).map fun (ts, rest) => (.list ts, rest)
    | '\x7b' :: rest =>
      match rest.dropWhile isSpace with
      | '\x7d' :: rest => some (.group [], rest)
      | rest => (members fuel [] rest).map fun (d, rest) => (.group (membersTree d), rest)
    | '"' :: _ => (text? cs).map fun (s, rest) => (.text (String.ofList s), rest)
    | '\'' :: _ => (text? cs).map fun (s, rest) => (.text (String.ofList s), rest)
    | _ => plain cs

/-- Reads the items of a list up to its end. -/
def items : Nat → List Char → Option (List SettingTree × List Char)
  | 0, _ => none
  | fuel + 1, cs =>
    match skipLines cs with
    | ']' :: rest => some ([], rest)
    | cs => do
      let (t, rest) ← value fuel cs
      match skipLines rest with
      | ',' :: rest =>
        let (ts, rest) ← items fuel rest
        pure (t :: ts, rest)
      | ']' :: rest => pure ([t], rest)
      | _ => none

/-- Reads the members of a group between braces up to its end. -/
def members : Nat → Draft → List Char → Option (Draft × List Char)
  | 0, _, _ => none
  | fuel + 1, d, cs => do
    let (d, rest) ← member fuel d cs
    match rest.dropWhile isSpace with
    | ',' :: rest => members fuel d rest
    | '\x7d' :: rest => pure (d, rest)
    | _ => none

/-- Reads a key and its value. -/
def member : Nat → Draft → List Char → Option (Draft × List Char)
  | 0, _, _ => none
  | fuel + 1, d, cs => do
    let (path, rest) ← key (cs.length + 1) cs
    match rest with
    | '=' :: rest =>
      let (t, rest) ← value fuel (rest.dropWhile isSpace)
      pure (← d.define path t, rest)
    | _ => none

end

/-- Reads a header after its opening brackets, up to the closing ones. -/
def header (closing cs : List Char) : Option (List String × List Char) := do
  let (path, rest) ← key (cs.length + 1) cs
  let rest ← Text.afterPhrase closing rest
  pure (path, ← lineEnd? rest)

/-- Reads the lines of a file into a draft; `current` is the path of the last header. -/
def lines : Nat → Draft → List String → List Char → Option Draft
  | 0, _, _, _ => none
  | fuel + 1, d, current, cs =>
    match skipLines cs with
    | [] => some d
    | '[' :: '[' :: rest => do
      let (path, rest) ← header [']', ']'] rest
      lines fuel (← d.append path) path rest
    | '[' :: rest => do
      let (path, rest) ← header [']'] rest
      lines fuel (← d.head path) path rest
    | cs => do
      let (path, rest) ← key (cs.length + 1) cs
      match rest with
      | '=' :: rest =>
        let (t, rest) ← value (2 * rest.length + 2) (rest.dropWhile isSpace)
        lines fuel (← Draft.alter false (Draft.define path t) current d) current (← lineEnd? rest)
      | _ => none

end EntityHistory.Toml

namespace EntityHistory

/-- The tree of settings that a file holds. -/
def SettingTree.ofFile? (content : String) : Option SettingTree := do
  let cs := match content.toList with
    | '\uFEFF' :: rest => rest
    | cs => cs
  pure (.group (Toml.membersTree (← Toml.lines (cs.length + 1) [] [] cs)))

end EntityHistory
