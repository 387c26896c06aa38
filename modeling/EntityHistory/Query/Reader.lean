/-
Reading queries.

A query is a comparison such as `speed>=20`, or queries with `;` (and) or `|` (or) between them, where
parentheses group. Connectors and parentheses inside quoted strings are text. A comparison is a path, an
operator and a literal; a path is an attribute with possibly a sub-attribute and a field of the system, as in
`speed.accuracy.observedAt`, or with the members of a compound value in brackets, as in `address[city]`.
-/
import EntityHistory.Context.Names
import EntityHistory.Query.Literal

namespace EntityHistory.QueryTerm

open Text (Quoting growFirst)

/-- What is wrong with the nesting of a query. -/
inductive NestingFault where
  | unbalanced
  | unterminated
deriving DecidableEq, Repr

/-- The text up to the parenthesis that closes the innermost of `depth` open ones and all around it, and
what follows that parenthesis. -/
def untilClosed (depth : Nat) (q : Quoting) : List Char → Option (List Char × List Char)
  | [] => none
  | c :: cs =>
    let grow (rest : Option (List Char × List Char)) := rest.map fun (inner, after) => (c :: inner, after)
    if q = .outside ∧ c = '(' then grow (untilClosed (depth + 1) q cs)
    else if q = .outside ∧ c = ')' then
      if depth ≤ 1 then some ([], cs) else grow (untilClosed (depth - 1) q cs)
    else grow (untilClosed depth (q.next c) cs)

/-- The inside of a text that stands in one pair of parentheses as a whole. -/
def parenthesized : List Char → Option (List Char)
  | '(' :: cs =>
    match untilClosed 1 .outside cs with
    | some (inner, []) => some inner
    | _ => none
  | _ => none

/-- The pieces of a query between the connectors that stand outside quotes and parentheses, and these
connectors, from a given depth of parentheses and position in the quoting on. -/
def cutFrom (depth : Nat) (q : Quoting) :
    List Char → Except NestingFault (List (List Char) × List Connector)
  | [] =>
    if q ≠ .outside then throw .unterminated
    else if depth ≠ 0 then throw .unbalanced
    else pure ([[]], [])
  | c :: cs =>
    let grow (rest : Except NestingFault (List (List Char) × List Connector)) :=
      rest.map fun (pieces, connectors) => (growFirst c pieces, connectors)
    if q = .outside ∧ c = '(' then grow (cutFrom (depth + 1) q cs)
    else if q = .outside ∧ c = ')' then
      if depth = 0 then throw .unbalanced else grow (cutFrom (depth - 1) q cs)
    else
      match Connector.ofChar? c with
      | some connector =>
        if q = .outside ∧ depth = 0 then
          (cutFrom depth q cs).map fun (pieces, connectors) => ([] :: pieces, connector :: connectors)
        else grow (cutFrom depth (q.next c) cs)
      | none => grow (cutFrom depth (q.next c) cs)

/-- The pieces of a query between its outermost connectors, and these connectors. -/
def cut (cs : List Char) : Except NestingFault (List (List Char) × List Connector) :=
  cutFrom 0 .outside cs

/-- The operator at the start of a text, the longest there is, and what follows it. -/
def operatorAt (cs : List Char) : Option (Operator × List Char) :=
  Operator.all.findSome? fun o => (Text.afterPhrase o.symbol.toList cs).map fun rest => (o, rest)

/-- The first operator outside brackets and before any quote, with the texts before and after it. -/
def cutOperator (depth : Nat) : List Char → Option (List Char × Operator × List Char)
  | [] => none
  | c :: cs =>
    let grow (rest : Option (List Char × Operator × List Char)) :=
      rest.map fun (before, o, after) => (c :: before, o, after)
    if c = '[' then grow (cutOperator (depth + 1) cs)
    else if c = ']' then grow (cutOperator (depth - 1) cs)
    else if c = '"' then none
    else if depth = 0 then
      match operatorAt (c :: cs) with
      | some (o, after) => some ([], o, after)
      | none => grow (cutOperator depth cs)
    else grow (cutOperator depth cs)

/-- The keys between brackets, each bracket with one key or several with dots between them; `text` is what
is reported if there is a fault, and `inside` says that a bracket is open with a part of a key read. -/
def compoundKeysFrom (inside : Option (List Char)) : List Char → Option (List (List Char))
  | [] => if inside.isNone then some [] else none
  | c :: cs =>
    match inside with
    | none => if c = '[' then compoundKeysFrom (some []) cs else none
    | some read =>
      if c = ']' then
        let parts := Text.pieces '.' read
        if parts.contains [] then none else (compoundKeysFrom none cs).map (parts ++ ·)
      else compoundKeysFrom (some (read ++ [c])) cs

/-- The keys between brackets. -/
def compoundKeys (brackets : List Char) : Except QueryFault (List String) :=
  match compoundKeysFrom none brackets with
  | some keys => pure (keys.map String.ofList)
  | none => throw (.invalidCompoundPath (String.ofList brackets))

/-- A path as it is written: its names are still to be expanded. -/
structure Path where
  attributeName : String
  subAttributeName : Option String
  target : ValueTarget
deriving DecidableEq, Repr

/-- The segments of the part of a path before its brackets; an address has one. -/
def pathSegments (name : List Char) : List (List Char) :=
  if Text.mentions "://".toList name then [name] else Text.pieces '.' name

/-- The path that segments and the keys in brackets make. -/
def pathOf (segments : List String) (keys : Option (List String)) : Option Path :=
  let named : Option (String × Option String × Option ValueTarget) := match segments with
    | [name] => some (name, none, none)
    | [name, second] =>
      match ValueTarget.system? second with
      | some target => some (name, none, some target)
      | none => some (name, some second, none)
    | [name, sub, third] => (ValueTarget.system? third).map fun target => (name, some sub, some target)
    | _ => none
  match named, keys with
  | some (_, _, some _), some _ => none
  | some (name, sub, some target), none => some ⟨name, sub, target⟩
  | some (name, sub, none), some keys => some ⟨name, sub, .compoundKey keys⟩
  | some (name, sub, none), none => some ⟨name, sub, .value⟩
  | none, _ => none

/-- Reads a path. -/
def readPath (path : List Char) : Except QueryFault Path := do
  let invalid : QueryFault := .invalidPath (String.ofList path)
  if path = [] ∨ path.any fun c => c = '(' ∨ c = ')' ∨ c = '"' ∨ c = ' ' then throw invalid
  let name := path.takeWhile (· ≠ '[')
  let brackets := path.dropWhile (· ≠ '[')
  let keys ← if brackets = [] then pure none else some <$> compoundKeys brackets
  let segments := pathSegments name
  if segments.contains [] then throw invalid
  match pathOf (segments.map String.ofList) keys with
  | some path => pure path
  | none => throw invalid

/-- Expands the names of a path. -/
def Path.expand (p : Path) (context : Context) : Except ExpansionFault (String × Option String) := do
  let attributeId ← context.expand p.attributeName
  match p.subAttributeName with
  | none => pure (attributeId, none)
  | some name => pure (attributeId, some (← context.expand name))

/-- Reads a comparison. -/
def readComparison [PatternEngine] (context : Context) (raw : List Char) : Outcome Comparison :=
  match cutOperator 0 raw with
  | none => refuse (.noOperator (String.ofList raw))
  | some (before, operator, after) => do
    let path ← (readPath (Text.trim before) : Except QueryFault _)
    let (attributeId, subAttribute) ← (path.expand context : Except ExpansionFault _)
    let value ← QueryValue.ofLiteral path.target after
    (operator.check value path.target : Except QueryFault _)
    pure { attributeId, subAttribute, target := path.target, operator, value }

theorem length_untilClosed {depth : Nat} {q : Quoting} {cs inner after : List Char}
    (h : untilClosed depth q cs = some (inner, after)) : inner.length + after.length < cs.length := by
  induction cs generalizing depth q inner with
  | nil => simp [untilClosed] at h
  | cons c cs ih =>
    simp only [untilClosed] at h
    repeat' split at h
    all_goals
      first
      | (simp only [Option.map_eq_some_iff, Prod.exists, Prod.mk.injEq] at h
         obtain ⟨i, a, hi, rfl, rfl⟩ := h
         have := ih hi
         simp only [List.length_cons]
         omega)
      | (simp only [Option.some.injEq, Prod.mk.injEq] at h
         obtain ⟨rfl, rfl⟩ := h
         simp)

theorem length_parenthesized {cs inner : List Char} (h : parenthesized cs = some inner) :
    inner.length < cs.length := by
  unfold parenthesized at h
  split at h
  · split at h
    · rename_i hu
      simp only [Option.some.injEq] at h
      subst h
      have := length_untilClosed hu
      simp only [List.length_cons]
      omega
    · simp at h
  · simp at h

/-- The number of characters of some pieces together. -/
def totalLength : List (List Char) → Nat
  | [] => 0
  | piece :: pieces => piece.length + totalLength pieces

theorem totalLength_growFirst (c : Char) (pieces : List (List Char)) :
    totalLength (growFirst c pieces) = totalLength pieces + 1 := by
  cases pieces with
  | nil => rfl
  | cons piece pieces =>
    simp only [growFirst, totalLength, List.length_cons]
    omega

theorem length_le_totalLength {piece : List Char} {pieces : List (List Char)} (h : piece ∈ pieces) :
    piece.length ≤ totalLength pieces := by
  induction pieces with
  | nil => simp at h
  | cons first rest ih =>
    rw [totalLength]
    rcases List.mem_cons.1 h with rfl | h
    · exact Nat.le_add_right _ _
    · exact Nat.le_trans (ih h) (Nat.le_add_left _ _)

/-- The pieces of a query and its connectors together are as long as the query. -/
theorem length_cutFrom {depth : Nat} {q : Quoting} {cs : List Char} {pieces : List (List Char)}
    {connectors : List Connector} (h : cutFrom depth q cs = .ok (pieces, connectors)) :
    totalLength pieces + connectors.length = cs.length := by
  induction cs generalizing depth q pieces connectors with
  | nil =>
    simp only [cutFrom] at h
    repeat' split at h
    all_goals cases h
    rfl
  | cons c cs ih =>
    have grown : ∀ {depth q}, (cutFrom depth q cs).map (fun (p, k) => (growFirst c p, k)) =
        .ok (pieces, connectors) → totalLength pieces + connectors.length = (c :: cs).length := by
      intro depth q h
      cases hc : cutFrom depth q cs with
      | error fault => simp [hc, Except.map] at h
      | ok result =>
        simp only [hc, Except.map, Except.ok.injEq, Prod.mk.injEq] at h
        obtain ⟨rfl, rfl⟩ := h
        have := ih hc
        rw [totalLength_growFirst, List.length_cons]
        omega
    simp only [cutFrom] at h
    split at h
    · exact grown h
    · split at h
      · split at h
        · cases h
        · exact grown h
      · split at h
        · split at h
          · cases hc : cutFrom depth q cs with
            | error fault => simp [hc, Except.map] at h
            | ok result =>
              simp only [hc, Except.map, Except.ok.injEq, Prod.mk.injEq] at h
              obtain ⟨rfl, rfl⟩ := h
              have := ih hc
              simp only [totalLength, List.length_cons, List.length_nil] at this ⊢
              omega
          · exact grown h
        · exact grown h

theorem length_lt_of_cut {cs piece : List Char} {pieces : List (List Char)}
    {connectors : List Connector} (h : cut cs = .ok (pieces, connectors)) (hne : connectors ≠ [])
    (hp : piece ∈ pieces) : piece.length < cs.length := by
  have := length_cutFrom h
  have := length_le_totalLength hp
  have := List.length_pos_iff.2 hne
  omega

/-- Reads a query in a context. -/
def read [PatternEngine] (context : Context) (text : List Char) : Outcome QueryTerm :=
  if Text.trim text = [] then refuse .emptyTerm
  else
    match _inner : parenthesized (Text.trim text) with
    | some inner => read context inner
    | none =>
      match _pieces : cut (Text.trim text) with
      | .error .unbalanced => refuse (.unbalanced (String.ofList (Text.trim text)))
      | .error .unterminated => refuse (.unterminated (String.ofList (Text.trim text)))
      | .ok (_, []) => .comparison <$> readComparison context (Text.trim text)
      | .ok (pieces, c :: connectors) => do
        let terms ← pieces.attach.mapM fun ⟨piece, _⟩ => read context piece
        pure (.logical terms (c :: connectors))
termination_by text.length
decreasing_by
  · exact Nat.lt_of_lt_of_le (length_parenthesized _inner) (Text.length_trim_le _)
  · exact Nat.lt_of_lt_of_le (length_lt_of_cut _pieces (by simp) ‹_›) (Text.length_trim_le _)

/-- Reads a query in a context. -/
def ofText [PatternEngine] (context : Context) (text : String) : Outcome QueryTerm := read context text.toList

end EntityHistory.QueryTerm
