/-
Reading queries between byte positions.

The reader walks over the characters of a query and takes it apart on the way. It may as well count the bytes that it
passes and take slices between the positions that it remembers: where a parenthesis closes, where a piece begins and
ends, where an operator or a bracket stands. All these positions are at the boundaries of characters and in their
order, and none is taken back beyond the start. So each slice is there, and what is read is the same. Only the cut
outside quotes looks at every byte, and it has no answer where the walk over the characters has none.

* `QueryTerm.readAt`: the reader that takes slices, without an answer if one of them is not there;
* `QueryTerm.parenthesizedAt_eq`, `QueryTerm.cutAt_eq`, `QueryTerm.operatorPosition_eq`, `QueryTerm.readPathAt_eq`,
  `QueryValue.ofLiteralAt_eq`: its parts have the answers of the walks;
* `QueryTerm.readAt_eq_read`: it reads every query as the reader does.
-/
import Mathlib.Data.Nat.PSub
import EntityHistory.Proofs.Query.Path
import EntityHistory.Proofs.Query.Reading
import EntityHistory.Proofs.Text.Exposed

namespace EntityHistory

open Text (Quoting slice? size position? trim)

/-- Without a slice there is no answer. -/
def sliced {α : Type} : Option α → Outcome α
  | some a => pure a
  | none => throw .cutInsideCharacter

/-! ### Specification -/

/-- The value that a literal denotes. Its body is cut byte by byte, after the brackets of a list have been taken
off. -/
def QueryValue.ofLiteralAt (target : ValueTarget) (text : List Char) : Outcome QueryValue :=
  let raw := trim text
  if raw = [] then refuse .missingValue
  else if raw.head? = some '[' ∧ raw.getLast? = some ']' ∧ 2 ≤ size raw then do
    let stop ← sliced (size raw).ppred
    let inner ← sliced (slice? raw 1 stop)
    let parts ← sliced (Text.cutBytes ",".toList inner .outside 0 0)
    let values ← (scalars target raw parts : Except QueryFault _)
    let value ← (listOf raw values : Except QueryFault _)
    pure value
  else do
    let parts ← sliced (Text.cutBytes "..".toList raw .outside 0 0)
    let value ← (ofParts target raw parts : Except QueryFault _)
    pure value

namespace QueryTerm

/-- The position of the parenthesis that closes the innermost of `depth` open ones and all around it. -/
def closingAt (depth : Nat) (q : Quoting) (index : Nat) : List Char → Option Nat
  | [] => none
  | c :: cs =>
    if q = .outside ∧ c = '(' then closingAt (depth + 1) q (index + c.utf8Size) cs
    else if q = .outside ∧ c = ')' then
      if depth - 1 = 0 then some index else closingAt (depth - 1) q (index + c.utf8Size) cs
    else closingAt depth (q.next c) (index + c.utf8Size) cs

/-- The inside of a text that stands in one pair of parentheses as a whole: they are the first and the last byte. -/
def parenthesizedAt (raw : List Char) : Option (Option (List Char)) :=
  if raw.head? = some '(' ∧ raw.getLast? = some ')' then
    match closingAt 0 .outside 0 raw with
    | none => some none
    | some index => do
      let last ← (size raw).ppred
      if index = last then some <$> slice? raw 1 index else some none
  else some none

/-- The pieces of a query between its outermost connectors, and these connectors: `start` is where the current piece
begins, and `index` is the position that is looked at. -/
def cutAt (raw : List Char) (depth : Nat) (q : Quoting) (start index : Nat) :
    List Char → Option (Except NestingFault (List (List Char) × List Connector))
  | [] =>
    if q ≠ .outside then some (throw .unterminated)
    else if depth ≠ 0 then some (throw .unbalanced)
    else (slice? raw start (size raw)).map fun piece => pure ([piece], [])
  | c :: cs =>
    if q = .outside ∧ c = '(' then cutAt raw (depth + 1) q start (index + c.utf8Size) cs
    else if q = .outside ∧ c = ')' then
      if depth = 0 then some (throw .unbalanced) else cutAt raw (depth - 1) q start (index + c.utf8Size) cs
    else
      match Connector.ofChar? c with
      | some connector =>
        if q = .outside ∧ depth = 0 then do
          let piece ← slice? raw start index
          let rest ← cutAt raw depth q (index + c.utf8Size) (index + c.utf8Size) cs
          some (rest.map fun (pieces, connectors) => (piece :: pieces, connector :: connectors))
        else cutAt raw depth (q.next c) start (index + c.utf8Size) cs
      | none => cutAt raw depth (q.next c) start (index + c.utf8Size) cs

/-- The first operator outside brackets and before any quote, with its position. -/
def operatorPosition (raw : List Char) (depth index : Nat) : List Char → Option (Option (Nat × Operator))
  | [] => some none
  | c :: cs =>
    if c = '[' then operatorPosition raw (depth + 1) (index + c.utf8Size) cs
    else if c = ']' then operatorPosition raw (depth - 1) (index + c.utf8Size) cs
    else if c = '"' then some none
    else if depth = 0 then do
      let rest ← slice? raw index (size raw)
      match operatorAt rest with
      | some (operator, _) => some (some (index, operator))
      | none => operatorPosition raw depth (index + c.utf8Size) cs
    else operatorPosition raw depth (index + c.utf8Size) cs

/-- The keys between brackets, bracket by bracket. -/
def keysAt (rest : List Char) : Option (Option (List (List Char))) :=
  if rest = [] then some (some [])
  else
    match position? ']' rest with
    | none => some none
    | some stop =>
      match rest.head? with
      | some '[' => do
        let last ← stop.ppred
        let key ← slice? rest.tail 0 last
        if key = [] ∨ (Text.pieces '.' key).contains [] then some none
        else
          match _h : slice? rest (stop + 1) (size rest) with
          | none => none
          | some others => do
            let keys ← keysAt others
            some (keys.map (Text.pieces '.' key ++ ·))
      | _ => some none
termination_by rest.length
decreasing_by
  obtain ⟨before, after, hrest, hsize, -⟩ := Text.slice?_eq_some_iff.1 _h
  have hne : before.length ≠ 0 := by
    intro hzero
    rw [List.eq_nil_of_length_eq_zero hzero] at hsize
    simp at hsize
  rw [hrest, List.length_append, List.length_append]
  omega

/-- The path whose part before the brackets is `name`. -/
def pathOfName (path name : List Char) (keys : Option (List String)) : Except QueryFault Path :=
  if (pathSegments name).contains [] then throw (.invalidPath (String.ofList path))
  else
    match pathOf ((pathSegments name).map String.ofList) keys with
    | some path => pure path
    | none => throw (.invalidPath (String.ofList path))

/-- Reads a path. -/
def readPathAt (path : List Char) : Option (Except QueryFault Path) :=
  if path = [] ∨ path.any fun c => c = '(' ∨ c = ')' ∨ c = '"' ∨ c = ' ' then
    some (throw (.invalidPath (String.ofList path)))
  else
    match position? '[' path with
    | none => some (pathOfName path path none)
    | some index => do
      let name ← slice? path 0 index
      let brackets ← slice? path index (size path)
      match ← keysAt brackets with
      | none => some (throw (.invalidCompoundPath (String.ofList brackets)))
      | some keys => some (pathOfName path name (some (keys.map String.ofList)))

/-- Reads a comparison. -/
def readComparisonAt [PatternEngine] (context : Context) (raw : List Char) : Outcome Comparison := do
  match ← sliced (operatorPosition raw 0 0 raw) with
  | none => refuse (.noOperator (String.ofList raw))
  | some (position, operator) =>
    let before ← sliced (slice? raw 0 position)
    let after ← sliced (slice? raw (position + size operator.symbol.toList) (size raw))
    let path ← sliced (readPathAt (trim before))
    let path ← (path : Except QueryFault _)
    let (attributeId, subAttribute) ← (path.expand context : Except ExpansionFault _)
    let value ← QueryValue.ofLiteralAt path.target after
    (operator.check value path.target : Except QueryFault _)
    pure { attributeId, subAttribute, target := path.target, operator, value }

variable {cs inner after before current path rest raw : List Char} {c : Char} {depth : Nat} {q : Quoting}

/-! ### Parentheses -/

/-- A parenthesis closes where the walk over the characters comes to it. -/
lemma closingAt_eq (depth : Nat) (q : Quoting) (index : Nat) (cs : List Char) :
    closingAt depth q index cs = (untilClosed depth q cs).map fun result => index + size result.1 := by
  induction cs generalizing depth q index with
  | nil => rfl
  | cons c cs ih =>
    have hgrow : ∀ found : Option (List Char × List Char),
        (found.map fun result => index + c.utf8Size + size result.1) =
          (found.map fun result => (c :: result.1, result.2)).map fun result => index + size result.1 := by
      intro found
      cases found with
      | none => rfl
      | some result => simp [Nat.add_assoc]
    rw [closingAt, untilClosed]
    dsimp only
    split
    case isTrue => exact (ih ..).trans (hgrow _)
    case isFalse =>
      split
      case isTrue =>
        by_cases hdepth : depth ≤ 1
        · rw [if_pos hdepth, if_pos (by omega)]
          rfl
        · rw [if_neg hdepth, if_neg (by omega)]
          exact (ih ..).trans (hgrow _)
      case isFalse => exact (ih ..).trans (hgrow _)

/-- The slice between the first and the last parenthesis is the inside. -/
theorem parenthesizedAt_eq (raw : List Char) : parenthesizedAt raw = some (parenthesized raw) := by
  rw [parenthesizedAt]
  split
  case isTrue hends =>
    obtain ⟨cs, rfl⟩ : ∃ cs, raw = '(' :: cs := by
      cases raw with
      | nil => cases hends.1
      | cons c cs => exact ⟨cs, by rw [Option.some.inj hends.1]⟩
    have hclosing : closingAt 0 .outside 0 ('(' :: cs) = (untilClosed 1 .outside cs).map fun r => 1 + size r.1 :=
      closingAt_eq 1 .outside 1 cs
    rw [hclosing, parenthesized]
    cases hclosed : untilClosed 1 .outside cs with
    | none => rfl
    | some result =>
      obtain ⟨inner, after⟩ := result
      obtain ⟨rfl, -⟩ := walk_of_untilClosed (p := .top) hclosed
      have hlast : (size ('(' :: (inner ++ ')' :: after))).ppred = some (1 + size inner + size after) := by
        rw [Nat.ppred_eq_some, Text.size_cons, Text.size_append, Text.size_cons]
        have hopening : '('.utf8Size = 1 := rfl
        have hclosing : ')'.utf8Size = 1 := rfl
        omega
      rw [hlast]
      cases after with
      | nil =>
        have hslice : slice? ('(' :: (inner ++ [')'])) 1 (1 + size inner) = some inner :=
          Text.slice?_eq_some_iff.2 ⟨['('], [')'], rfl, rfl, Text.size_append ['('] inner⟩
        simp [hslice]
      | cons d after =>
        have hd := d.utf8Size_pos
        simp
        omega
  case isFalse hends =>
    refine congrArg some (Eq.symm (Option.eq_none_iff_forall_ne_some.2 fun inner hinner => hends ?_))
    obtain ⟨rfl, -⟩ := parenthesized_eq_some_iff.1 hinner
    refine ⟨rfl, ?_⟩
    rw [← List.cons_append, List.getLast?_concat]

/-! ### Connectors -/

/-- The pieces are the slices between the connectors. -/
lemma cutAt_eq (depth : Nat) (q : Quoting) (before current cs : List Char) :
    cutAt (before ++ (current ++ cs)) depth q (size before) (size (before ++ current)) cs =
      some ((cutFrom depth q cs).map fun (pieces, connectors) => (Text.growAll current pieces, connectors)) := by
  induction cs generalizing depth q before current with
  | nil =>
    rw [cutAt, cutFrom]
    split
    case isTrue => rfl
    case isFalse =>
      split
      case isTrue => rfl
      case isFalse =>
        rw [List.append_nil, Text.slice?_right]
        simp [Except.map, pure, Except.pure, Text.growAll_cons]
  | cons c cs ih =>
    have hraw : before ++ (current ++ c :: cs) = before ++ (current ++ [c] ++ cs) := by simp
    have hsize : size (before ++ current) + c.utf8Size = size (before ++ (current ++ [c])) := by
      rw [← List.append_assoc, Text.size_append _ [c], Text.size_cons, Text.size_nil, Nat.add_zero]
    have hgrow : ∀ depth q, cutAt (before ++ (current ++ c :: cs)) depth q (size before)
        (size (before ++ current) + c.utf8Size) cs =
          some (((cutFrom depth q cs).map fun (pieces, connectors) => (Text.growFirst c pieces, connectors)).map
            fun (pieces, connectors) => (Text.growAll current pieces, connectors)) := by
      intro depth q
      rw [hraw, hsize, ih]
      cases cutFrom depth q cs with
      | error fault => rfl
      | ok result => simp [Except.map, Text.growAll_concat]
    rw [cutAt, cutFrom]
    dsimp only
    split
    case isTrue => exact hgrow _ _
    case isFalse =>
      split
      case isTrue =>
        split
        case isTrue => rfl
        case isFalse => exact hgrow _ _
      case isFalse =>
        cases hconnector : Connector.ofChar? c with
        | none => exact hgrow _ _
        | some connector =>
          dsimp only
          split
          case isTrue =>
            -- the next piece begins after the connector
            have hnext := ih depth q (before ++ (current ++ [c])) []
            rw [List.append_nil, List.nil_append, List.append_assoc, ← hraw, ← hsize] at hnext
            rw [Text.slice?_append, hnext]
            cases cutFrom depth q cs with
            | error fault => rfl
            | ok result => simp [Except.map, Text.growAll_cons, Text.growAll_nil]
          case isFalse => exact hgrow _ _

lemma cutAt_eq_cut (raw : List Char) : cutAt raw 0 .outside 0 0 raw = some (cut raw) := by
  have h := cutAt_eq 0 .outside [] [] raw
  simp only [List.nil_append, Text.size_nil, Text.growAll_nil] at h
  rw [h, cut]
  cases cutFrom 0 .outside raw <;> rfl

/-! ### Operators -/

/-- The operator is found at the position where the walk comes to it. -/
lemma operatorPosition_eq (depth : Nat) (before cs : List Char) :
    operatorPosition (before ++ cs) depth (size before) cs =
      some ((cutOperator depth cs).map fun (path, operator, _) => (size before + size path, operator)) := by
  induction cs generalizing depth before with
  | nil => rfl
  | cons c cs ih =>
    have hgrow : ∀ depth, operatorPosition (before ++ c :: cs) depth (size before + c.utf8Size) cs =
        some (((cutOperator depth cs).map fun (path, operator, after) => (c :: path, operator, after)).map
          fun (path, operator, _) => (size before + size path, operator)) := by
      intro depth
      have hraw : before ++ c :: cs = before ++ [c] ++ cs := by simp
      have hsize : size before + c.utf8Size = size (before ++ [c]) := by simp
      rw [hraw, hsize, ih]
      cases cutOperator depth cs with
      | none => rfl
      | some result => simp [Nat.add_assoc]
    rw [operatorPosition, cutOperator]
    dsimp only
    split
    case isTrue => exact hgrow _
    case isFalse =>
      split
      case isTrue => exact hgrow _
      case isFalse =>
        split
        case isTrue => rfl
        case isFalse =>
          split
          case isTrue =>
            rw [Text.slice?_right, Option.bind_eq_bind, Option.bind_some]
            cases operatorAt (c :: cs) with
            | none => exact hgrow _
            | some found => rfl
          case isFalse => exact hgrow _

lemma eq_append_of_operatorAt {operator : Operator} (h : operatorAt cs = some (operator, after)) :
    cs = operator.symbol.toList ++ after := by
  obtain ⟨o, -, ho⟩ := List.exists_of_findSome?_eq_some h
  obtain ⟨rest, hrest, heq⟩ := Option.map_eq_some_iff.1 ho
  obtain ⟨rfl, rfl⟩ := Prod.mk.inj heq
  exact Text.afterPhrase_eq_some_iff.1 hrest

/-- The operator stands between the texts before and after it, and there is no quote before it. -/
lemma eq_append_of_cutOperator {operator : Operator} (h : cutOperator depth cs = some (before, operator, after)) :
    cs = before ++ (operator.symbol.toList ++ after) ∧ '"' ∉ before := by
  induction cs generalizing depth before with
  | nil => cases h
  | cons c cs ih =>
    have hgrow : ∀ depth, c ≠ '"' →
        ((cutOperator depth cs).map fun (path, operator, after) => (c :: path, operator, after)) =
          some (before, operator, after) →
        c :: cs = before ++ (operator.symbol.toList ++ after) ∧ '"' ∉ before := by
      intro depth hc hgrown
      obtain ⟨⟨path, o, rest⟩, hfound, heq⟩ := Option.map_eq_some_iff.1 hgrown
      obtain ⟨rfl, hrest⟩ := Prod.mk.inj heq
      obtain ⟨rfl, rfl⟩ := Prod.mk.inj hrest
      obtain ⟨rfl, hpath⟩ := ih hfound
      exact ⟨rfl, by simp [Ne.symm hc, hpath]⟩
    rw [cutOperator] at h
    dsimp only at h
    split at h
    case isTrue hopening => exact hgrow _ (by simp [hopening]) h
    case isFalse =>
      split at h
      case isTrue hclosing => exact hgrow _ (by simp [hclosing]) h
      case isFalse =>
        split at h
        case isTrue => cases h
        case isFalse hc =>
          split at h
          case isTrue =>
            split at h
            case h_1 o rest hat =>
              obtain ⟨rfl, hrest⟩ := Prod.mk.inj (Option.some.inj h)
              obtain ⟨rfl, rfl⟩ := Prod.mk.inj hrest
              exact ⟨eq_append_of_operatorAt hat, List.not_mem_nil⟩
            case h_2 => exact hgrow _ hc h
          case isFalse => exact hgrow _ hc h

/-! ### Paths -/

lemma compoundKeysFrom_eq_none (h : ']' ∉ cs) (read : List Char) : compoundKeysFrom (some read) cs = none := by
  induction cs generalizing read with
  | nil => rfl
  | cons c cs ih =>
    rw [List.mem_cons, not_or] at h
    rw [compoundKeysFrom]
    dsimp only
    rw [if_neg (Ne.symm h.1), ih h.2]

/-- The keys are the slices between the brackets. -/
theorem keysAt_eq (rest : List Char) : keysAt rest = some (compoundKeysFrom none rest) := by
  induction hlength : rest.length using Nat.strong_induction_on generalizing rest with
  | _ n ih =>
    subst hlength
    cases rest with
    | nil =>
      rw [keysAt]
      rfl
    | cons c rest =>
      rw [keysAt, if_neg (List.cons_ne_nil c rest)]
      by_cases hopening : c = '['
      · subst hopening
        by_cases hclosing : ']' ∈ rest
        · obtain ⟨key, others, rfl, hkey⟩ := List.eq_append_cons_of_mem hclosing
          have hposition : position? ']' ('[' :: (key ++ ']' :: others)) = some (size key + 1) := by
            refine Text.position?_eq_some_iff.2 ⟨'[' :: key, others, rfl, by simpa using hkey, ?_⟩
            rw [Text.size_cons, Nat.add_comm]
            rfl
          have hslice : slice? (key ++ ']' :: others) 0 (size key) = some key := Text.slice?_left key _
          have hothers : slice? ('[' :: (key ++ ']' :: others)) (size key + 1 + 1)
              (size ('[' :: (key ++ ']' :: others))) = some others := by
            have hraw : '[' :: (key ++ ']' :: others) = '[' :: key ++ [']'] ++ others := by simp
            have hsize : size key + 1 + 1 = size ('[' :: key ++ [']']) := by
              rw [Text.size_append, Text.size_cons, Nat.add_comm _ (size key)]
              rfl
            rw [hraw, hsize]
            exact Text.slice?_right _ _
          have hrest := ih others.length (by simp only [List.length_cons, List.length_append]; omega) others rfl
          rw [hposition, compoundKeysFrom_bracket hkey]
          simp only [List.head?_cons, List.tail_cons, Nat.ppred_succ, Option.bind_eq_bind, Option.bind_some, hslice]
          by_cases hempty : (Text.pieces '.' key).contains [] = true
          · rw [if_pos hempty, if_pos (Or.inr hempty)]
          · have hkey' : ¬ (key = [] ∨ (Text.pieces '.' key).contains [] = true) := by
              rintro (rfl | h)
              · exact hempty rfl
              · exact hempty h
            rw [if_neg hempty, if_neg hkey']
            split
            case h_1 hnone => cases hnone.symm.trans hothers
            case h_2 others' hothers' =>
              obtain rfl := Option.some.inj (hothers'.symm.trans hothers)
              rw [hrest]
              rfl
        · have hposition : position? ']' ('[' :: rest) = none := by
            rw [Text.position?_eq_none_iff]
            simpa using hclosing
          have hnone : compoundKeysFrom none ('[' :: rest) = compoundKeysFrom (some []) rest := rfl
          rw [hposition, hnone, compoundKeysFrom_eq_none hclosing]
      · have hnone : compoundKeysFrom none (c :: rest) = none := by
          rw [compoundKeysFrom]
          exact if_neg hopening
        rw [hnone]
        cases position? ']' (c :: rest) with
        | none => rfl
        | some stop => simp [hopening]

/-- A path is read in parts: the segments before the first bracket, and the keys from there on. -/
lemma readPath_eq (path : List Char) : readPath path =
    if path = [] ∨ path.any fun c => c = '(' ∨ c = ')' ∨ c = '"' ∨ c = ' ' then
      throw (.invalidPath (String.ofList path))
    else if path.dropWhile (· ≠ '[') = [] then pathOfName path (path.takeWhile (· ≠ '[')) none
    else
      match compoundKeysFrom none (path.dropWhile (· ≠ '[')) with
      | none => throw (.invalidCompoundPath (String.ofList (path.dropWhile (· ≠ '['))))
      | some keys => pathOfName path (path.takeWhile (· ≠ '[')) (some (keys.map String.ofList)) := by
  rw [readPath]
  dsimp only
  split
  case isTrue => rfl
  case isFalse =>
    split
    case isTrue => rfl
    case isFalse =>
      rw [compoundKeys]
      cases compoundKeysFrom none (path.dropWhile (· ≠ '[')) <;> rfl

/-- The names and the keys of a path are the slices before its first bracket and from there on. -/
theorem readPathAt_eq (path : List Char) : readPathAt path = some (readPath path) := by
  rw [readPathAt, readPath_eq]
  split
  case isTrue => rfl
  case isFalse =>
    cases hposition : position? '[' path with
    | none =>
      have hno : ∀ c ∈ path, decide (c ≠ '[') = true := fun c hc =>
        decide_eq_true (ne_of_mem_of_not_mem hc (Text.position?_eq_none_iff.1 hposition))
      rw [if_pos (List.dropWhile_eq_nil_iff.2 hno), List.takeWhile_eq_self_iff.2 hno]
    | some index =>
      obtain ⟨name, brackets, rfl, hname, rfl⟩ := Text.position?_eq_some_iff.1 hposition
      have hno : ∀ c ∈ name, decide (c ≠ '[') = true := fun c hc => decide_eq_true (ne_of_mem_of_not_mem hc hname)
      have htake : (name ++ '[' :: brackets).takeWhile (· ≠ '[') = name := by
        rw [List.takeWhile_append_of_pos hno]
        exact List.append_nil name
      have hdrop : (name ++ '[' :: brackets).dropWhile (· ≠ '[') = '[' :: brackets :=
        List.dropWhile_append_of_pos hno
      rw [htake, hdrop, if_neg (List.cons_ne_nil _ _)]
      dsimp only
      rw [Text.slice?_left, Text.slice?_right]
      simp only [Option.bind_eq_bind, Option.bind_some, keysAt_eq]
      cases compoundKeysFrom none ('[' :: brackets) <;> rfl

end QueryTerm

/-! ### Literals -/

namespace QueryValue

variable {raw inner : List Char}

/-- A text between brackets begins and ends with them, and they are its first and its last byte. -/
lemma bracketed_eq_some_iff : bracketed raw = some inner ↔ raw = '[' :: (inner ++ [']']) := by
  constructor
  · intro h
    unfold bracketed at h
    split at h
    case h_1 rest =>
      split at h
      case isTrue hlast =>
        obtain rfl := Option.some.inj h
        rw [List.dropLast_append_getLast? _ hlast]
      case isFalse => cases h
    case h_2 => cases h
  · rintro rfl
    rw [bracketed, if_pos List.getLast?_concat, List.dropLast_concat]

lemma exists_bracketed_iff : (∃ inner, bracketed raw = some inner) ↔
    raw.head? = some '[' ∧ raw.getLast? = some ']' ∧ 2 ≤ size raw := by
  constructor
  · rintro ⟨inner, h⟩
    obtain rfl := bracketed_eq_some_iff.1 h
    refine ⟨rfl, by rw [← List.cons_append, List.getLast?_concat], ?_⟩
    have hopening := '['.utf8Size_pos
    have hclosing := ']'.utf8Size_pos
    rw [Text.size_cons, Text.size_append, Text.size_cons]
    omega
  · rintro ⟨hhead, hlast, -⟩
    match raw, hhead, hlast with
    | [c], hhead, hlast =>
      obtain rfl : c = '[' := Option.some.inj hhead
      cases hlast
    | c :: d :: rest, hhead, hlast =>
      obtain rfl : c = '[' := Option.some.inj hhead
      rw [List.getLast?_cons_cons] at hlast
      exact ⟨(d :: rest).dropLast, if_pos hlast⟩

/-- A literal denotes the same when its body is a slice that is cut byte by byte. -/
theorem ofLiteralAt_eq (target : ValueTarget) (text : List Char) : ofLiteralAt target text = ofLiteral target text := by
  rw [ofLiteralAt, ofLiteral]
  dsimp only
  split
  case isTrue => rfl
  case isFalse hne =>
    split
    case isTrue hends =>
      obtain ⟨inner, hinner⟩ := exists_bracketed_iff.2 hends
      have hraw := bracketed_eq_some_iff.1 hinner
      have hlast : (size (trim text)).ppred = some (1 + size inner) := by
        rw [hraw, Nat.ppred_eq_some, Text.size_cons, Text.size_append, Text.size_cons, Text.size_nil]
        have hopening : '['.utf8Size = 1 := rfl
        have hclosing : ']'.utf8Size = 1 := rfl
        omega
      have hslice : slice? (trim text) 1 (1 + size inner) = some inner :=
        Text.slice?_eq_some_iff.2 ⟨['['], [']'], hraw, rfl, Text.size_append ['['] inner⟩
      rw [hinner, hlast]
      simp only [sliced, pure_bind, hslice, Text.cutBytes_eq_cutOutside]
      cases Text.cutOutside ",".toList inner <;> rfl
    case isFalse hends =>
      have hnone : bracketed (trim text) = none :=
        Option.eq_none_iff_forall_ne_some.2 fun inner hinner => hends (exists_bracketed_iff.1 ⟨inner, hinner⟩)
      rw [hnone, Text.cutBytes_eq_cutOutside]
      dsimp only
      cases Text.cutOutside "..".toList (trim text) <;> rfl

end QueryValue

namespace QueryTerm

/-! ### Comparisons -/

theorem readComparisonAt_eq [PatternEngine] (context : Context) (raw : List Char) :
    readComparisonAt context raw = readComparison context raw := by
  rw [readComparisonAt, readComparison]
  have hposition := operatorPosition_eq 0 [] raw
  rw [List.nil_append, Text.size_nil] at hposition
  rw [hposition]
  cases hcut : cutOperator 0 raw with
  | none => rfl
  | some found =>
    obtain ⟨before, operator, after⟩ := found
    obtain ⟨rfl, -⟩ := eq_append_of_cutOperator hcut
    have hbefore : slice? (before ++ (operator.symbol.toList ++ after)) 0 (0 + size before) = some before := by
      rw [Nat.zero_add]
      exact Text.slice?_left before _
    have hafter : slice? (before ++ (operator.symbol.toList ++ after)) (0 + size before + size operator.symbol.toList)
        (size (before ++ (operator.symbol.toList ++ after))) = some after := by
      rw [Nat.zero_add, ← List.append_assoc, ← Text.size_append]
      exact Text.slice?_right _ _
    simp only [Option.map_some, sliced, pure_bind, hbefore, hafter, readPathAt_eq, QueryValue.ofLiteralAt_eq]

/-! ### Queries -/

/-- Reads a query in a context. -/
def readAt [PatternEngine] (context : Context) (text : List Char) : Outcome QueryTerm :=
  if trim text = [] then refuse .emptyTerm
  else
    match _inner : parenthesizedAt (trim text) with
    | none => throw .cutInsideCharacter
    | some (some inner) => readAt context inner
    | some none =>
      match _pieces : cutAt (trim text) 0 .outside 0 0 (trim text) with
      | none => throw .cutInsideCharacter
      | some (.error .unbalanced) => refuse (.unbalanced (String.ofList (trim text)))
      | some (.error .unterminated) => refuse (.unterminated (String.ofList (trim text)))
      | some (.ok (_, [])) => .comparison <$> readComparisonAt context (trim text)
      | some (.ok (pieces, c :: connectors)) => do
        let terms ← pieces.attach.mapM fun ⟨piece, _⟩ => readAt context piece
        pure (.logical terms (c :: connectors))
termination_by text.length
decreasing_by
  · rw [parenthesizedAt_eq] at _inner
    exact Nat.lt_of_lt_of_le (length_parenthesized (Option.some.inj _inner)) (Text.length_trim_le _)
  · rw [cutAt_eq_cut] at _pieces
    exact Nat.lt_of_lt_of_le (length_lt_of_cut (Option.some.inj _pieces) (by simp) ‹_›) (Text.length_trim_le _)

/-- The reader that takes slices between byte positions reads every query as the reader does. -/
theorem readAt_eq_read [PatternEngine] (context : Context) (text : List Char) :
    readAt context text = read context text := by
  induction hlength : text.length using Nat.strong_induction_on generalizing text with
  | _ n ih =>
    subst hlength
    rw [readAt, read_eq]
    split
    case isTrue => rfl
    case isFalse =>
      split
      case h_1 hinner => cases hinner.symm.trans (parenthesizedAt_eq _)
      case h_2 inner hinner =>
        rw [parenthesizedAt_eq] at hinner
        have hinner' := Option.some.inj hinner
        rw [hinner']
        exact ih _ (Nat.lt_of_lt_of_le (length_parenthesized hinner') (Text.length_trim_le _)) inner rfl
      case h_3 hinner =>
        rw [parenthesizedAt_eq] at hinner
        rw [Option.some.inj hinner]
        dsimp only
        split
        case h_1 hpieces => cases hpieces.symm.trans (cutAt_eq_cut _)
        case h_2 hpieces =>
          rw [cutAt_eq_cut] at hpieces
          rw [Option.some.inj hpieces]
        case h_3 hpieces =>
          rw [cutAt_eq_cut] at hpieces
          rw [Option.some.inj hpieces]
        case h_4 hpieces =>
          rw [cutAt_eq_cut] at hpieces
          rw [Option.some.inj hpieces, readComparisonAt_eq]
        case h_5 pieces c connectors hpieces =>
          rw [cutAt_eq_cut] at hpieces
          rw [Option.some.inj hpieces]
          dsimp only
          have hpiece : ∀ piece : { piece // piece ∈ pieces }, readAt context piece.1 = read context piece.1 :=
            fun piece => ih _ (Nat.lt_of_lt_of_le (length_lt_of_cut (Option.some.inj hpieces) (by simp) piece.2)
              (Text.length_trim_le _)) piece.1 rfl
          simp [hpiece]

end QueryTerm

end EntityHistory
