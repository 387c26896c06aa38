/-
Paths as they are written.

A path is a row of names with dots between them and keys in brackets after it. Where names and keys hold
nothing that has a meaning in a query, the search for an operator passes the path, and the path is read as the
names and keys it was written with.

* `QueryTerm.cutOperator_pathText_append`: the first operator of a comparison comes after its path;
* `QueryTerm.readPath_pathText`: a path is read as what its names and keys make.
-/
import Mathlib.Data.List.TakeWhile
import Mathlib.Tactic.Lemma
import EntityHistory.Proofs.Query.Nesting
import EntityHistory.Proofs.Text.Blank
import EntityHistory.Proofs.Text.Pieces

namespace EntityHistory.QueryTerm

open Text (isBlank joinWith mentions trim)

/-! ### Names and keys -/

/-- The characters that a name does not hold. -/
def nameMarks : List Char := ['(', ')', '"', '[', ']', ';', '|', '.', '=', '!', '<', '>', '~']

/-- The characters that a key does not hold. -/
def keyMarks : List Char := ['[', ']', '.', '(', ')', '"', ';', '|']

/-- Whether a text can stand in a path as a name: it is not empty, it holds neither white space nor a character
with a meaning, and it is not an address. -/
def IsName (name : List Char) : Prop :=
  name ≠ [] ∧ (∀ c ∈ name, isBlank c = false ∧ c ∉ nameMarks) ∧ mentions "://".toList name = false

/-- Whether a text can stand in brackets as a key. -/
def IsKey (key : List Char) : Prop := key ≠ [] ∧ ∀ c ∈ key, isBlank c = false ∧ c ∉ keyMarks

instance (name : List Char) : Decidable (IsName name) :=
  have := List.decidableBAll (fun c => isBlank c = false ∧ c ∉ nameMarks) name
  inferInstanceAs (Decidable (_ ∧ _ ∧ _))

instance (key : List Char) : Decidable (IsKey key) :=
  have := List.decidableBAll (fun c => isBlank c = false ∧ c ∉ keyMarks) key
  inferInstanceAs (Decidable (_ ∧ _))

/-- A key in brackets. -/
def inBrackets (key : List Char) : List Char := '[' :: (key ++ [']'])

/-- A path: names with dots between them, and keys in brackets. -/
def pathText (names keys : List (List Char)) : List Char := joinWith ['.'] names ++ keys.flatMap inBrackets

variable {names keys : List (List Char)} {name key cs ds : List Char} {c : Char} {d d' : Nat}

lemma IsName.not_mem {marks : List Char} (h : IsName name) (hc : c ∈ name) (hmarks : marks ⊆ nameMarks) :
    c ∉ marks :=
  fun hmark => (h.2.1 c hc).2 (hmarks hmark)

lemma IsKey.not_mem {marks : List Char} (h : IsKey key) (hc : c ∈ key) (hmarks : marks ⊆ keyMarks) :
    c ∉ marks :=
  fun hmark => (h.2 c hc).2 (hmarks hmark)

/-- A path holds no blanks and nothing that has a meaning for the nesting. -/
lemma plain_of_mem_pathText (hnames : ∀ name ∈ names, IsName name) (hkeys : ∀ key ∈ keys, IsKey key)
    (h : c ∈ pathText names keys) : isBlank c = false ∧ c ∉ queryMarks := by
  rw [pathText, List.mem_append, List.mem_flatMap] at h
  rcases h with h | ⟨key, hkey, hc⟩
  · rcases Text.mem_joinWith h with hdot | ⟨name, hname, hc⟩
    · obtain rfl := List.mem_singleton.1 hdot
      decide
    · exact ⟨((hnames name hname).2.1 c hc).1, (hnames name hname).not_mem hc (by decide)⟩
  · rw [inBrackets, List.mem_cons, List.mem_append, List.mem_singleton] at hc
    rcases hc with rfl | hc | rfl
    · decide
    · exact ⟨((hkeys key hkey).2 c hc).1, (hkeys key hkey).not_mem hc (by decide)⟩
    · decide

lemma pathText_ne_nil (hne : names ≠ []) (hnames : ∀ name ∈ names, IsName name) (keys : List (List Char)) :
    pathText names keys ≠ [] := by
  obtain ⟨name, names, rfl⟩ := List.exists_cons_of_ne_nil hne
  have hname : name ≠ [] := (hnames name (by simp)).1
  cases names with
  | nil => simp [pathText, Text.joinWith_one, hname]
  | cons next names => simp [pathText, Text.joinWith_cons_cons]

lemma whole_pathText (hnames : ∀ name ∈ names, IsName name) (hkeys : ∀ key ∈ keys, IsKey key) :
    Whole (pathText names keys) :=
  whole_of_plain fun _ hc => (plain_of_mem_pathText hnames hkeys hc).2

/-! ### The search for an operator -/

/-- A text that the search for an operator passes, with so many brackets open before and after it. -/
def Passes (d : Nat) (cs : List Char) (d' : Nat) : Prop :=
  ∀ ds, cutOperator d (cs ++ ds) =
    (cutOperator d' ds).map fun (before, operator, after) => (cs ++ before, operator, after)

lemma Passes.append {d₁ d₂ d₃ : Nat} (h : Passes d₁ cs d₂) (h' : Passes d₂ ds d₃) :
    Passes d₁ (cs ++ ds) d₃ := by
  intro rest
  rw [List.append_assoc, h, h', Option.map_map]
  congr 1
  funext ⟨before, operator, after⟩
  exact congrArg (·, operator, after) (List.append_assoc cs ds before).symm

lemma passes_nil (d : Nat) : Passes d [] d := by
  intro ds
  simp

lemma passes_of_forall (h : ∀ c ∈ cs, Passes d [c] d) : Passes d cs d := by
  induction cs with
  | nil => exact passes_nil d
  | cons c cs ih =>
    rw [List.forall_mem_cons] at h
    exact h.1.append (ih h.2)

/-- The characters that an operator can begin with. -/
def operatorMarks : List Char := ['=', '!', '<', '>', '~']

/-- The characters on which the search for an operator counts brackets or ends. -/
def bracketMarks : List Char := ['[', ']', '"']

lemma exists_symbol_eq_cons (o : Operator) :
    ∃ s rest, o.symbol.toList = s :: rest ∧ s ∈ operatorMarks ∧ s ∉ bracketMarks := by
  cases o <;> exact ⟨_, _, rfl, by decide, by decide⟩

/-- There is no operator where none can begin. -/
lemma operatorAt_eq_none (h : c ∉ operatorMarks) (cs : List Char) : operatorAt (c :: cs) = none := by
  rw [operatorAt, List.findSome?_eq_none_iff]
  intro o _
  obtain ⟨s, rest, hsymbol, hs, -⟩ := exists_symbol_eq_cons o
  have hne : s ≠ c := by
    rintro rfl
    exact h hs
  rw [hsymbol, Text.afterPhrase, if_neg hne]
  rfl

/-- The operator at its symbol is found, and not one whose symbol goes on with an equals sign. -/
lemma operatorAt_symbol_append {o : Operator} (ho : o.isPattern = false) (hc : c ≠ '=') (cs : List Char) :
    operatorAt (o.symbol.toList ++ c :: cs) = some (o, c :: cs) := by
  cases o with
  | equal | notEqual | greaterOrEqual | lessOrEqual => rfl
  | pattern | notPattern => cases ho
  | greater | less =>
    simp [operatorAt, Operator.all, Operator.symbol, List.findSome?, Text.afterPhrase, Ne.symm hc]

/-- At a character that is no bracket and no quote the search goes on, unless an operator stands there. -/
lemma cutOperator_cons (h : c ∉ bracketMarks) (cs : List Char) : cutOperator 0 (c :: cs) =
    ((operatorAt (c :: cs)).map fun (o, after) => ([], o, after)).or
      ((cutOperator 0 cs).map fun (before, o, after) => (c :: before, o, after)) := by
  simp only [bracketMarks, List.mem_cons, List.not_mem_nil, or_false, not_or] at h
  simp only [cutOperator, h, if_false, if_true]
  cases operatorAt (c :: cs) <;> simp

/-- The search ends at the symbol of an operator. -/
lemma cutOperator_symbol_append {o : Operator} (ho : o.isPattern = false) (hc : c ≠ '=') (cs : List Char) :
    cutOperator 0 (o.symbol.toList ++ c :: cs) = some ([], o, c :: cs) := by
  have hoperator := operatorAt_symbol_append ho hc cs
  obtain ⟨s, rest, hsymbol, -, hs⟩ := exists_symbol_eq_cons o
  rw [hsymbol, List.cons_append] at hoperator ⊢
  rw [cutOperator_cons hs, hoperator, Option.map_some, Option.some_or]

lemma passes_outside (hbracket : c ∉ bracketMarks) (hoperator : c ∉ operatorMarks) : Passes 0 [c] 0 := by
  intro ds
  rw [List.singleton_append, cutOperator_cons hbracket, operatorAt_eq_none hoperator, Option.map_none,
    Option.none_or]
  simp

/-- Inside brackets operators are not looked for. -/
lemma passes_inside (h : c ∉ bracketMarks) (d : Nat) : Passes (d + 1) [c] (d + 1) := by
  intro ds
  simp only [bracketMarks, List.mem_cons, List.not_mem_nil, or_false, not_or] at h
  rw [List.singleton_append, cutOperator, if_neg h.1, if_neg h.2.1, if_neg h.2.2, if_neg (Nat.succ_ne_zero d)]
  rfl

lemma passes_inBrackets (hkey : IsKey key) : Passes 0 (inBrackets key) 0 := by
  have hopening : Passes 0 ['['] 1 := fun _ => rfl
  have hinside : Passes 1 key 1 := passes_of_forall fun c hc => passes_inside (hkey.not_mem hc (by decide)) 0
  have hclosing : Passes 1 [']'] 0 := fun _ => rfl
  exact hopening.append (hinside.append hclosing)

lemma passes_joinWith (hnames : ∀ name ∈ names, IsName name) : Passes 0 (joinWith ['.'] names) 0 := by
  refine passes_of_forall fun c hc => ?_
  rcases Text.mem_joinWith hc with hdot | ⟨name, hname, hc⟩
  · obtain rfl := List.mem_singleton.1 hdot
    exact passes_outside (by decide) (by decide)
  · have hname := hnames name hname
    exact passes_outside (hname.not_mem hc (by decide)) (hname.not_mem hc (by decide))

lemma passes_flatMap_inBrackets (hkeys : ∀ key ∈ keys, IsKey key) : Passes 0 (keys.flatMap inBrackets) 0 := by
  induction keys with
  | nil => exact passes_nil 0
  | cons key keys ih =>
    rw [List.forall_mem_cons] at hkeys
    exact (passes_inBrackets hkeys.1).append (ih hkeys.2)

/-- The first operator of a comparison is the one after its path. -/
theorem cutOperator_pathText_append (hnames : ∀ name ∈ names, IsName name) (hkeys : ∀ key ∈ keys, IsKey key)
    {o : Operator} (ho : o.isPattern = false) (hc : c ≠ '=') (cs : List Char) :
    cutOperator 0 (pathText names keys ++ (o.symbol.toList ++ c :: cs)) =
      some (pathText names keys, o, c :: cs) := by
  have hpath : Passes 0 (pathText names keys) 0 :=
    (passes_joinWith hnames).append (passes_flatMap_inBrackets hkeys)
  rw [hpath, cutOperator_symbol_append ho hc]
  simp

/-! ### Reading a path -/

/-- The characters of a key are read up to its closing bracket. -/
lemma compoundKeysFrom_append {read : List Char} (h : ']' ∉ key) (rest : List Char) :
    compoundKeysFrom (some read) (key ++ ']' :: rest) = compoundKeysFrom (some (read ++ key)) (']' :: rest) := by
  induction key generalizing read with
  | nil => rw [List.nil_append, List.append_nil]
  | cons c key ih =>
    rw [List.mem_cons, not_or] at h
    rw [List.cons_append, compoundKeysFrom]
    dsimp only
    rw [if_neg (Ne.symm h.1), ih h.2, List.append_assoc, List.singleton_append]

/-- A bracket holds the characters up to the closing one. -/
lemma compoundKeysFrom_bracket (h : ']' ∉ key) (rest : List Char) :
    compoundKeysFrom none ('[' :: (key ++ ']' :: rest)) =
      if (Text.pieces '.' key).contains [] then none
      else (compoundKeysFrom none rest).map (Text.pieces '.' key ++ ·) := by
  have hopening : compoundKeysFrom none ('[' :: (key ++ ']' :: rest)) =
      compoundKeysFrom (some []) (key ++ ']' :: rest) := rfl
  rw [hopening, compoundKeysFrom_append h, List.nil_append, compoundKeysFrom]
  dsimp only
  rw [if_pos rfl]

/-- Each key in brackets is read as this key. -/
lemma compoundKeysFrom_flatMap_inBrackets (hkeys : ∀ key ∈ keys, IsKey key) :
    compoundKeysFrom none (keys.flatMap inBrackets) = some keys := by
  induction keys with
  | nil => rfl
  | cons key keys ih =>
    rw [List.forall_mem_cons] at hkeys
    obtain ⟨hkey, hkeys⟩ := hkeys
    have hclosing : ']' ∉ key := fun hc => (hkey.2 ']' hc).2 (by decide)
    have hpieces : Text.pieces '.' key = [key] :=
      Text.pieces_of_not_mem fun hc => (hkey.2 '.' hc).2 (by decide)
    have hbrackets : (key :: keys).flatMap inBrackets = '[' :: (key ++ ']' :: keys.flatMap inBrackets) := by
      simp [inBrackets]
    rw [hbrackets, compoundKeysFrom_bracket hclosing, hpieces, if_neg (by simpa using hkey.1.symm), ih hkeys]
    rfl

lemma compoundKeys_flatMap_inBrackets (hkeys : ∀ key ∈ keys, IsKey key) :
    compoundKeys (keys.flatMap inBrackets) = .ok (keys.map String.ofList) := by
  rw [compoundKeys, compoundKeysFrom_flatMap_inBrackets hkeys]
  rfl

/-- The names of a path stand before its first bracket, and the keys after it. -/
lemma takeWhile_pathText (hnames : ∀ name ∈ names, IsName name) (keys : List (List Char)) :
    (pathText names keys).takeWhile (· ≠ '[') = joinWith ['.'] names ∧
      (pathText names keys).dropWhile (· ≠ '[') = keys.flatMap inBrackets := by
  have hbefore : ∀ c ∈ joinWith ['.'] names, decide (c ≠ '[') = true := by
    intro c hc
    rw [decide_eq_true_eq]
    rintro rfl
    rcases Text.mem_joinWith hc with hdot | ⟨name, hname, hc⟩
    · cases List.mem_singleton.1 hdot
    · exact ((hnames name hname).2.1 '[' hc).2 (by decide)
  rw [pathText, List.takeWhile_append_of_pos hbefore, List.dropWhile_append_of_pos hbefore]
  cases keys with
  | nil => exact ⟨List.append_nil _, rfl⟩
  | cons key keys => exact ⟨List.append_nil _, rfl⟩

/-- The names of a path are what it is cut into at its dots. -/
lemma pathSegments_joinWith (hne : names ≠ []) (hnames : ∀ name ∈ names, IsName name) :
    pathSegments (joinWith ['.'] names) = names := by
  have haddress : mentions "://".toList (joinWith ['.'] names) = false :=
    Text.mentions_joinWith (by decide) hne fun name hname => (hnames name hname).2.2
  have hdots : ∀ name ∈ names, '.' ∉ name := fun name hname hdot =>
    ((hnames name hname).2.1 '.' hdot).2 (by decide)
  rw [pathSegments, haddress, if_neg Bool.false_ne_true, Text.pieces_joinWith hne hdots]

/-- A path is read as what its names and keys make. -/
theorem readPath_pathText {path : Path} (hne : names ≠ []) (hnames : ∀ name ∈ names, IsName name)
    (hkeys : ∀ key ∈ keys, IsKey key)
    (hpath : pathOf (names.map String.ofList) (if keys = [] then none else some (keys.map String.ofList)) =
      some path) :
    readPath (pathText names keys) = .ok path := by
  obtain ⟨htake, hdrop⟩ := takeWhile_pathText hnames keys
  -- none of the checks of the reader fails
  have hmarks : ¬ (pathText names keys = [] ∨
      (pathText names keys).any fun c => c = '(' ∨ c = ')' ∨ c = '"' ∨ c = ' ') := by
    simp only [not_or, List.any_eq_true, decide_eq_true_eq, not_exists, not_and]
    refine ⟨pathText_ne_nil hne hnames keys, fun c hc => ?_⟩
    obtain ⟨hblank, hplain⟩ := plain_of_mem_pathText hnames hkeys hc
    simp only [queryMarks, List.mem_cons, List.not_mem_nil, or_false, not_or] at hplain
    refine ⟨hplain.1, hplain.2.1, hplain.2.2.1, ?_⟩
    rintro rfl
    cases hblank
  have hempty : names.contains [] = false := by
    have hnil : [] ∉ names := fun hnil => (hnames [] hnil).1 rfl
    simpa using hnil
  have hkeysRead := compoundKeys_flatMap_inBrackets hkeys
  rw [readPath]
  simp only [hmarks, if_false, htake, hdrop, pathSegments_joinWith hne hnames, hempty, hkeysRead]
  cases keys with
  | nil =>
    rw [if_pos rfl] at hpath
    rw [List.flatMap_nil, if_pos rfl, pure_bind, hpath]
    rfl
  | cons key keys =>
    rw [if_neg (by simp)] at hpath
    have hsome : some <$> (Except.ok ((key :: keys).map String.ofList) : Except QueryFault (List String)) =
        pure (some ((key :: keys).map String.ofList)) := rfl
    rw [if_neg (by simp [inBrackets]), hsome, pure_bind, hpath]
    rfl

end EntityHistory.QueryTerm
