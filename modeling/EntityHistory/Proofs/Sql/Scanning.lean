/-
Scanning the texts of statements.

Which tables a text reads and whether its parentheses match is found by one scan over its characters. What stands
between single quotes is passed over. Outside of them, the words are the longest pieces of letters, digits,
underscores and dots, and the word that follows FROM or JOIN after nothing but blanks is the name of a table; if
a parenthesis follows there, a subquery begins. A closing parenthesis needs an open one.

A text is put together from pieces, and the scan of a piece depends on where the scan of the pieces before it has
come to. What matters of that is kept in a spot: how many parentheses are open, and whether the scan stands
between words, has just gone through a word, is waiting for a table, or is in a quotation. The scans of pieces
compose from spot to spot, and a fixed text is scanned by evaluation.

* `sources`, `IsBalanced`: what a scan of a whole text finds
* `Scans`, `Scans.append`: the scan of a piece, and of several
* `scans_ofList`: the scan of a fixed text
* `Fragment.Scans`: the scan of a fragment, whatever the numbers of its placeholders
-/
import EntityHistory.Proofs.Sql.ReadBack
import Mathlib.Data.List.TakeWhile

namespace EntityHistory.Sql

/-! ### Scanning -/

/-- Where a scan is. -/
inductive Place where
  | between
  /-- In a word. -/
  | word (letters : List Char)
  /-- After FROM or JOIN. -/
  | awaiting
  /-- In the name of a table. -/
  | source (letters : List Char)
  /-- Between single quotes. -/
  | quoted
deriving DecidableEq

/-- What a scan has come to: where it is, the number of open parentheses, and the names of tables so far. -/
structure Scan where
  place : Place
  depth : Nat
  sources : List String

/-- The sign of a quotation. -/
def quoteSign : Char := Char.ofNat 39

def isWordChar (c : Char) : Bool := c.isAlphanum || c = '_' || c = '.'

namespace Place

/-- A word goes on or begins. -/
def grow (c : Char) : Place → Place
  | .between => .word [c]
  | .word letters => .word (letters ++ [c])
  | .awaiting => .source [c]
  | .source letters => .source (letters ++ [c])
  | .quoted => .quoted

/-- The name of a table comes next, if only blanks come before it. -/
def expectsTable : Place → Bool
  | .word letters => letters = ['F', 'R', 'O', 'M'] || letters = ['J', 'O', 'I', 'N']
  | .awaiting => true
  | _ => false

/-- What comes after a character that is in no word. -/
def leave (c : Char) (p : Place) : Place :=
  if c = quoteSign then .quoted
  else if c.isWhitespace && p.expectsTable then .awaiting
  else .between

/-- The table whose name ends here. -/
def found : Place → List String
  | .source letters => [String.ofList letters]
  | _ => []

end Place

namespace Scan

/-- One more character. -/
def next (s : Scan) (c : Char) : Option Scan :=
  if s.place = .quoted then some { s with place := if c = quoteSign then .between else .quoted }
  else if isWordChar c then some { s with place := s.place.grow c }
  else
    let left : Scan := { s with place := s.place.leave c, sources := s.sources ++ s.place.found }
    if c = '(' then some { left with depth := s.depth + 1 }
    else if c = ')' then if s.depth = 0 then none else some { left with depth := s.depth - 1 }
    else some left

/-- Several more characters; without a result if a parenthesis is closed that is not open. -/
def advance (s : Scan) (cs : List Char) : Option Scan := cs.foldlM next s

end Scan

/-- The scan of a whole text. -/
def scanned (text : String) : Option Scan := Scan.advance ⟨.between, 0, []⟩ text.toList

/-- The tables that a text reads, as far as it can be scanned. -/
def sources (text : String) : List String :=
  match scanned text with
  | some s => s.sources ++ s.place.found
  | none => []

/-- The parentheses of a text match, and its quotations end. -/
def IsBalanced (text : String) : Prop := ∃ s, scanned text = some s ∧ s.depth = 0 ∧ s.place ≠ .quoted

/-! ### Spots -/

/-- What matters of the place that a scan has come to. -/
inductive Border where
  /-- It is between words. -/
  | fresh
  /-- It is in a word that begins with a small letter. -/
  | stem
  /-- It is between words or in one that has an end here. -/
  | quiet
  /-- It is waiting for a table. -/
  | awaiting
  /-- It is in a quotation. -/
  | quoted

def Border.admits : Border → Place → Bool
  | .fresh, p => p = .between
  | .stem, .word (c :: _) => c.isLower
  | .stem, _ => false
  | .quiet, p => p ≠ .quoted && !p.expectsTable
  | .awaiting, p => p = .awaiting
  | .quoted, p => p = .quoted

/-- What matters of what a scan has come to. -/
structure Spot where
  border : Border
  depth : Nat

/-- From one spot the scan of a text leads to another, and the names of tables that end in the text, or with it,
are the given ones. -/
def Scans (a : Spot) (text : String) (b : Spot) (names : List String) : Prop :=
  ∀ p, a.border.admits p = true → ∃ p' found,
    Scan.advance ⟨p, a.depth, []⟩ text.toList = some ⟨p', b.depth, found⟩ ∧ b.border.admits p' = true ∧
      p.found ++ names = found ++ p'.found

variable {a b c : Spot} {s t text : String} {names names' : List String} {p : Place} {cs : List Char} {i : Nat}

lemma advance_append (r : Scan) (cs cs' : List Char) :
    r.advance (cs ++ cs') = r.advance cs >>= fun r' => r'.advance cs' := List.foldlM_append

lemma next_under (d : Nat) (ns : List String) {r r' : Scan} {c : Char} (h : r.next c = some r') :
    Scan.next ⟨r.place, d + r.depth, ns ++ r.sources⟩ c = some ⟨r'.place, d + r'.depth, ns ++ r'.sources⟩ := by
  obtain ⟨p, i, ms⟩ := r
  rw [Scan.next] at h ⊢
  dsimp only at h ⊢
  by_cases hquoted : p = .quoted
  · rw [if_pos hquoted] at h ⊢
    obtain rfl := Option.some.inj h
    rfl
  by_cases hword : isWordChar c = true
  · rw [if_neg hquoted, if_pos hword] at h ⊢
    obtain rfl := Option.some.inj h
    rfl
  rw [if_neg hquoted, if_neg hword] at h ⊢
  by_cases hopen : c = '('
  · rw [if_pos hopen] at h ⊢
    obtain rfl := Option.some.inj h
    rw [← Nat.add_assoc, List.append_assoc]
  by_cases hclose : c = ')'
  · rw [if_neg hopen, if_pos hclose] at h ⊢
    by_cases hzero : i = 0
    · rw [if_pos hzero] at h
      cases h
    · rw [if_neg hzero] at h
      obtain rfl := Option.some.inj h
      rw [if_neg (by omega), Nat.add_sub_assoc (Nat.pos_of_ne_zero hzero), List.append_assoc]
  · rw [if_neg hopen, if_neg hclose] at h ⊢
    obtain rfl := Option.some.inj h
    rw [List.append_assoc]

/-- Open parentheses and tables from before do not matter for a scan. -/
lemma advance_under (d : Nat) (ns : List String) {r r' : Scan} (h : r.advance cs = some r') :
    Scan.advance ⟨r.place, d + r.depth, ns ++ r.sources⟩ cs = some ⟨r'.place, d + r'.depth, ns ++ r'.sources⟩ := by
  induction cs generalizing r with
  | nil =>
    obtain rfl : r = r' := Option.some.inj h
    rfl
  | cons c cs ih =>
    rw [Scan.advance, List.foldlM_cons] at h
    obtain ⟨r₁, hnext, hrest⟩ := Option.bind_eq_some_iff.1 h
    rw [Scan.advance, List.foldlM_cons, next_under d ns hnext]
    exact ih hrest

lemma advance_sources (ns : List String) {p' : Place} {j : Nat} {ms : List String}
    (h : Scan.advance ⟨p, i, []⟩ cs = some ⟨p', j, ms⟩) : Scan.advance ⟨p, i, ns⟩ cs = some ⟨p', j, ns ++ ms⟩ := by
  simpa using advance_under 0 ns h

/-! ### Composition -/

lemma scans_empty (a : Spot) : Scans a "" a [] := fun p hp => ⟨p, [], rfl, hp, by simp⟩

lemma Scans.append (hs : Scans a s b names) (ht : Scans b t c names') : Scans a (s ++ t) c (names ++ names') := by
  intro p hp
  obtain ⟨p', found, hadvance, hp', hfound⟩ := hs p hp
  obtain ⟨p'', found', hadvance', hp'', hfound'⟩ := ht p' hp'
  refine ⟨p'', found ++ found', ?_, hp'', ?_⟩
  · rw [String.toList_append, advance_append, hadvance]
    exact advance_sources found hadvance'
  · rw [← List.append_assoc, hfound, List.append_assoc, hfound', List.append_assoc]

/-- More parentheses may be open. -/
lemma Scans.under (h : Scans a s b names) (d : Nat) :
    Scans ⟨a.border, d + a.depth⟩ s ⟨b.border, d + b.depth⟩ names := by
  intro p hp
  obtain ⟨p', found, hadvance, hp', hfound⟩ := h p hp
  refine ⟨p', found, ?_, hp', hfound⟩
  simpa using advance_under d [] hadvance

/-- What a border admits is admitted by a wider one. -/
def Border.Within (x y : Border) : Prop := ∀ p, x.admits p = true → y.admits p = true

lemma fresh_within_quiet : Border.Within .fresh .quiet := by
  intro p hp
  obtain rfl : p = .between := by simpa [Border.admits] using hp
  rfl

lemma stem_within_quiet : Border.Within .stem .quiet := by
  intro p hp
  match p, hp with
  | .word (c :: cs), hp =>
    have hlower : ∀ d, d.isLower = false → c ≠ d := fun d hd hcd => by
      rw [Border.admits, hcd, hd] at hp
      cases hp
    simp [Border.admits, Place.expectsTable, hlower 'F' rfl, hlower 'J' rfl]

lemma Scans.narrow {x : Border} (h : Scans a s b names) (hx : x.Within a.border) : Scans ⟨x, a.depth⟩ s b names :=
  fun p hp => h p (hx p hp)

lemma Scans.widen {x : Border} (h : Scans a s b names) (hx : b.border.Within x) :
    Scans a s ⟨x, b.depth⟩ names := by
  intro p hp
  obtain ⟨p', found, hadvance, hp', hfound⟩ := h p hp
  exact ⟨p', found, hadvance, hx p' hp', hfound⟩

/-! ### Words -/

/-- A text that is one word. -/
structure IsWord (text : String) : Prop where
  ne_nil : text.toList ≠ []
  isWordChar : ∀ c ∈ text.toList, isWordChar c = true

lemma isWord_ofList (h : (cs ≠ [] && cs.all isWordChar) = true) : IsWord (String.ofList cs) := by
  rw [Bool.and_eq_true, decide_eq_true_eq, List.all_eq_true] at h
  exact ⟨by simpa using h.1, by simpa using h.2⟩

lemma IsWord.append (hs : IsWord s) (ht : ∀ c ∈ t.toList, Sql.isWordChar c = true) : IsWord (s ++ t) := by
  refine ⟨by simp [hs.ne_nil], fun c hc => ?_⟩
  rw [String.toList_append, List.mem_append] at hc
  exact hc.elim (hs.isWordChar c) (ht c)

lemma isWordChar_of_isDigit {c : Char} (h : c.isDigit = true) : isWordChar c = true := by
  simp [isWordChar, Char.isAlphanum, h]

lemma next_of_isWordChar {r : Scan} {c : Char} (hplace : r.place ≠ .quoted) (hc : isWordChar c = true) :
    r.next c = some { r with place := r.place.grow c } := by
  rw [Scan.next, if_neg hplace, if_pos hc]

lemma advance_word (letters : List Char) (h : ∀ c ∈ cs, isWordChar c = true) (i : Nat) (ns : List String) :
    Scan.advance ⟨.word letters, i, ns⟩ cs = some ⟨.word (letters ++ cs), i, ns⟩ := by
  induction cs generalizing letters with
  | nil => simp [Scan.advance]
  | cons c cs ih =>
    obtain ⟨hc, hcs⟩ := List.forall_mem_cons.1 h
    rw [Scan.advance, List.foldlM_cons, next_of_isWordChar (by simp) hc]
    exact (ih (letters ++ [c]) hcs).trans (by simp)

lemma advance_source (letters : List Char) (h : ∀ c ∈ cs, isWordChar c = true) (i : Nat) (ns : List String) :
    Scan.advance ⟨.source letters, i, ns⟩ cs = some ⟨.source (letters ++ cs), i, ns⟩ := by
  induction cs generalizing letters with
  | nil => simp [Scan.advance]
  | cons c cs ih =>
    obtain ⟨hc, hcs⟩ := List.forall_mem_cons.1 h
    rw [Scan.advance, List.foldlM_cons, next_of_isWordChar (by simp) hc]
    exact (ih (letters ++ [c]) hcs).trans (by simp)

/-- The word that a table is waited for with is its name. -/
lemma IsWord.scans_awaiting (h : IsWord text) (i : Nat) : Scans ⟨.awaiting, i⟩ text ⟨.quiet, i⟩ [text] := by
  intro p hp
  obtain rfl : p = .awaiting := by simpa [Border.admits] using hp
  obtain ⟨c, cs, hcs⟩ := List.exists_cons_of_ne_nil h.ne_nil
  have hword := h.isWordChar
  rw [hcs, List.forall_mem_cons] at hword
  refine ⟨.source (c :: cs), [], ?_, rfl, ?_⟩
  · rw [hcs, Scan.advance, List.foldlM_cons, next_of_isWordChar (by simp) hword.1]
    exact advance_source [c] hword.2 i []
  · rw [Place.found, ← hcs, String.ofList_toList]
    rfl

/-- A word that begins with a small letter. -/
lemma IsWord.scans_fresh (h : IsWord text) (hlower : (text.toList.headD ' ').isLower = true) (i : Nat) :
    Scans ⟨.fresh, i⟩ text ⟨.stem, i⟩ [] := by
  intro p hp
  obtain rfl : p = .between := by simpa [Border.admits] using hp
  obtain ⟨c, cs, hcs⟩ := List.exists_cons_of_ne_nil h.ne_nil
  have hword := h.isWordChar
  rw [hcs, List.forall_mem_cons] at hword
  refine ⟨.word (c :: cs), [], ?_, ?_, rfl⟩
  · rw [hcs, Scan.advance, List.foldlM_cons, next_of_isWordChar (by simp) hword.1]
    exact advance_word [c] hword.2 i []
  · rwa [hcs] at hlower

/-- A word that goes on. -/
lemma IsWord.scans_stem (h : IsWord text) (i : Nat) : Scans ⟨.stem, i⟩ text ⟨.stem, i⟩ [] := by
  intro p hp
  match p, hp with
  | .word (c :: cs), hp => exact ⟨.word (c :: cs ++ text.toList), [], advance_word _ h.isWordChar i [], hp, rfl⟩

/-! ### Fixed texts -/

/-- Whether the scan of characters leads from a place, where no word is, to a spot. -/
def leads (p : Place) (i : Nat) (cs : List Char) (b : Spot) (names : List String) : Bool :=
  match Scan.advance ⟨p, i, []⟩ cs with
  | some s => b.border.admits s.place && s.depth = b.depth && s.sources ++ s.place.found = names
  | none => false

/-- Whether the scan of a fixed text leads from one spot to another. -/
def fits (a : Spot) (cs : List Char) (b : Spot) (names : List String) : Bool :=
  match a.border with
  | .fresh => leads .between a.depth cs b names
  | .stem => cs.any (fun c => !isWordChar c) && leads .between a.depth (cs.dropWhile isWordChar) b names
  | .quiet => cs.head?.any (fun c => !isWordChar c) && leads .between a.depth cs b names
  | .awaiting => leads .awaiting a.depth cs b names
  | .quoted => leads .quoted a.depth cs b names

lemma exists_of_leads (hp : p.found = []) (h : leads p i cs b names = true) :
    ∃ p' found, Scan.advance ⟨p, i, []⟩ cs = some ⟨p', b.depth, found⟩ ∧ b.border.admits p' = true ∧
      p.found ++ names = found ++ p'.found := by
  rw [leads] at h
  split at h
  case h_1 r hadvance =>
    simp only [Bool.and_eq_true, decide_eq_true_eq] at h
    obtain ⟨⟨hadmits, hdepth⟩, hnames⟩ := h
    exact ⟨r.place, r.sources, by rw [hadvance, ← hdepth], hadmits, by rw [hp, List.nil_append, hnames]⟩
  case h_2 => cases h

/-- A word that has an end where a text goes on does not matter for the scan of the text. -/
lemma advance_of_quiet {c : Char} (hp : Border.quiet.admits p = true) (hc : isWordChar c = false) (i : Nat) :
    Scan.advance ⟨p, i, []⟩ (c :: cs) = Scan.advance ⟨.between, i, p.found⟩ (c :: cs) := by
  obtain ⟨hquoted, hexpects⟩ : p ≠ .quoted ∧ p.expectsTable = false := by simpa [Border.admits] using hp
  have hleave : p.leave c = Place.between.leave c := by
    rw [Place.leave, Place.leave, hexpects]
    rfl
  have hnext : Scan.next ⟨p, i, []⟩ c = Scan.next ⟨.between, i, p.found⟩ c := by
    simp [Scan.next, hquoted, hc, hleave, Place.found]
  rw [Scan.advance, Scan.advance, List.foldlM_cons, List.foldlM_cons, hnext]

lemma exists_of_leads_quiet {c : Char} (hp : Border.quiet.admits p = true) (hc : isWordChar c = false)
    (h : leads .between i (c :: cs) b names = true) :
    ∃ p' found, Scan.advance ⟨p, i, []⟩ (c :: cs) = some ⟨p', b.depth, found⟩ ∧ b.border.admits p' = true ∧
      p.found ++ names = found ++ p'.found := by
  obtain ⟨p', found, hadvance, hadmits, hfound⟩ := exists_of_leads rfl h
  refine ⟨p', p.found ++ found, ?_, hadmits, ?_⟩
  · rw [advance_of_quiet hp hc]
    exact advance_sources p.found hadvance
  · rw [List.append_assoc, ← hfound]
    rfl

/-- A word goes on, and then has an end. -/
lemma exists_of_leads_stem (hp : Border.stem.admits p = true) (hend : cs.any (fun c => !isWordChar c) = true)
    (h : leads .between i (cs.dropWhile isWordChar) b names = true) :
    ∃ p' found, Scan.advance ⟨p, i, []⟩ cs = some ⟨p', b.depth, found⟩ ∧ b.border.admits p' = true ∧
      p.found ++ names = found ++ p'.found := by
  match p, hp with
  | .word (d :: ds), hp =>
    have hgrow : ∀ c ∈ cs.takeWhile isWordChar, isWordChar c = true := fun c hc => List.mem_takeWhile_imp hc
    have hadvance := advance_word (d :: ds) hgrow i []
    obtain ⟨c, rest, hrest⟩ : ∃ c rest, cs.dropWhile isWordChar = c :: rest := by
      refine List.exists_cons_of_ne_nil fun hnil => ?_
      obtain ⟨c, hc, hnot⟩ := List.any_eq_true.1 hend
      rw [List.dropWhile_eq_nil_iff] at hnil
      rw [hnil c hc] at hnot
      cases hnot
    have hc : isWordChar c = false := by
      have hhead := List.head_dropWhile_not isWordChar (by rw [hrest]; exact List.cons_ne_nil c rest)
      simpa [hrest] using hhead
    have hquiet : Border.quiet.admits (.word (d :: ds ++ cs.takeWhile isWordChar)) = true :=
      stem_within_quiet _ hp
    rw [hrest] at h
    obtain ⟨p', found, hadvance', hadmits, hfound⟩ := exists_of_leads_quiet hquiet hc h
    refine ⟨p', found, ?_, hadmits, hfound⟩
    rw [← List.takeWhile_append_dropWhile (p := isWordChar) (l := cs), advance_append, hadvance, hrest]
    exact hadvance'

/-- The form in which a fixed text is scanned. -/
lemma scans_ofList (h : fits a cs b names = true) : Scans a (String.ofList cs) b names := by
  obtain ⟨border, i⟩ := a
  intro p hp
  rw [String.toList_ofList]
  cases border with
  | fresh =>
    obtain rfl : p = .between := by simpa [Border.admits] using hp
    exact exists_of_leads rfl h
  | awaiting =>
    obtain rfl : p = .awaiting := by simpa [Border.admits] using hp
    exact exists_of_leads rfl h
  | quoted =>
    obtain rfl : p = .quoted := by simpa [Border.admits] using hp
    exact exists_of_leads rfl h
  | quiet =>
    rw [fits, Bool.and_eq_true] at h
    cases cs with
    | nil => cases h.1
    | cons c cs => exact exists_of_leads_quiet hp (by simpa using h.1) h.2
  | stem =>
    rw [fits, Bool.and_eq_true] at h
    exact exists_of_leads_stem hp h.1 h.2

/-! ### Chains of pieces -/

/-- A text that reads nothing, and what comes after it. -/
lemma Scans.andThen (hs : Scans a s b []) (ht : Scans b t c names) : Scans a (s ++ t) c names := hs.append ht

/-- A text, and after it one that reads nothing. -/
lemma Scans.andLast (hs : Scans a s b names) (ht : Scans b t c []) : Scans a (s ++ t) c names := by
  have happend := hs.append ht
  rwa [List.append_nil] at happend

/-- A fixed text that reads nothing, with the spot that it leads to, and what comes after it. -/
lemma Scans.literal (b : Spot) (h : fits a cs b [] = true) (ht : Scans b t c names) :
    Scans a (String.ofList cs ++ t) c names := (scans_ofList h).andThen ht

/-- The name of a table, and what comes after it. -/
lemma Scans.source (h : IsWord s) (ht : Scans ⟨.quiet, i⟩ t c names) :
    Scans ⟨.awaiting, i⟩ (s ++ t) c (s :: names) := (h.scans_awaiting i).append ht

/-! ### Whole texts -/

lemma Scans.sources_eq (h : Scans ⟨.fresh, 0⟩ text ⟨.quiet, 0⟩ names) : sources text = names := by
  obtain ⟨p', found, hadvance, -, hfound⟩ := h .between rfl
  rw [sources, scanned, hadvance]
  exact hfound.symm

example : sources "SELECT x FROM t a JOIN (SELECT y FROM u WHERE z <> ' FROM (v') b ON a.x = b.y" =
    ["t", "u"] := by
  decide +kernel

lemma Scans.isBalanced (h : Scans ⟨.fresh, 0⟩ text ⟨.quiet, 0⟩ names) : IsBalanced text := by
  obtain ⟨p', found, hadvance, hadmits, -⟩ := h .between rfl
  refine ⟨_, hadvance, rfl, ?_⟩
  rintro rfl
  cases hadmits

/-! ### Fragments -/

namespace Fragment

variable {f g : Fragment}

/-- From one spot the scan of a fragment leads to another, whatever the numbers of its placeholders. -/
def Scans (a : Spot) (f : Fragment) (b : Spot) (names : List String) : Prop :=
  ∀ n, Sql.Scans a (f.textFrom n) b names

lemma scans_text (h : Sql.Scans a text b names) : Scans a (Sql.text text) b names := fun n => by
  rwa [textFrom_text]

lemma Scans.under (h : Scans a f b names) (d : Nat) :
    Scans ⟨a.border, d + a.depth⟩ f ⟨b.border, d + b.depth⟩ names := fun n => (h n).under d

lemma Scans.narrow {x : Border} (h : Scans a f b names) (hx : x.Within a.border) : Scans ⟨x, a.depth⟩ f b names :=
  fun n => (h n).narrow hx

lemma Scans.widen {x : Border} (h : Scans a f b names) (hx : b.border.Within x) : Scans a f ⟨x, b.depth⟩ names :=
  fun n => (h n).widen hx

/-- A placeholder is a sign and a word of digits. -/
lemma scans_bind (v : Value) (i : Nat) : Scans ⟨.quiet, i⟩ (bind v) ⟨.quiet, i⟩ [] := by
  intro n
  have hsign : Sql.Scans ⟨.quiet, 0⟩ "$" ⟨.fresh, 0⟩ [] := scans_ofList rfl
  have hdigits : Sql.Scans ⟨.fresh, i⟩ (toString (n + 1)) ⟨.quiet, i⟩ [] := by
    intro p hp
    obtain rfl : p = .between := by simpa [Border.admits] using hp
    have hdigit : ∀ c ∈ Nat.toDigits 10 (n + 1), c.isDigit = true := fun c hc =>
      Nat.isDigit_of_mem_toDigits (by decide) (by decide) hc
    obtain ⟨c, cs, hcs⟩ := List.exists_cons_of_ne_nil (Nat.toDigits_ne_nil (n := n + 1) (b := 10))
    rw [hcs, List.forall_mem_cons] at hdigit
    have hne : ∀ d : Char, d.isDigit = false → c ≠ d := fun d hd hcd => by
      rw [hcd, hd] at hdigit
      cases hdigit.1
    refine ⟨.word (c :: cs), [], ?_, ?_, rfl⟩
    · rw [Nat.toString_eq_ofList_toDigits, String.toList_ofList, hcs, Scan.advance, List.foldlM_cons,
        next_of_isWordChar (by simp) (isWordChar_of_isDigit hdigit.1)]
      exact advance_word [c] (fun d hd => isWordChar_of_isDigit (hdigit.2 d hd)) i []
    · simp [Border.admits, Place.expectsTable, hne 'F' rfl, hne 'J' rfl]
  rw [textFrom_bind]
  exact (hsign.under i).append hdigits

/-- Fragments with a text between them that reads nothing. -/
lemma scans_separated {ι : Type*} {separator : String} {f : ι → Fragment} {names : ι → List String} {xs : List ι}
    (hseparator : Sql.Scans ⟨.quiet, 0⟩ separator ⟨.fresh, 0⟩ [])
    (h : ∀ x ∈ xs, Scans ⟨.fresh, 0⟩ (f x) ⟨.quiet, 0⟩ (names x)) :
    Scans ⟨.fresh, 0⟩ (separated separator (xs.map f)) ⟨.quiet, 0⟩ (xs.flatMap names) := by
  induction xs with
  | nil => exact fun n => (scans_empty _).widen fresh_within_quiet
  | cons x xs ih =>
    obtain ⟨hx, hrest⟩ := List.forall_mem_cons.1 h
    cases xs with
    | nil => simpa [separated] using hx
    | cons y ys =>
      intro n
      rw [List.map_cons, List.map_cons, separated, textFrom_append, textFrom_append, textFrom_text,
        String.append_assoc]
      · exact (hx n).append (hseparator.andThen (ih hrest _))
      · simp

/-- Fragments that read nothing, with such a text between them. -/
lemma scans_separated_nil {ι : Type*} {separator : String} {f : ι → Fragment} {xs : List ι}
    (hseparator : Sql.Scans ⟨.quiet, 0⟩ separator ⟨.fresh, 0⟩ [])
    (h : ∀ x ∈ xs, Scans ⟨.fresh, 0⟩ (f x) ⟨.quiet, 0⟩ []) :
    Scans ⟨.fresh, 0⟩ (separated separator (xs.map f)) ⟨.quiet, 0⟩ [] := by
  have hnil : xs.flatMap (fun _ => ([] : List String)) = [] := List.flatMap_eq_nil_iff.2 fun _ _ => rfl
  rw [← hnil]
  exact scans_separated hseparator h

/-- A fragment that is rendered by itself and read back is scanned like the fragment. -/
lemma Scans.respliced (h : Scans a f b names) (hf : IsClear f) : Scans a f.respliced b names := fun n => by
  rw [hf.textFrom_respliced]
  exact h n

end Fragment

end EntityHistory.Sql
