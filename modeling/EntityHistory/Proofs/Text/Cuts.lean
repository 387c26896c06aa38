/-
What a cut outside quotes gives.

A cut puts nothing in and leaves nothing out but the separators that it finds, and it finds them all: going from left
to right, it takes the next one outside quotes behind the last, so that none begins in a piece or overlaps another. It
fails only at a slice that would begin inside a character, and it does fail where a wide character stands outside
quotes.

* `Text.IsCut`: what the pieces of a text are;
* `Text.exists_isCut_of_cutOutsideFrom`: a cut gives such pieces;
* `Text.cutReporting`: the walk over the bytes that tells which slice is not there;
* `Text.cutReporting_exact`: when there are pieces, and which slice is missing otherwise.
-/
import EntityHistory.Proofs.Text.Exposed
import EntityHistory.Proofs.Text.Pieces

namespace EntityHistory.Text

variable {separator raw cs ds rest piece : List Char} {pieces : List (List Char)} {c : Char} {q : Quoting}
  {start stop index n k : Nat} {ns : List Nat} {occurs occurs' : Nat → Prop}

/-! ### Specification -/

/-- A separator begins outside quotes behind so many characters of a text. -/
def Unquoted (separator : List Char) (q : Quoting) (cs : List Char) (n : Nat) : Prop :=
  ∃ before after, cs = before ++ (separator ++ after) ∧ before.length = n ∧ q.after before = .outside

/-- The places of occurrences of a given length, where from a start on the next one is taken and then the next one
behind it. -/
inductive Leftmost (occurs : Nat → Prop) (length : Nat) : Nat → List Nat → Prop
  | done {start : Nat} (hnone : ∀ n, start ≤ n → ¬ occurs n) : Leftmost occurs length start []
  | next {start n : Nat} {ns : List Nat} (hle : start ≤ n) (hn : occurs n)
      (hfirst : ∀ k, start ≤ k → k < n → ¬ occurs k) (h : Leftmost occurs length (n + length) ns) :
      Leftmost occurs length start (n :: ns)

/-- A position between two characters of a text, in bytes. -/
def IsBoundary (raw : List Char) (n : Nat) : Prop := ∃ before after, raw = before ++ after ∧ size before = n

/-- The slice between two positions, or else these positions. -/
def sliceOrBounds (raw : List Char) (start stop : Nat) : Except (Nat × Nat) (List Char) :=
  match slice? raw start stop with
  | some piece => .ok piece
  | none => .error (start, stop)

/-- The pieces of a text between the separators outside quotes, found byte by byte, or the first slice that is not
there: `start` is where the current piece begins, and `index` is the byte that is looked at. -/
def cutReporting (separator raw : List Char) (q : Quoting) (start index : Nat) :
    Except (Nat × Nat) (List (List Char)) :=
  match _hb : (bytes raw)[index]? with
  | none => do
    let piece ← sliceOrBounds raw start (size raw)
    pure [piece]
  | some b =>
    if q = .outside ∧ b ≠ 34 then do
      let rest ← sliceOrBounds raw index (size raw)
      if _hfound : (afterSeparator separator rest).isSome then
        let piece ← sliceOrBounds raw start index
        let pieces ← cutReporting separator raw .outside (index + size separator) (index + size separator)
        pure (piece :: pieces)
      else cutReporting separator raw .outside start (index + 1)
    else cutReporting separator raw (q.nextByte b) start (index + 1)
termination_by size raw - index
decreasing_by
  all_goals
    have hindex : index < size raw := (List.getElem?_eq_some_iff.1 _hb).1
  · have hne : separator ≠ [] := by
      rintro rfl
      simp [afterSeparator] at _hfound
    have hpos := size_pos hne
    omega
  · omega
  · omega

/-- What the pieces of a text are: its separators between them give the text, no separator begins in a piece outside
quotes, and there is one piece more than there are separators. -/
structure IsCut (separator : List Char) (q : Quoting) (cs piece : List Char) (pieces : List (List Char))
    (places : List Nat) : Prop where
  join_eq : joinWith separator (piece :: pieces) = cs
  first : ∀ n, ¬ Unquoted separator q piece n
  others : ∀ part ∈ pieces, ∀ n, ¬ Unquoted separator .outside part n
  leftmost : Leftmost (Unquoted separator q cs) separator.length 0 places
  length_eq : pieces.length = places.length

/-! ### Separators outside quotes -/

lemma unquoted_zero_iff : Unquoted separator q cs 0 ↔ q = .outside ∧ ∃ after, cs = separator ++ after := by
  constructor
  · rintro ⟨before, after, rfl, hlength, hq⟩
    obtain rfl := List.eq_nil_of_length_eq_zero hlength
    exact ⟨hq, after, rfl⟩
  · rintro ⟨rfl, after, rfl⟩
    exact ⟨[], after, rfl, rfl, rfl⟩

lemma unquoted_succ_iff : Unquoted separator q (c :: cs) (n + 1) ↔ Unquoted separator (q.next c) cs n := by
  constructor
  · rintro ⟨before, after, heq, hlength, hq⟩
    cases before with
    | nil => cases hlength
    | cons d before =>
      obtain ⟨rfl, rfl⟩ := List.cons.inj heq
      exact ⟨before, after, rfl, Nat.succ.inj hlength, hq⟩
  · rintro ⟨before, after, rfl, rfl, hq⟩
    exact ⟨c :: before, after, rfl, rfl, hq⟩

/-- A text without quotes before another moves the separators of the other. -/
lemma unquoted_append_iff (h : '"' ∉ ds) :
    Unquoted separator .outside (ds ++ cs) (n + ds.length) ↔ Unquoted separator .outside cs n := by
  induction ds with
  | nil => rfl
  | cons d ds ih =>
    rw [List.mem_cons, not_or] at h
    have hnext : Quoting.outside.next d = .outside := if_neg (Ne.symm h.1)
    rw [List.cons_append, List.length_cons, ← Nat.add_assoc, unquoted_succ_iff, hnext, ih h.2]

lemma not_unquoted_nil (hne : separator ≠ []) : ¬ Unquoted separator q [] n := by
  rintro ⟨before, after, heq, -⟩
  exact hne (List.append_eq_nil_iff.1 (List.append_eq_nil_iff.1 heq.symm).2).1

/-- Occurrences that are all moved are taken at the moved places. -/
lemma Leftmost.shift {length : Nat} (h : Leftmost occurs' length start ns)
    (hshift : ∀ n, occurs (n + k) ↔ occurs' n) : Leftmost occurs length (start + k) (ns.map (· + k)) := by
  have hback {n : Nat} (hle : start + k ≤ n) : occurs n ↔ occurs' (n - k) := by
    rw [← hshift, Nat.sub_add_cancel (Nat.le_trans (Nat.le_add_left k start) hle)]
  induction h with
  | done hnone => exact .done fun n hle hn => hnone (n - k) (by omega) ((hback hle).1 hn)
  | @next start n ns hle hn hfirst h ih =>
    refine .next (Nat.add_le_add_right hle k) ((hshift n).2 hn) (fun m hm hlt hoccurs => ?_) ?_
    · exact hfirst (m - k) (by omega) (Nat.sub_lt_right_of_lt_add (by omega) hlt) ((hback hm).1 hoccurs)
    · have hrest := ih fun hle' => by
        rw [← hshift, Nat.sub_add_cancel (by omega)]
      rwa [Nat.add_right_comm] at hrest

/-- A start at which nothing occurs may be left out. -/
lemma Leftmost.of_succ {length : Nat} (h : Leftmost occurs length (start + 1) ns) (hstart : ¬ occurs start) :
    Leftmost occurs length start ns := by
  have hskip {n : Nat} (hle : start ≤ n) (hn : occurs n) : start + 1 ≤ n :=
    Nat.succ_le_of_lt (Nat.lt_of_le_of_ne hle fun heq => hstart (heq ▸ hn))
  cases h with
  | done hnone => exact .done fun n hle hn => hnone n (hskip hle hn) hn
  | next hle hn hfirst h =>
    exact .next (by omega) hn (fun k hle hlt hk => hfirst k (hskip hle hk) hlt hk) h

/-! ### Pieces -/

lemma isCut_nil (hne : separator ≠ []) (q : Quoting) : IsCut separator q [] [] [] [] :=
  ⟨rfl, fun _ => not_unquoted_nil hne, by simp, .done fun _ _ => not_unquoted_nil hne, rfl⟩

/-- A piece ends at a separator. -/
lemma IsCut.separate (h : IsCut separator .outside cs piece pieces ns) (hne : separator ≠ []) (hquote : '"' ∉ separator) :
    IsCut separator .outside (separator ++ cs) [] (piece :: pieces) (0 :: ns.map (· + separator.length)) := by
  refine ⟨?_, fun _ => not_unquoted_nil hne, ?_, ?_, by simp [h.length_eq]⟩
  · rw [joinWith_cons_cons, h.join_eq, List.nil_append]
  · exact List.forall_mem_cons.2 ⟨h.first, h.others⟩
  · refine .next (Nat.le_refl 0) (unquoted_zero_iff.2 ⟨rfl, cs, rfl⟩) (fun k _ hlt => absurd hlt (Nat.not_lt_zero k)) ?_
    exact h.leftmost.shift fun n => unquoted_append_iff hquote

/-- Where no separator begins outside quotes, a character belongs to the piece. -/
lemma IsCut.grow (h : IsCut separator (q.next c) cs piece pieces ns) (hnot : ¬ Unquoted separator q (c :: cs) 0) :
    IsCut separator q (c :: cs) (c :: piece) pieces (ns.map (· + 1)) := by
  have hjoin : joinWith separator ((c :: piece) :: pieces) = c :: cs := by
    rw [← h.join_eq]
    cases pieces with
    | nil => rw [joinWith_one, joinWith_one]
    | cons next pieces => rw [joinWith_cons_cons, joinWith_cons_cons, List.cons_append]
  refine ⟨hjoin, fun n hn => ?_, h.others, ?_, by simp [h.length_eq]⟩
  · cases n with
    | zero =>
      -- the piece begins the text, so the separator would begin it as well
      obtain ⟨hq, after, heq⟩ := unquoted_zero_iff.1 hn
      refine hnot (unquoted_zero_iff.2 ⟨hq, ?_⟩)
      rw [← hjoin, heq]
      cases pieces with
      | nil => exact ⟨after, joinWith_one ..⟩
      | cons next pieces => exact ⟨_, by rw [joinWith_cons_cons, List.append_assoc]⟩
    | succ n => exact h.first n (unquoted_succ_iff.1 hn)
  · exact (h.leftmost.shift fun n => unquoted_succ_iff).of_succ hnot

lemma not_unquoted_zero_of_afterSeparator (hne : separator ≠ []) (h : afterSeparator separator cs = none) :
    ¬ Unquoted separator q cs 0 := by
  rw [unquoted_zero_iff]
  rintro ⟨-, after, rfl⟩
  rw [afterSeparator, if_neg hne, afterPhrase_eq_some_iff.2 rfl] at h
  cases h

/-- A separator does not begin with a quote. -/
lemma not_unquoted_zero_of_quote (hne : separator ≠ []) (hquote : '"' ∉ separator) :
    ¬ Unquoted separator q ('"' :: cs) 0 := by
  rw [unquoted_zero_iff]
  rintro ⟨-, after, heq⟩
  obtain ⟨s, separator, rfl⟩ := List.exists_cons_of_ne_nil hne
  obtain ⟨rfl, -⟩ := List.cons.inj heq
  exact hquote List.mem_cons_self

/-- What a cut gives are the pieces of the text. -/
lemma exists_isCut_of_cutOutsideFrom (hne : separator ≠ []) (hquote : '"' ∉ separator) {parts : List (List Char)}
    (h : cutOutsideFrom separator q cs = some parts) :
    ∃ piece pieces places, parts = piece :: pieces ∧ IsCut separator q cs piece pieces places := by
  induction q, cs using cutOutsideFrom.induct separator generalizing parts with
  | case1 q =>
    rw [cutOutsideFrom] at h
    obtain rfl := Option.some.inj h
    exact ⟨[], [], [], rfl, isCut_nil hne q⟩
  | case2 q c cs hq rest hfound ih =>
    obtain ⟨rfl, hc⟩ := hq
    rw [cutOutsideFrom_cons_of_found hc hfound] at h
    obtain ⟨parts, hparts, rfl⟩ := Option.map_eq_some_iff.1 h
    obtain ⟨piece, pieces, places, rfl, hcut⟩ := ih hparts
    rw [eq_append_of_afterSeparator hfound]
    exact ⟨[], piece :: pieces, _, rfl, hcut.separate hne hquote⟩
  | case3 q c cs hq hnone hlt ih =>
    obtain ⟨rfl, hc⟩ := hq
    have hnext : Quoting.outside.next c = .outside := if_neg hc
    rw [cutOutsideFrom_cons_of_not_found hc hnone, if_pos hlt] at h
    obtain ⟨parts, hparts, rfl⟩ := Option.map_eq_some_iff.1 h
    obtain ⟨piece, pieces, places, rfl, hcut⟩ := ih hparts
    rw [← hnext] at hcut
    exact ⟨c :: piece, pieces, _, rfl, hcut.grow (not_unquoted_zero_of_afterSeparator hne hnone)⟩
  | case4 q c cs hq hnone hge =>
    obtain ⟨rfl, hc⟩ := hq
    rw [cutOutsideFrom_cons_of_not_found hc hnone, if_neg hge] at h
    cases h
  | case5 q c cs hq ih =>
    rw [cutOutsideFrom_cons_of_inside hq] at h
    obtain ⟨parts, hparts, rfl⟩ := Option.map_eq_some_iff.1 h
    obtain ⟨piece, pieces, places, rfl, hcut⟩ := ih hparts
    refine ⟨c :: piece, pieces, _, rfl, hcut.grow fun hunquoted => ?_⟩
    by_cases hc : c = '"'
    · subst hc
      exact not_unquoted_zero_of_quote hne hquote hunquoted
    · exact hq ⟨(unquoted_zero_iff.1 hunquoted).1, hc⟩

/-! ### Slices that are not there -/

lemma toOption_sliceOrBounds (raw : List Char) (start stop : Nat) :
    (sliceOrBounds raw start stop).toOption = slice? raw start stop := by
  rw [sliceOrBounds]
  cases slice? raw start stop <;> rfl

lemma toOption_bind {ε α β : Type} (x : Except ε α) (f : α → Except ε β) :
    (x >>= f).toOption = x.toOption >>= fun a => (f a).toOption := by
  cases x <;> rfl

/-- At the end the current piece is the last one. -/
lemma cutReporting_of_end (h : (bytes raw)[index]? = none) : cutReporting separator raw q start index = (do
    let piece ← sliceOrBounds raw start (size raw)
    pure [piece]) := by
  rw [cutReporting]
  split
  case h_1 => rfl
  case h_2 b hb => cases hb.symm.trans h

/-- Inside quotes, and at a quote, no slice is taken. -/
lemma cutReporting_of_not_outside {b : UInt8} (hb : (bytes raw)[index]? = some b) (hq : ¬ (q = .outside ∧ b ≠ 34)) :
    cutReporting separator raw q start index = cutReporting separator raw (q.nextByte b) start (index + 1) := by
  rw [cutReporting]
  split
  case h_1 hnone => cases hb.symm.trans hnone
  case h_2 b' hb' =>
    obtain rfl := Option.some.inj (hb.symm.trans hb')
    rw [if_neg hq]

/-- Outside quotes the rest of the text is looked at. -/
lemma cutReporting_of_outside {b : UInt8} (hb : (bytes raw)[index]? = some b) (hne : b ≠ 34) :
    cutReporting separator raw .outside start index = (do
      let rest ← sliceOrBounds raw index (size raw)
      if (afterSeparator separator rest).isSome then
        let piece ← sliceOrBounds raw start index
        let pieces ← cutReporting separator raw .outside (index + size separator) (index + size separator)
        pure (piece :: pieces)
      else cutReporting separator raw .outside start (index + 1)) := by
  rw [cutReporting]
  split
  case h_1 hnone => cases hb.symm.trans hnone
  case h_2 b' hb' =>
    obtain rfl := Option.some.inj (hb.symm.trans hb')
    rw [if_pos ⟨rfl, hne⟩]
    rfl

/-- Apart from telling the slice that is not there, the walk is the one over the bytes. -/
lemma toOption_cutReporting (separator raw : List Char) (q : Quoting) (start index : Nat) :
    (cutReporting separator raw q start index).toOption = cutBytes separator raw q start index := by
  induction q, start, index using cutBytes.induct separator raw with
  | case1 q start index hend =>
    rw [cutReporting_of_end hend, cutBytes, toOption_bind, toOption_sliceOrBounds]
    split
    case h_1 => cases slice? raw start (size raw) <;> rfl
    case h_2 b hb => cases hb.symm.trans hend
  | case2 q start index b hb hq ihfound ih =>
    obtain ⟨rfl, hne⟩ := hq
    rw [cutReporting_of_outside hb hne, cutBytes_of_outside hb hne, toOption_bind, toOption_sliceOrBounds]
    congr 1
    funext rest
    by_cases hfound : (afterSeparator separator rest).isSome = true
    · rw [if_pos hfound, if_pos hfound, toOption_bind, toOption_sliceOrBounds, ← ihfound rest hfound]
      congr 1
      funext piece
      rw [toOption_bind]
      rfl
    · rw [if_neg hfound, if_neg hfound, ih]
  | case3 q start index b hb hq ih =>
    rw [cutReporting_of_not_outside hb hq, cutBytes_of_not_outside hb hq, ih]

lemma sliceOrBounds_eq_pure (h : slice? raw start stop = some piece) : sliceOrBounds raw start stop = pure piece := by
  rw [sliceOrBounds, h]
  rfl

lemma sliceOrBounds_eq_error (h : slice? raw start stop = none) :
    sliceOrBounds raw start stop = .error (start, stop) := by
  rw [sliceOrBounds, h]

lemma isBoundary_zero (raw : List Char) : IsBoundary raw 0 := ⟨[], raw, rfl, rfl⟩

lemma isBoundary_size (raw : List Char) : IsBoundary raw (size raw) := ⟨raw, [], (List.append_nil raw).symm, rfl⟩

lemma IsBoundary.le_size (h : IsBoundary raw n) : n ≤ size raw := by
  obtain ⟨before, after, rfl, rfl⟩ := h
  rw [size_append]
  exact Nat.le_add_right _ _

/-- Between two boundaries in their order there is a slice. -/
lemma exists_slice? (hstart : IsBoundary raw start) (hstop : IsBoundary raw stop) (hle : start ≤ stop) :
    ∃ piece, slice? raw start stop = some piece := by
  obtain ⟨before, rest, rfl, rfl⟩ := hstart
  obtain ⟨before', rest', heq, rfl⟩ := hstop
  rcases List.append_eq_append_iff.1 heq with ⟨middle, rfl, rfl⟩ | ⟨middle, rfl, rfl⟩
  · exact ⟨middle, slice?_append before middle rest'⟩
  · have hnil : middle = [] := Decidable.byContradiction fun hne => by
      have hpos := size_pos hne
      rw [size_append] at hle
      omega
    subst hnil
    rw [List.append_nil]
    refine ⟨[], ?_⟩
    have hslice := slice?_append before' [] rest
    rwa [List.append_nil] at hslice

/-- A slice that is not there would go on to the end from a place inside a character. -/
lemma of_cutReporting_eq_error {a b : Nat} (hstart : IsBoundary raw start) (hle : start ≤ index)
    (h : cutReporting separator raw q start index = .error (a, b)) : ¬ IsBoundary raw a ∧ b = size raw := by
  induction q, start, index using cutBytes.induct separator raw with
  | case1 q start index hend =>
    obtain ⟨piece, hpiece⟩ := exists_slice? hstart (isBoundary_size raw) hstart.le_size
    rw [cutReporting_of_end hend, sliceOrBounds_eq_pure hpiece, pure_bind] at h
    cases h
  | case2 q start index byte hb hq ihfound ih =>
    obtain ⟨rfl, hne⟩ := hq
    rw [cutReporting_of_outside hb hne] at h
    cases hslice : slice? raw index (size raw) with
    | none =>
      rw [sliceOrBounds_eq_error hslice] at h
      cases h
      refine ⟨fun hindex => ?_, rfl⟩
      obtain ⟨rest, hrest⟩ := exists_slice? hindex (isBoundary_size raw) hindex.le_size
      cases hslice.symm.trans hrest
    | some rest =>
      obtain ⟨before, after, hraw, rfl, -⟩ := slice?_eq_some_iff.1 hslice
      have hindex : IsBoundary raw (size before) := ⟨before, rest ++ after, hraw, rfl⟩
      obtain ⟨piece, hpiece⟩ := exists_slice? hstart hindex hle
      rw [sliceOrBounds_eq_pure hslice, pure_bind, sliceOrBounds_eq_pure hpiece] at h
      split at h
      case isTrue hfound =>
        obtain ⟨others, hothers⟩ := Option.isSome_iff_exists.1 hfound
        obtain rfl := eq_append_of_afterSeparator hothers
        -- the next piece begins behind the separator
        have hnext : IsBoundary raw (size before + size separator) :=
          ⟨before ++ separator, others ++ after, by rw [hraw]; simp, size_append ..⟩
        rw [pure_bind] at h
        cases hcut : cutReporting separator raw .outside (size before + size separator) (size before + size separator) with
        | error bounds =>
          rw [hcut] at h
          obtain rfl := Except.error.inj h
          exact ihfound _ hfound hnext (Nat.le_refl _) hcut
        | ok pieces =>
          rw [hcut] at h
          cases h
      case isFalse => exact ih hstart (Nat.le_succ_of_le hle) h
  | case3 q start index byte hb hq ih =>
    rw [cutReporting_of_not_outside hb hq] at h
    exact ih hstart (Nat.le_succ_of_le hle) h

/-- **A cut outside quotes is exact.**  The separator is neither empty nor has quotes or wide characters in it. If no
wide character stands outside quotes, there are pieces: with the separator between them they are the text, no separator
begins outside the quotes of a piece, and there is one piece more than separators are found, from left to right and
without overlapping. If there is such a character, and only then, the walk ends at a slice that would begin inside a
character. -/
theorem cutReporting_exact (hne : separator ≠ []) (h : ∀ s ∈ separator, s ≠ '"' ∧ ¬ IsWide s) (raw : List Char) :
    (cutReporting separator raw .outside 0 0).toOption = cutOutside separator raw ∧
      (¬ Exposed .outside raw → ∃ parts places, cutReporting separator raw .outside 0 0 = .ok parts ∧
        joinWith separator parts = raw ∧ (∀ part ∈ parts, ∀ n, ¬ Unquoted separator .outside part n) ∧
        Leftmost (Unquoted separator .outside raw) separator.length 0 places ∧ parts.length = places.length + 1) ∧
      (Exposed .outside raw ↔ ∃ start stop,
        cutReporting separator raw .outside 0 0 = .error (start, stop) ∧ ¬ IsBoundary raw start) := by
  have hquote : '"' ∉ separator := fun hmem => (h _ hmem).1 rfl
  have hsame : (cutReporting separator raw .outside 0 0).toOption = cutOutside separator raw := by
    rw [toOption_cutReporting, cutBytes_eq_cutOutside]
  have hnone : cutOutside separator raw = none ↔ Exposed .outside raw := cutOutside_eq_none_iff h
  rw [← hsame] at hnone
  refine ⟨hsame, fun hexposed => ?_, ?_⟩
  · cases hcut : cutReporting separator raw .outside 0 0 with
    | error bounds =>
      rw [hcut] at hnone
      exact absurd (hnone.1 rfl) hexposed
    | ok parts =>
      rw [hcut] at hsame
      obtain ⟨piece, pieces, places, rfl, hpieces⟩ := exists_isCut_of_cutOutsideFrom hne hquote hsame.symm
      exact ⟨_, places, rfl, hpieces.join_eq, List.forall_mem_cons.2 ⟨hpieces.first, hpieces.others⟩,
        hpieces.leftmost, congrArg Nat.succ hpieces.length_eq⟩
  · rw [← hnone]
    cases hcut : cutReporting separator raw .outside 0 0 with
    | error bounds =>
      obtain ⟨start, stop⟩ := bounds
      exact ⟨fun _ => ⟨start, stop, rfl, (of_cutReporting_eq_error (isBoundary_zero raw) (Nat.le_refl 0) hcut).1⟩,
        fun _ => rfl⟩
    | ok parts =>
      constructor
      · intro hnone
        cases hnone
      · rintro ⟨start, stop, hfails, -⟩
        cases hfails

/-- Dots in quotes, with a wide character and a quote behind a backslash, and more dots outside than one separator
needs. -/
theorem cutReporting_exact_dots :
    let separator := ['.', '.', '.']
    let raw := "\"é\\\"...\"....".toList
    separator ≠ [] ∧ (∀ s ∈ separator, s ≠ '"' ∧ ¬ IsWide s) ∧
      (cutReporting separator raw .outside 0 0).toOption = cutOutside separator raw ∧
      (¬ Exposed .outside raw → ∃ parts places, cutReporting separator raw .outside 0 0 = .ok parts ∧
        joinWith separator parts = raw ∧ (∀ part ∈ parts, ∀ n, ¬ Unquoted separator .outside part n) ∧
        Leftmost (Unquoted separator .outside raw) separator.length 0 places ∧ parts.length = places.length + 1) ∧
      (Exposed .outside raw ↔ ∃ start stop,
        cutReporting separator raw .outside 0 0 = .error (start, stop) ∧ ¬ IsBoundary raw start) := by
  have hne : ['.', '.', '.'] ≠ [] := List.cons_ne_nil _ _
  have h : ∀ s ∈ ['.', '.', '.'], s ≠ '"' ∧ ¬ IsWide s := by
    intro s hs
    obtain rfl : s = '.' := by simpa using hs
    exact ⟨by decide, by decide⟩
  exact ⟨hne, h, cutReporting_exact hne h _⟩

end EntityHistory.Text
