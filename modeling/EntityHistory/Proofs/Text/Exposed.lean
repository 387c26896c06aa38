/-
Cutting bytes outside quotes.

A cut outside quotes walks the bytes of a text and looks for the separator wherever a byte stands outside quotes, so
it takes a slice from there on. Inside quotes no slice is taken, and the bytes of a wide character are passed one by
one. Outside of them the second byte of such a character is inside the character, and there is no slice from it on.
So the walk has an answer just when no wide character stands outside quotes.

* `Text.cutBytes`: the walk over the bytes;
* `Text.cutBytes_eq_cutOutside`: it cuts the text like the walk over its characters;
* `Text.cutOutside_eq_none_iff`: when there is no answer.
-/
import EntityHistory.Proofs.Text.Quoted
import EntityHistory.Proofs.Text.Slices

namespace EntityHistory.Text

variable {separator raw before current after cs rest : List Char} {c : Char} {b : UInt8} {q : Quoting}
  {start k : Nat}

/-! ### Specification -/

/-- The position in the quoting after one more byte. -/
def Quoting.nextByte : Quoting → UInt8 → Quoting
  | .outside, b => if b = 34 then .inside else .outside
  | .inside, b => if b = 92 then .escaped else if b = 34 then .outside else .inside
  | .escaped, _ => .inside

/-- The pieces of a text between the separators outside quotes, found byte by byte: `start` is where the current
piece begins, and `index` is the byte that is looked at. -/
def cutBytes (separator raw : List Char) (q : Quoting) (start index : Nat) : Option (List (List Char)) :=
  match _hb : (bytes raw)[index]? with
  | none => (slice? raw start (size raw)).map fun piece => [piece]
  | some b =>
    if q = .outside ∧ b ≠ 34 then do
      let rest ← slice? raw index (size raw)
      if _hfound : (afterSeparator separator rest).isSome then
        let piece ← slice? raw start index
        let pieces ← cutBytes separator raw .outside (index + size separator) (index + size separator)
        some (piece :: pieces)
      else cutBytes separator raw .outside start (index + 1)
    else cutBytes separator raw (q.nextByte b) start (index + 1)
termination_by size raw - index
decreasing_by
  all_goals
    have hindex : index < size raw := (List.getElem?_eq_some_iff.1 _hb).1
  · have hne : separator ≠ [] := by
      rintro rfl
      simp [afterSeparator] at _hfound
    have hpos := size_pos hne
    omega
  · omega
  · omega

/-- A character of several bytes. -/
def IsWide (c : Char) : Prop := 128 ≤ c.toNat

instance : DecidablePred IsWide := fun c => inferInstanceAs (Decidable (128 ≤ c.toNat))

/-- A wide character stands outside quotes. -/
def Exposed (q : Quoting) (cs : List Char) : Prop :=
  ∃ before c after, cs = before ++ c :: after ∧ q.after before = .outside ∧ IsWide c

/-! ### Bytes of characters -/

/-- A character that is not wide is one byte. -/
lemma encode_of_not_isWide (h : ¬ IsWide c) : String.utf8EncodeChar c = [UInt8.ofNat c.toNat] := by
  rw [← Char.ofNat_toNat c, encode_ofNat (Nat.not_le.1 h), Char.ofNat_toNat]

lemma utf8Size_of_not_isWide (h : ¬ IsWide c) : c.utf8Size = 1 := by
  rw [← String.length_utf8EncodeChar, encode_of_not_isWide h, List.length_singleton]

/-- A wide character is several bytes, and none of them is one of another character. -/
lemma wide_bytes (h : IsWide c) : 1 < c.utf8Size ∧ ∀ b ∈ String.utf8EncodeChar c, 128 ≤ b.toNat := by
  have hlead : ∀ n, 128 ≤ n → n < 256 → 128 ≤ (UInt8.ofNat n).toNat := fun n hn hn' => by
    rwa [UInt8.toNat_ofNat_of_lt' hn']
  have hv : 128 ≤ c.val.toNat := h
  rw [← String.length_utf8EncodeChar]
  simp only [String.utf8EncodeChar]
  generalize c.val.toNat = v at hv
  split
  case isTrue hone => omega
  split
  case isTrue htwo =>
    simp only [List.length_cons, List.mem_cons, List.not_mem_nil, or_false, forall_eq_or_imp, forall_eq]
    exact ⟨by decide, hlead _ (by omega) (by omega), hlead _ (by omega) (by omega)⟩
  split
  case isTrue hthree =>
    simp only [List.length_cons, List.mem_cons, List.not_mem_nil, or_false, forall_eq_or_imp, forall_eq]
    exact ⟨by decide, hlead _ (by omega) (by omega), hlead _ (by omega) (by omega), hlead _ (by omega) (by omega)⟩
  case isFalse hfour =>
    simp only [List.length_cons, List.mem_cons, List.not_mem_nil, or_false, forall_eq_or_imp, forall_eq]
    exact ⟨by decide, hlead _ (by omega) (by omega), hlead _ (by omega) (by omega), hlead _ (by omega) (by omega),
      hlead _ (by omega) (by omega)⟩

/-- The bytes of a character in a text. -/
lemma getElem?_bytes (hk : k < c.utf8Size) (before after : List Char) :
    (bytes (before ++ c :: after))[size before + k]? = (String.utf8EncodeChar c)[k]? := by
  rw [← String.length_utf8EncodeChar] at hk
  rw [bytes_append, bytes_cons, size, List.getElem?_append_right (Nat.le_add_right _ _), Nat.add_sub_cancel_left,
    List.getElem?_append_left hk]

lemma toNat_ofNat {n : Nat} (hn : n < 128) : (Char.ofNat n).toNat = n := by
  rw [Char.ofNat, dif_pos (Or.inl (by omega))]
  rfl

/-- The first byte of a character tells whether it is a given one that is not wide. -/
lemma exists_firstByte (c : Char) : ∃ b, (String.utf8EncodeChar c)[0]? = some b ∧
    ∀ n < 128, b = UInt8.ofNat n ↔ c = Char.ofNat n := by
  by_cases h : IsWide c
  · obtain ⟨hlength, hbytes⟩ := wide_bytes h
    rw [← String.length_utf8EncodeChar] at hlength
    refine ⟨_, List.getElem?_eq_getElem (Nat.zero_lt_of_lt hlength), fun n hn => ?_⟩
    have hbyte := hbytes _ (List.getElem_mem (Nat.zero_lt_of_lt hlength))
    constructor
    · intro heq
      rw [heq, UInt8.toNat_ofNat_of_lt' (by simp only [UInt8.size]; omega)] at hbyte
      omega
    · rintro rfl
      rw [IsWide, toNat_ofNat hn] at h
      omega
  · refine ⟨UInt8.ofNat c.toNat, by rw [encode_of_not_isWide h]; rfl, fun n hn => ?_⟩
    constructor
    · intro heq
      have hnat := congrArg UInt8.toNat heq
      rw [UInt8.toNat_ofNat_of_lt' (by simp only [UInt8.size, IsWide] at *; omega),
        UInt8.toNat_ofNat_of_lt' (by simp only [UInt8.size]; omega)] at hnat
      rw [← hnat, Char.ofNat_toNat]
    · rintro rfl
      rw [toNat_ofNat hn]

lemma eq_append_of_afterSeparator (h : afterSeparator separator cs = some rest) : cs = separator ++ rest := by
  rw [afterSeparator] at h
  split at h
  case isTrue => cases h
  case isFalse => exact afterPhrase_eq_some_iff.1 h

/-! ### Steps of the walk -/

/-- At the end the current piece is the last one. -/
lemma cutBytes_end (separator before current : List Char) (q : Quoting) :
    cutBytes separator (before ++ current) q (size before) (size (before ++ current)) = some [current] := by
  have hend : (bytes (before ++ current))[size (before ++ current)]? = none :=
    List.getElem?_eq_none_iff.2 (Nat.le_refl _)
  rw [cutBytes]
  split
  case h_1 => rw [slice?_right, Option.map_some]
  case h_2 b hb => cases hb.symm.trans hend

/-- Inside quotes, and at a quote, no slice is taken. -/
lemma cutBytes_of_not_outside (hb : (bytes raw)[k]? = some b) (hq : ¬ (q = .outside ∧ b ≠ 34)) :
    cutBytes separator raw q start k = cutBytes separator raw (q.nextByte b) start (k + 1) := by
  rw [cutBytes]
  split
  case h_1 hnone => cases hb.symm.trans hnone
  case h_2 b' hb' =>
    obtain rfl := Option.some.inj (hb.symm.trans hb')
    rw [if_neg hq]

/-- Outside quotes the rest of the text is looked at. -/
lemma cutBytes_of_outside (hb : (bytes raw)[k]? = some b) (hne : b ≠ 34) :
    cutBytes separator raw .outside start k = (do
      let rest ← slice? raw k (size raw)
      if (afterSeparator separator rest).isSome then
        let piece ← slice? raw start k
        let pieces ← cutBytes separator raw .outside (k + size separator) (k + size separator)
        some (piece :: pieces)
      else cutBytes separator raw .outside start (k + 1)) := by
  rw [cutBytes]
  split
  case h_1 hnone => cases hb.symm.trans hnone
  case h_2 b' hb' =>
    obtain rfl := Option.some.inj (hb.symm.trans hb')
    rw [if_pos ⟨rfl, hne⟩]
    rfl

/-- Inside quotes a wide character is passed byte by byte. -/
lemma cutBytes_of_isWide {n : Nat} (h : IsWide c) (hk : k + n = c.utf8Size) :
    cutBytes separator (before ++ c :: after) .inside start (size before + k) =
      cutBytes separator (before ++ c :: after) .inside start (size before + c.utf8Size) := by
  induction n generalizing k with
  | zero => rw [← hk, Nat.add_zero]
  | succ n ih =>
    have hlt : k < c.utf8Size := by omega
    have hb := getElem?_bytes hlt before after
    rw [← String.length_utf8EncodeChar] at hlt
    rw [List.getElem?_eq_getElem hlt] at hb
    have hbyte := (wide_bytes h).2 _ (List.getElem_mem hlt)
    have hnext : Quoting.inside.nextByte (String.utf8EncodeChar c)[k] = .inside := by
      have hback : (String.utf8EncodeChar c)[k] ≠ 92 := fun heq => by simp [heq] at hbyte
      have hquote : (String.utf8EncodeChar c)[k] ≠ 34 := fun heq => by simp [heq] at hbyte
      simp [Quoting.nextByte, hback, hquote]
    rw [cutBytes_of_not_outside hb (by simp), hnext, Nat.add_assoc, ih (by omega)]

/-- Inside quotes, and at a quote, the walk comes to the next character. -/
lemma cutBytes_cons_of_not_outside (hq : ¬ (q = .outside ∧ c ≠ '"')) :
    cutBytes separator (before ++ c :: after) q start (size before) =
      cutBytes separator (before ++ c :: after) (q.next c) start (size before + c.utf8Size) := by
  obtain ⟨b, hfirst, hsame⟩ := exists_firstByte c
  have hquote : b = 34 ↔ c = '"' := hsame 34 (by decide)
  have hback : b = 92 ↔ c = '\\' := hsame 92 (by decide)
  have hb : (bytes (before ++ c :: after))[size before]? = some b := by
    rw [← hfirst, ← getElem?_bytes c.utf8Size_pos before after, Nat.add_zero]
  have hnext : q.nextByte b = q.next c := by
    cases q <;> simp [Quoting.nextByte, Quoting.next, hquote, hback]
  rw [cutBytes_of_not_outside hb (by rwa [ne_eq, hquote]), hnext]
  by_cases h : IsWide c
  · have hout : q ≠ .outside := by
      rintro rfl
      exact hq ⟨rfl, fun heq => by simp [heq, IsWide] at h⟩
    have hinside : q.next c = .inside := by
      have hneq : c ≠ '"' := fun heq => by simp [heq, IsWide] at h
      have hneb : c ≠ '\\' := fun heq => by simp [heq, IsWide] at h
      cases q with
      | outside => exact absurd rfl hout
      | inside => simp [Quoting.next, hneq, hneb]
      | escaped => rfl
    rw [hinside]
    exact cutBytes_of_isWide h (Nat.add_sub_of_le c.utf8Size_pos)
  · rw [utf8Size_of_not_isWide h]

/-- Outside quotes a slice from the character on is taken. -/
lemma cutBytes_cons_of_outside (hc : c ≠ '"') (separator before current cs : List Char) :
    cutBytes separator (before ++ (current ++ c :: cs)) .outside (size before) (size (before ++ current)) =
      if (afterSeparator separator (c :: cs)).isSome then
        (cutBytes separator (before ++ (current ++ c :: cs)) .outside (size (before ++ current) + size separator)
          (size (before ++ current) + size separator)).map (current :: ·)
      else cutBytes separator (before ++ (current ++ c :: cs)) .outside (size before) (size (before ++ current) + 1) := by
  obtain ⟨b, hfirst, hsame⟩ := exists_firstByte c
  have hquote : b = 34 ↔ c = '"' := hsame 34 (by decide)
  have hb : (bytes (before ++ (current ++ c :: cs)))[size (before ++ current)]? = some b := by
    rw [← List.append_assoc, ← hfirst, ← getElem?_bytes c.utf8Size_pos (before ++ current) cs, Nat.add_zero]
  have hrest : slice? (before ++ (current ++ c :: cs)) (size (before ++ current))
      (size (before ++ (current ++ c :: cs))) = some (c :: cs) := by
    rw [← List.append_assoc]
    exact slice?_right _ _
  rw [cutBytes_of_outside hb (by rwa [ne_eq, hquote]), hrest]
  simp only [Option.bind_eq_bind, Option.bind_some, slice?_append, Option.map_eq_bind]
  rfl

/-- Outside quotes there is no slice from the second byte of a wide character on. -/
lemma cutBytes_second_of_isWide (h : IsWide c) :
    cutBytes separator (before ++ c :: after) .outside start (size before + 1) = none := by
  obtain ⟨hlt, hbytes⟩ := wide_bytes h
  have hlength : 1 < (String.utf8EncodeChar c).length := by rwa [String.length_utf8EncodeChar]
  have hb := getElem?_bytes hlt before after
  rw [List.getElem?_eq_getElem hlength] at hb
  have hquote : (String.utf8EncodeChar c)[1] ≠ 34 := fun heq => by
    have hbyte := hbytes _ (List.getElem_mem hlength)
    simp [heq] at hbyte
  rw [cutBytes_of_outside hb hquote, slice?_eq_none_of_inside Nat.one_pos hlt]
  rfl

lemma map_growAll_growFirst (pieces : Option (List (List Char))) :
    (pieces.map (growFirst c)).map (growAll current) = pieces.map (growAll (current ++ [c])) := by
  cases pieces with
  | none => rfl
  | some pieces => simp [growAll_concat]

/-- The walk over the bytes, from any place on. -/
lemma cutBytes_eq (separator before current cs : List Char) (q : Quoting) :
    cutBytes separator (before ++ (current ++ cs)) q (size before) (size (before ++ current)) =
      (cutOutsideFrom separator q cs).map (growAll current) := by
  induction q, cs using cutOutsideFrom.induct separator generalizing before current with
  | case1 q =>
    rw [List.append_nil, cutBytes_end, cutOutsideFrom, Option.map_some, growAll_cons, List.append_nil]
  | case2 q c cs hq rest hfound ih =>
    obtain ⟨rfl, hc⟩ := hq
    have hraw : before ++ (current ++ c :: cs) = before ++ current ++ separator ++ ([] ++ rest) := by
      rw [eq_append_of_afterSeparator hfound]
      simp
    have hsize : size (before ++ current) + size separator = size (before ++ current ++ separator) :=
      (size_append ..).symm
    -- the next piece begins after the separator
    have hnext := ih (before ++ current ++ separator) []
    rw [List.append_nil, ← hraw, ← hsize] at hnext
    rw [cutBytes_cons_of_outside hc, if_pos (by rw [hfound]; rfl), hnext, cutOutsideFrom_cons_of_found hc hfound]
    cases cutOutsideFrom separator .outside rest with
    | none => rfl
    | some pieces => simp [growAll_nil, growAll_cons]
  | case3 q c cs hq hnone hlt ih =>
    obtain ⟨rfl, hc⟩ := hq
    have hraw : before ++ (current ++ c :: cs) = before ++ (current ++ [c] ++ cs) := by simp
    have hsize : size (before ++ current) + 1 = size (before ++ (current ++ [c])) := by
      rw [← List.append_assoc, size_append _ [c], size_cons, size_nil, utf8Size_of_not_isWide (Nat.not_le.2 hlt)]
    rw [cutBytes_cons_of_outside hc, if_neg (by simp [hnone]), hraw, hsize, ih,
      cutOutsideFrom_cons_of_not_found hc hnone, if_pos hlt, map_growAll_growFirst]
  | case4 q c cs hq hnone hge =>
    obtain ⟨rfl, hc⟩ := hq
    rw [cutBytes_cons_of_outside hc, if_neg (by simp [hnone]), ← List.append_assoc,
      cutBytes_second_of_isWide (Nat.not_lt.1 hge), cutOutsideFrom_cons_of_not_found hc hnone, if_neg hge]
    rfl
  | case5 q c cs hq ih =>
    have hraw : before ++ (current ++ c :: cs) = before ++ (current ++ [c] ++ cs) := by simp
    have hsize : size (before ++ current) + c.utf8Size = size (before ++ (current ++ [c])) := by
      rw [← List.append_assoc, size_append _ [c], size_cons, size_nil, Nat.add_zero]
    rw [← List.append_assoc, cutBytes_cons_of_not_outside hq, List.append_assoc, hsize, hraw, ih,
      cutOutsideFrom_cons_of_inside hq, map_growAll_growFirst]

/-- The walk over the bytes cuts a text as the walk over its characters does. -/
theorem cutBytes_eq_cutOutside (separator raw : List Char) :
    cutBytes separator raw .outside 0 0 = cutOutside separator raw := by
  have h := cutBytes_eq separator [] [] raw .outside
  rwa [funext growAll_nil, Option.map_id'] at h

/-! ### Exposed characters -/

lemma exposed_cons : Exposed q (c :: cs) ↔ q = .outside ∧ IsWide c ∨ Exposed (q.next c) cs := by
  constructor
  · rintro ⟨before, d, after, heq, hout, hwide⟩
    cases before with
    | nil =>
      obtain ⟨rfl, -⟩ := List.cons.inj heq
      exact Or.inl ⟨hout, hwide⟩
    | cons _ before =>
      obtain ⟨rfl, rfl⟩ := List.cons.inj heq
      exact Or.inr ⟨before, d, after, rfl, hout, hwide⟩
  · rintro (⟨rfl, hwide⟩ | ⟨before, d, after, rfl, hout, hwide⟩)
    · exact ⟨[], c, cs, rfl, rfl, hwide⟩
    · exact ⟨c :: before, d, after, rfl, hout, hwide⟩

lemma not_exposed_nil (q : Quoting) : ¬ Exposed q [] := by
  rintro ⟨before, c, after, heq, -⟩
  simp at heq

instance decidableExposed : (q : Quoting) → (cs : List Char) → Decidable (Exposed q cs)
  | q, [] => isFalse (not_exposed_nil q)
  | q, c :: cs =>
    have := decidableExposed (q.next c) cs
    decidable_of_iff' _ exposed_cons

/-- A separator is passed without anything that is exposed in it. -/
lemma exposed_append (h : ∀ s ∈ separator, s ≠ '"' ∧ ¬ IsWide s) :
    Exposed .outside (separator ++ cs) ↔ Exposed .outside cs := by
  induction separator with
  | nil => rfl
  | cons s separator ih =>
    obtain ⟨⟨hs, hnarrow⟩, hseparator⟩ := List.forall_mem_cons.1 h
    have hnext : Quoting.outside.next s = .outside := if_neg hs
    rw [List.cons_append, exposed_cons, hnext, ih hseparator]
    simp [hnarrow]

/-- A cut has no answer just when a wide character is exposed. -/
lemma cutOutsideFrom_eq_none_iff (h : ∀ s ∈ separator, s ≠ '"' ∧ ¬ IsWide s) :
    cutOutsideFrom separator q cs = none ↔ Exposed q cs := by
  induction q, cs using cutOutsideFrom.induct separator with
  | case1 q =>
    rw [cutOutsideFrom]
    simp [not_exposed_nil]
  | case2 q c cs hq rest hfound ih =>
    obtain ⟨rfl, hc⟩ := hq
    rw [cutOutsideFrom_cons_of_found hc hfound, Option.map_eq_none_iff, ih, eq_append_of_afterSeparator hfound,
      exposed_append h]
  | case3 q c cs hq hnone hlt ih =>
    obtain ⟨rfl, hc⟩ := hq
    have hnext : Quoting.outside.next c = .outside := if_neg hc
    have hnarrow : ¬ IsWide c := Nat.not_le.2 hlt
    rw [cutOutsideFrom_cons_of_not_found hc hnone, if_pos hlt, Option.map_eq_none_iff, ih, exposed_cons, hnext]
    simp [hnarrow]
  | case4 q c cs hq hnone hge =>
    obtain ⟨rfl, hc⟩ := hq
    rw [cutOutsideFrom_cons_of_not_found hc hnone, if_neg hge, exposed_cons]
    simp [IsWide, Nat.not_lt.1 hge]
  | case5 q c cs hq ih =>
    have hpasses : ¬ (q = .outside ∧ IsWide c) := by
      rintro ⟨rfl, hwide⟩
      exact hq ⟨rfl, fun heq => by simp [heq, IsWide] at hwide⟩
    rw [cutOutsideFrom_cons_of_inside hq, Option.map_eq_none_iff, ih, exposed_cons]
    simp [hpasses]

/-- A text is not cut just when a wide character stands outside quotes. -/
theorem cutOutside_eq_none_iff (h : ∀ s ∈ separator, s ≠ '"' ∧ ¬ IsWide s) :
    cutOutside separator cs = none ↔ Exposed .outside cs := cutOutsideFrom_eq_none_iff h

/-! ### Parts that begin outside quotes -/

/-- A part of a text that begins outside quotes. -/
def BeginsOutside (part cs : List Char) : Prop :=
  ∃ before after, cs = before ++ (part ++ after) ∧ Quoting.outside.after before = .outside

lemma after_eq_outside (h : '"' ∉ cs) : Quoting.outside.after cs = .outside := by
  induction cs with
  | nil => rfl
  | cons c cs ih =>
    rw [List.mem_cons, not_or] at h
    have hnext : Quoting.outside.next c = .outside := if_neg (Ne.symm h.1)
    rw [Quoting.after_cons, hnext, ih h.2]

namespace BeginsOutside

variable {part middle : List Char}

lemma refl (cs : List Char) : BeginsOutside cs cs := ⟨[], [], (List.append_nil cs).symm, rfl⟩

lemma trans (h : BeginsOutside part middle) (h' : BeginsOutside middle cs) : BeginsOutside part cs := by
  obtain ⟨before, after, rfl, hout⟩ := h
  obtain ⟨before', after', rfl, hout'⟩ := h'
  refine ⟨before' ++ before, after ++ after', by simp, ?_⟩
  rw [Quoting.after_append, hout', hout]

/-- What is exposed in the part is exposed in the text. -/
lemma exposed (h : BeginsOutside part cs) (hpart : Exposed .outside part) : Exposed .outside cs := by
  obtain ⟨before, after, rfl, hout⟩ := h
  obtain ⟨before', c, after', rfl, hout', hwide⟩ := hpart
  refine ⟨before ++ before', c, after' ++ after, by simp, ?_, hwide⟩
  rw [Quoting.after_append, hout, hout']

end BeginsOutside

end EntityHistory.Text
