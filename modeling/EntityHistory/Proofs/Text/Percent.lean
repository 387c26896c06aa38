/-
Percent-encoded texts, read back.

A percent-encoded text holds none of the marks of a form, and reading it as a name or value of a form gives the
text back. A byte is written as one character that stands for itself or as three, and either is read as this
byte, whatever follows.

* `Text.not_mem_percentEncode`: no marks of a form occur in a percent-encoded text;
* `Text.ofForm_percentEncode`: it is read as what was encoded.
-/
import EntityHistory.Proofs.Text.Bytes
import EntityHistory.Text.Percent

namespace EntityHistory.Text

variable {n : Nat} {s c : Char} {b x y : UInt8} {cs ds : List Char} {rest : List UInt8}

/-! ### Bytes of encoded texts -/

lemma bytes_append (cs ds : List Char) : bytes (cs ++ ds) = bytes cs ++ bytes ds := List.flatMap_append

lemma bytes_cons (c : Char) (cs : List Char) : bytes (c :: cs) = String.utf8EncodeChar c ++ bytes cs :=
  List.flatMap_cons

/-- A character below 128 is one byte. -/
lemma encode_ofNat (hn : n < 0x80) : String.utf8EncodeChar (Char.ofNat n) = [UInt8.ofNat n] := by
  have hval : (Char.ofNat n).val.toNat = n := by
    rw [Char.ofNat, dif_pos (Or.inl (by omega))]
    rfl
  simp only [String.utf8EncodeChar, hval]
  rw [if_pos (by omega)]

/-! ### Unreserved bytes and digits -/

lemma lt_of_isUnreserved (hb : isUnreserved b = true) : b.toNat < 0x80 := by
  rw [isUnreserved, Bool.and_eq_true, decide_eq_true_eq] at hb
  exact UInt8.lt_iff_toNat_lt.1 hb.1

/-- The marks of forms and addresses do not stand for themselves. -/
lemma ofNat_ne_of_isUnreserved (hb : isUnreserved b = true) (hs : s ∈ ['+', '&', '=', '%']) :
    Char.ofNat b.toNat ≠ s := by
  rintro rfl
  rw [isUnreserved, Bool.and_eq_true] at hb
  generalize Char.ofNat b.toNat = c at hs hb
  have hnone : (['+', '&', '=', '%'].any fun c =>
      c.isAlphanum || c == '-' || c == '_' || c == '.' || c == '~') = false := by decide
  exact List.any_eq_false.1 hnone c hs hb.2

lemma upperHexDigit_ne (hn : n < 16) (hs : s ∈ ['+', '&', '=', '%']) : upperHexDigit n ≠ s := by
  have hnone : ∀ n < 16, ['+', '&', '=', '%'].contains (upperHexDigit n) = false := by decide
  rintro rfl
  exact Bool.false_ne_true ((hnone n hn).symm.trans (List.contains_iff_mem.2 hs))

/-- The digit of a number is one byte, which denotes the number. -/
lemma exists_encode_upperHexDigit (hn : n < 16) :
    ∃ d, String.utf8EncodeChar (upperHexDigit n) = [d] ∧ hexDigitValue? d = some n := by
  have hdigits : ∀ n < 16, String.utf8EncodeChar (upperHexDigit n) = [UInt8.ofNat (upperHexDigit n).toNat] ∧
      hexDigitValue? (UInt8.ofNat (upperHexDigit n).toNat) = some n := by decide
  exact ⟨_, hdigits n hn⟩

/-- No marks of a form occur in a percent-encoded text. -/
theorem not_mem_percentEncode (hs : s ∈ ['+', '&', '=']) (cs : List Char) : s ∉ percentEncode cs := by
  have hs' : s ∈ ['+', '&', '=', '%'] := List.mem_append_left ['%'] hs
  have hpercent : '%' ≠ s := by
    rintro rfl
    exact absurd hs (by decide)
  intro hmem
  obtain ⟨b, -, hb⟩ := List.mem_flatMap.1 hmem
  rw [percentByte] at hb
  split at hb
  · rename_i hunreserved
    exact ofNat_ne_of_isUnreserved hunreserved hs' (List.mem_singleton.1 hb).symm
  · have hdigits := b.toNat_lt
    simp only [List.mem_cons, List.not_mem_nil, or_false] at hb
    rcases hb with hb | hb | hb
    · exact hpercent hb.symm
    · exact upperHexDigit_ne (by omega) hs' hb.symm
    · exact upperHexDigit_ne (by omega) hs' hb.symm

/-! ### Decoding -/

lemma percentDecode_cons_of_ne (hb : b ≠ 0x25) (rest : List UInt8) :
    percentDecode (b :: rest) = b :: percentDecode rest := by
  match rest with
  | [] => rfl
  | [_] => rfl
  | x :: y :: rest => rw [percentDecode, if_neg hb]

lemma percentDecode_cons_of_hexByte (h : hexByte? x y = some b) (rest : List UInt8) :
    percentDecode (0x25 :: x :: y :: rest) = b :: percentDecode rest := by
  rw [percentDecode, if_pos rfl, h]

/-- A byte as it is written is read as this byte. -/
lemma percentDecode_percentByte_append (b : UInt8) (rest : List UInt8) :
    percentDecode (bytes (percentByte b) ++ rest) = b :: percentDecode rest := by
  rw [percentByte]
  split
  case isTrue hb =>
    have hne : b ≠ 0x25 := by
      rintro rfl
      exact ofNat_ne_of_isUnreserved hb (by simp) rfl
    rw [bytes_cons, encode_ofNat (lt_of_isUnreserved hb), UInt8.ofNat_toNat]
    exact percentDecode_cons_of_ne hne rest
  case isFalse =>
    have hlt := b.toNat_lt
    obtain ⟨high, hhigh, hvalue⟩ := exists_encode_upperHexDigit (n := b.toNat / 16) (by omega)
    obtain ⟨low, hlow, hvalue'⟩ := exists_encode_upperHexDigit (n := b.toNat % 16) (by omega)
    have hbyte : hexByte? high low = some b := by
      rw [hexByte?, hvalue, hvalue']
      show some (UInt8.ofNat (16 * (b.toNat / 16) + b.toNat % 16)) = some b
      rw [Nat.div_add_mod, UInt8.ofNat_toNat]
    have hpercent : String.utf8EncodeChar '%' = [0x25] := by decide
    rw [bytes_cons, bytes_cons, bytes_cons, hpercent, hhigh, hlow]
    exact percentDecode_cons_of_hexByte hbyte rest

lemma percentDecode_percentEncode (cs : List Char) : percentDecode (bytes (percentEncode cs)) = bytes cs := by
  rw [percentEncode]
  induction bytes cs with
  | nil => rfl
  | cons b bs ih => rw [List.flatMap_cons, bytes_append, percentDecode_percentByte_append, ih]

/-- A percent-encoded text in a form is read as what was encoded. -/
theorem ofForm_percentEncode (cs : List Char) : ofForm (percentEncode cs) = cs := by
  have hmap : (percentEncode cs).map (fun c => if c = '+' then ' ' else c) = percentEncode cs := by
    refine (List.map_congr_left fun c hc => if_neg ?_).trans (List.map_id _)
    rintro rfl
    exact not_mem_percentEncode (by simp) cs hc
  rw [ofForm, hmap, percentDecode_percentEncode, ofBytes_bytes]

end EntityHistory.Text
