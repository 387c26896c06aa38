/-
The order of texts by their bytes.

Texts are ordered by their code points. In UTF-8 the first byte of a character grows with the number of its bytes, and
the bytes of characters with as many of them are the digits of their code points. So the bytes of a smaller character
come before those of a greater one, whatever follows, and the order of texts is that of their bytes.

* `Text.encode_append_lt`: the bytes of characters are in their order;
* `Text.bytes_lt_bytes_iff`: so are the bytes of texts.
-/
import Mathlib.Data.Char
import Mathlib.Data.List.Lex
import Mathlib.Tactic.Lemma
import EntityHistory.Text.Bytes

namespace EntityHistory.Text

variable {m n : Nat} {l l' rest rest' : List UInt8} {c d : Char} {cs ds : List Char}

lemma ofNat_cons_lt_iff (hm : m < 256) (hn : n < 256) :
    UInt8.ofNat m :: l < UInt8.ofNat n :: l' ↔ m < n ∨ m = n ∧ l < l' := by
  have hm' : (UInt8.ofNat m).toNat = m := UInt8.toNat_ofNat_of_lt' hm
  have hn' : (UInt8.ofNat n).toNat = n := UInt8.toNat_ofNat_of_lt' hn
  rw [List.cons_lt_cons_iff, UInt8.lt_iff_toNat_lt, ← UInt8.toNat_inj, hm', hn']

/-- The digits of a smaller code point with four bytes come first. -/
lemma digits_lt {p : Prop} {v w : Nat} (h : v < w) (hw : w < 0x110000) :
    v / 262144 % 8 + 240 < w / 262144 % 8 + 240 ∨ v / 262144 % 8 + 240 = w / 262144 % 8 + 240 ∧
      (v / 4096 % 64 + 128 < w / 4096 % 64 + 128 ∨ v / 4096 % 64 + 128 = w / 4096 % 64 + 128 ∧
        (v / 64 % 64 + 128 < w / 64 % 64 + 128 ∨ v / 64 % 64 + 128 = w / 64 % 64 + 128 ∧
          (v % 64 + 128 < w % 64 + 128 ∨ v % 64 + 128 = w % 64 + 128 ∧ p))) := by
  have hv : v / 262144 = v / 4096 / 64 := (Nat.div_div_eq_div_mul v 4096 64).symm
  have hw' : w / 262144 = w / 4096 / 64 := (Nat.div_div_eq_div_mul w 4096 64).symm
  rcases Nat.lt_or_ge (v / 4096) (w / 4096) with hlt | hge <;> omega

/-- The bytes of a smaller character come first, whatever follows. -/
theorem encode_append_lt (h : c < d) (rest rest' : List UInt8) :
    String.utf8EncodeChar c ++ rest < String.utf8EncodeChar d ++ rest' := by
  have hlt : c.val.toNat < d.val.toNat := h
  have hd : d.val.toNat < 0xD800 ∨ 0xDFFF < d.val.toNat ∧ d.val.toNat < 0x110000 := d.valid
  simp only [String.utf8EncodeChar]
  generalize c.val.toNat = v at hlt
  generalize d.val.toNat = w at hlt hd
  repeat' split
  -- a smaller code point has no more bytes
  all_goals try omega
  -- with fewer bytes its first byte is smaller, and with as many one of its digits
  all_goals simp (disch := omega) only [List.cons_append, List.nil_append, ofNat_cons_lt_iff]
  all_goals first | omega | exact digits_lt hlt (by omega)

/-- The bytes of texts are in the order of the texts. -/
lemma bytes_lt_bytes (h : cs < ds) : bytes cs < bytes ds := by
  induction h with
  | @nil d ds =>
    obtain ⟨b, rest, hd⟩ := List.exists_cons_of_ne_nil (String.utf8EncodeChar_ne_nil (c := d))
    rw [bytes, bytes, List.flatMap_nil, List.flatMap_cons, hd, List.cons_append]
    exact List.nil_lt_cons b _
  | cons h ih => exact List.append_left_lt ih
  | rel h => exact encode_append_lt h _ _

/-- Texts are in the order of their bytes. -/
theorem bytes_lt_bytes_iff : bytes cs < bytes ds ↔ cs < ds := by
  refine ⟨fun h => ?_, bytes_lt_bytes⟩
  rcases lt_trichotomy cs ds with hlt | rfl | hgt
  · exact hlt
  · exact absurd h (List.lt_irrefl _)
  · exact absurd h (List.lt_asymm (bytes_lt_bytes hgt))

/-- The size of a text is the number of its bytes. -/
lemma utf8ByteSize_eq_length_bytes (s : String) : s.utf8ByteSize = (bytes s.toList).length := by
  rw [← String.size_toByteArray, ← String.utf8Encode_toList, List.utf8Encode, List.size_toByteArray, bytes]

end EntityHistory.Text
