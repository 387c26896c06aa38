/-
Texts as bytes, read back.

The bytes of a text read as the text again: of each character the first byte tells how many follow, and the
bounds for the second byte are those that the characters of this length have.

* `Text.characters_encode_append`: the bytes of a character are read as this character;
* `Text.ofBytes_bytes`: so are the bytes of a text.
-/
import Mathlib.Tactic.Lemma
import EntityHistory.Text.Bytes

namespace EntityHistory.Text

variable {n k code : Nat} {low high : UInt8} {c : Char} {rest : List UInt8}

lemma characters_cons (b : UInt8) (rest : List UInt8) :
    characters (b :: rest) = (readCharacter b rest).1 :: characters (readCharacter b rest).2 := by
  rw [characters]

/-! ### First bytes -/

/-- A byte below 128 is a character by itself. -/
lemma readCharacter_of_lt (hn : n < 0x80) (rest : List UInt8) :
    readCharacter (UInt8.ofNat n) rest = (some (Char.ofNat n), rest) := by
  have hb : (UInt8.ofNat n).toNat = n := UInt8.toNat_ofNat_of_lt' (by simp only [UInt8.size]; omega)
  have hlt : UInt8.ofNat n < 0x80 := UInt8.lt_iff_toNat_lt.2 (by rw [hb]; exact hn)
  rw [readCharacter, if_pos hlt, hb]

/-- The first byte of a character of several bytes says how to go on. -/
lemma readCharacter_of_lead {lead : LeadByte} (hn : 0x80 ≤ n) (hn' : n < 256)
    (hlead : LeadByte.of? (UInt8.ofNat n) = some lead) (rest : List UInt8) :
    readCharacter (UInt8.ofNat n) rest = continued lead.bits lead.following lead.low lead.high rest := by
  have hge : ¬ UInt8.ofNat n < 0x80 := by
    rw [UInt8.lt_iff_toNat_lt, UInt8.toNat_ofNat_of_lt' hn']
    exact Nat.not_lt.2 hn
  rw [readCharacter, if_neg hge, hlead]

lemma leadByte_two (hn : 0xC2 ≤ n) (hn' : n < 0xE0) :
    LeadByte.of? (UInt8.ofNat n) = some { following := 1, bits := n - 0xC0 } := by
  have hb : (UInt8.ofNat n).toNat = n := UInt8.toNat_ofNat_of_lt' (by simp only [UInt8.size]; omega)
  simp only [LeadByte.of?, hb]
  rw [if_neg (by omega), if_pos hn']

lemma leadByte_three (hn : 0xE0 ≤ n) (hn' : n < 0xF0) :
    LeadByte.of? (UInt8.ofNat n) = some {
      following := 2
      low := if n = 0xE0 then 0xA0 else 0x80
      high := if n = 0xED then 0x9F else 0xBF
      bits := n - 0xE0 } := by
  have hb : (UInt8.ofNat n).toNat = n := UInt8.toNat_ofNat_of_lt' (by simp only [UInt8.size]; omega)
  simp only [LeadByte.of?, hb]
  grind

lemma leadByte_four (hn : 0xF0 ≤ n) (hn' : n ≤ 0xF4) :
    LeadByte.of? (UInt8.ofNat n) = some {
      following := 3
      low := if n = 0xF0 then 0x90 else 0x80
      high := if n = 0xF4 then 0x8F else 0xBF
      bits := n - 0xF0 } := by
  have hb : (UInt8.ofNat n).toNat = n := UInt8.toNat_ofNat_of_lt' (by simp only [UInt8.size]; omega)
  simp only [LeadByte.of?, hb]
  grind

/-! ### Further bytes -/

lemma continued_zero (low high : UInt8) (rest : List UInt8) :
    continued code 0 low high rest = (some (Char.ofNat code), rest) := by
  rw [continued]

/-- A byte within the bounds continues a character. -/
lemma continued_cons (hlow : low.toNat ≤ n) (hhigh : n ≤ high.toNat) :
    continued code (k + 1) low high (UInt8.ofNat n :: rest) =
      continued (code * 64 + n % 64) k 0x80 0xBF rest := by
  have hb : (UInt8.ofNat n).toNat = n := UInt8.toNat_ofNat_of_lt' (Nat.lt_of_le_of_lt hhigh high.toNat_lt)
  rw [continued, if_pos, hb]
  rw [UInt8.le_iff_toNat_le, UInt8.le_iff_toNat_le, hb]
  exact ⟨hlow, hhigh⟩

/-- A last byte within the bounds. -/
lemma continued_last (hn : n < 64) :
    continued code (k + 1) 0x80 0xBF (UInt8.ofNat (n + 0x80) :: rest) =
      continued (code * 64 + n) k 0x80 0xBF rest := by
  have hmod : (n + 0x80) % 64 = n := by omega
  rw [continued_cons (by simp) (by simp; omega), hmod]

/-! ### Characters and texts -/

section CodePoints

variable {v : Nat}

/-- A code point of two bytes. -/
lemma readCharacter_two (hv : 0x80 ≤ v) (hv' : v < 0x800) (rest : List UInt8) :
    readCharacter (UInt8.ofNat (v / 64 % 0x20 + 0xC0)) (UInt8.ofNat (v % 0x40 + 0x80) :: rest) =
      (some (Char.ofNat v), rest) := by
  rw [readCharacter_of_lead (by omega) (by omega) (leadByte_two (by omega) (by omega)),
    continued_last (by omega), continued_zero]
  congr 3
  simp only
  omega

/-- A code point of three bytes. The second byte is bounded for the first code points of this length and for
those before the surrogates. -/
lemma readCharacter_three (hv : 0x800 ≤ v) (hv' : v < 0x10000) (hvalid : v < 0xD800 ∨ 0xDFFF < v)
    (rest : List UInt8) :
    readCharacter (UInt8.ofNat (v / 4096 % 0x10 + 0xE0))
        (UInt8.ofNat (v / 64 % 0x40 + 0x80) :: UInt8.ofNat (v % 0x40 + 0x80) :: rest) =
      (some (Char.ofNat v), rest) := by
  rw [readCharacter_of_lead (by omega) (by omega) (leadByte_three (by omega) (by omega)), continued_cons,
    continued_last (by omega), continued_zero]
  · congr 3
    simp only
    omega
  · simp only
    split
    · simp
      omega
    · simp
  · simp only
    split <;> simp <;> omega

/-- A code point of four bytes. The second byte is bounded for the first and the last code points. -/
lemma readCharacter_four (hv : 0x10000 ≤ v) (hv' : v < 0x110000) (rest : List UInt8) :
    readCharacter (UInt8.ofNat (v / 262144 % 0x08 + 0xF0))
        (UInt8.ofNat (v / 4096 % 0x40 + 0x80) :: UInt8.ofNat (v / 64 % 0x40 + 0x80) ::
          UInt8.ofNat (v % 0x40 + 0x80) :: rest) =
      (some (Char.ofNat v), rest) := by
  rw [readCharacter_of_lead (by omega) (by omega) (leadByte_four (by omega) (by omega)), continued_cons,
    continued_last (by omega), continued_last (by omega), continued_zero]
  · congr 3
    simp only
    omega
  · simp only
    split
    · simp
      omega
    · simp
  · simp only
    split <;> simp <;> omega

end CodePoints

/-- The bytes of a character are read as this character. -/
theorem characters_encode_append (c : Char) (rest : List UInt8) :
    characters (String.utf8EncodeChar c ++ rest) = some c :: characters rest := by
  have hc : Char.ofNat c.val.toNat = c := Char.ofNat_toNat c
  -- code points are no surrogates and not beyond the last one
  have hvalid : c.val.toNat < 0xD800 ∨ 0xDFFF < c.val.toNat ∧ c.val.toNat < 0x110000 := c.valid
  simp only [String.utf8EncodeChar]
  generalize c.val.toNat = v at hc hvalid
  split
  case isTrue hone => rw [List.singleton_append, characters_cons, readCharacter_of_lt (by omega), hc]
  split
  case isTrue htwo =>
    rw [List.cons_append, List.singleton_append, characters_cons, readCharacter_two (by omega) (by omega), hc]
  split
  case isTrue hthree =>
    rw [List.cons_append, List.cons_append, List.singleton_append, characters_cons,
      readCharacter_three (by omega) (by omega) (by omega), hc]
  case isFalse hfour =>
    rw [List.cons_append, List.cons_append, List.cons_append, List.singleton_append, characters_cons,
      readCharacter_four (by omega) (by omega), hc]

/-- The bytes of a text are read as its characters. -/
theorem characters_bytes (cs : List Char) : characters (bytes cs) = cs.map some := by
  induction cs with
  | nil => rw [bytes, List.flatMap_nil, characters, List.map_nil]
  | cons c cs ih =>
    rw [bytes, List.flatMap_cons, characters_encode_append, List.map_cons, ← ih, bytes]

/-- The bytes of a text are read as the text. -/
theorem ofBytes_bytes (cs : List Char) : ofBytes (bytes cs) = cs := by
  rw [ofBytes, characters_bytes, List.map_map]
  exact List.map_id cs

end EntityHistory.Text
