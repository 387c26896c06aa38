/-
Texts as bytes.

A text is encoded in UTF-8, and bytes are read as a text from left to right. Where the bytes are no UTF-8, the
longest part that could begin a character counts as one broken character, or else a single byte does.
-/
namespace EntityHistory.Text

/-- A text in UTF-8. -/
def bytes (cs : List Char) : List UInt8 := cs.flatMap String.utf8EncodeChar

/-- How a character of several bytes begins: how many bytes follow the first one, and between which bounds
the second byte lies. -/
structure LeadByte where
  following : Nat
  low : UInt8 := 0x80
  high : UInt8 := 0xBF
  /-- What the first byte contributes to the code point. -/
  bits : Nat
deriving DecidableEq, Repr

/-- The first byte of a character of several bytes. The bounds rule out longer forms than needed, surrogates
and what lies beyond the last code point. -/
def LeadByte.of? (b : UInt8) : Option LeadByte :=
  let n := b.toNat
  if n < 0xC2 then none
  else if n < 0xE0 then some { following := 1, bits := n - 0xC0 }
  else if n = 0xE0 then some { following := 2, low := 0xA0, bits := 0 }
  else if n = 0xED then some { following := 2, high := 0x9F, bits := 0xD }
  else if n < 0xF0 then some { following := 2, bits := n - 0xE0 }
  else if n = 0xF0 then some { following := 3, low := 0x90, bits := 0 }
  else if n < 0xF4 then some { following := 3, bits := n - 0xF0 }
  else if n = 0xF4 then some { following := 3, high := 0x8F, bits := 4 }
  else none

/-- Reads so many bytes that continue a character, the first of them within bounds. The character is missing
when one of them is; what follows is what was not read. -/
def continued (code : Nat) : Nat → UInt8 → UInt8 → List UInt8 → Option Char × List UInt8
  | 0, _, _, rest => (some (Char.ofNat code), rest)
  | _ + 1, _, _, [] => (none, [])
  | n + 1, low, high, b :: rest =>
    if low ≤ b ∧ b ≤ high then continued (code * 64 + b.toNat % 64) n 0x80 0xBF rest
    else (none, b :: rest)

/-- Reads one character, missing when it is broken, after its first byte. -/
def readCharacter (b : UInt8) (rest : List UInt8) : Option Char × List UInt8 :=
  if b < 0x80 then (some (Char.ofNat b.toNat), rest)
  else
    match LeadByte.of? b with
    | none => (none, rest)
    | some lead => continued lead.bits lead.following lead.low lead.high rest

theorem length_continued (code n : Nat) (low high : UInt8) (rest : List UInt8) :
    (continued code n low high rest).2.length ≤ rest.length := by
  induction rest generalizing code n low high with
  | nil => cases n <;> simp [continued]
  | cons b rest ih =>
    cases n with
    | zero => simp [continued]
    | succ n =>
      unfold continued
      split
      · exact Nat.le_succ_of_le (ih _ _ _ _)
      · simp

theorem length_readCharacter (b : UInt8) (rest : List UInt8) :
    (readCharacter b rest).2.length ≤ rest.length := by
  unfold readCharacter
  split
  · simp
  · split
    · simp
    · exact length_continued _ _ _ _ _

/-- The characters of some bytes; broken ones are missing. -/
def characters : List UInt8 → List (Option Char)
  | [] => []
  | b :: rest =>
    (readCharacter b rest).1 :: characters (readCharacter b rest).2
termination_by bytes => bytes.length
decreasing_by exact Nat.lt_succ_of_le (length_readCharacter b rest)

/-- The text of some bytes, if they are UTF-8. -/
def ofBytes? (bytes : List UInt8) : Option (List Char) := (characters bytes).mapM id

/-- The text of some bytes, with the replacement character for each broken one. -/
def ofBytes (bytes : List UInt8) : List Char := (characters bytes).map fun c => c.getD '\uFFFD'

end EntityHistory.Text
