/-
Quoted texts and numbers in settings.

What the two written sources of settings, files and variables, have in common: texts between double quotes
with escapes in them.
-/
import EntityHistory.Unicode.Ranges

namespace EntityHistory.Written

/-- The control characters that may not stand in a text or a comment. -/
def isControl (c : Char) : Bool := (c.toNat < 0x20 && c ≠ '\t') || c.toNat = 0x7F

/-- The character that so many hexadecimal digits at the start of a text denote. -/
def codePoint (digits : Nat) (cs : List Char) : Option (Char × List Char) := do
  if (cs.take digits).length < digits then none
  else
    let n ← Unicode.hexValue? (cs.take digits)
    if n.isValidChar then pure (Char.ofNat n, cs.drop digits) else none

/-- The character that an escape denotes, read after its backslash. -/
def escaped : List Char → Option (Char × List Char)
  | '"' :: rest => some ('"', rest)
  | '\\' :: rest => some ('\\', rest)
  | 'b' :: rest => some ('\x08', rest)
  | 't' :: rest => some ('\t', rest)
  | 'n' :: rest => some ('\n', rest)
  | 'f' :: rest => some ('\x0c', rest)
  | 'r' :: rest => some ('\r', rest)
  | 'u' :: rest => codePoint 4 rest
  | 'U' :: rest => codePoint 8 rest
  | _ => none

theorem length_codePoint {digits : Nat} {cs rest : List Char} {c : Char}
    (h : codePoint digits cs = some (c, rest)) : rest.length ≤ cs.length := by
  simp only [codePoint, bind, Option.bind, pure] at h
  repeat' split at h
  all_goals simp_all
  obtain ⟨-, -, rfl⟩ := h
  simp

theorem length_escaped {cs rest : List Char} {c : Char} (h : escaped cs = some (c, rest)) :
    rest.length ≤ cs.length := by
  unfold escaped at h
  split at h
  case h_8 | h_9 => exact Nat.le_succ_of_le (length_codePoint h)
  case h_10 => simp at h
  all_goals simp_all

/-- Reads a text up to its closing quote, after the opening one. -/
def quoted (cs : List Char) : Option (List Char × List Char) :=
  match cs with
  | [] => none
  | '"' :: rest => some ([], rest)
  | '\\' :: rest =>
    match _found : escaped rest with
    | none => none
    | some (c, after) => (quoted after).map fun (s, rest) => (c :: s, rest)
  | c :: rest =>
    if isControl c then none else (quoted rest).map fun (s, rest) => (c :: s, rest)
termination_by cs.length
decreasing_by
  · exact Nat.lt_succ_of_le (length_escaped _found)
  · simp

end EntityHistory.Written
