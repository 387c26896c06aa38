/-
Slices between byte positions.

The places of a text may be counted in bytes. Such a position is at the boundary of a character just when it is the
size of an initial part of the text, and only between two positions of this kind, in their order, is there a slice.

* `Text.size`: the number of bytes of a text;
* `Text.slice?`: the slice between two positions, if there is one;
* `Text.slice?_eq_some_iff`: when there is one, and which it is;
* `Text.position?_eq_some_iff`: the position of the first occurrence of a character.
-/
import EntityHistory.Proofs.Text.Percent

namespace EntityHistory.Text

variable {cs before middle after : List Char} {c s : Char} {n k start stop : Nat}

/-! ### Sizes -/

/-- The number of bytes of a text. -/
def size (cs : List Char) : Nat := (bytes cs).length

@[simp] lemma size_nil : size [] = 0 := rfl

@[simp] lemma size_cons (c : Char) (cs : List Char) : size (c :: cs) = c.utf8Size + size cs := by
  rw [size, bytes_cons, List.length_append, String.length_utf8EncodeChar, size]

@[simp] lemma size_append (cs ds : List Char) : size (cs ++ ds) = size cs + size ds := by
  rw [size, bytes_append, List.length_append, size, size]

lemma size_pos (h : cs ≠ []) : 0 < size cs := by
  obtain ⟨c, cs, rfl⟩ := List.exists_cons_of_ne_nil h
  have hc := c.utf8Size_pos
  rw [size_cons]
  omega

/-! ### Slices -/

/-- The parts of a text before and after a byte position, if it is at the boundary of a character. -/
def splitAt? : List Char → Nat → Option (List Char × List Char)
  | cs, 0 => some ([], cs)
  | [], _ + 1 => none
  | c :: cs, n + 1 =>
    if c.utf8Size ≤ n + 1 then
      (splitAt? cs (n + 1 - c.utf8Size)).map fun (before, after) => (c :: before, after)
    else none

lemma splitAt?_append (before after : List Char) : splitAt? (before ++ after) (size before) = some (before, after) := by
  induction before with
  | nil => cases after <;> rfl
  | cons c before ih =>
    obtain ⟨n, hn⟩ : ∃ n, c.utf8Size + size before = n + 1 :=
      Nat.exists_eq_add_one.2 (Nat.add_pos_left c.utf8Size_pos _)
    rw [List.cons_append, size_cons, hn, splitAt?, if_pos (by omega), ← hn, Nat.add_sub_cancel_left, ih]
    rfl

lemma eq_of_splitAt? (h : splitAt? cs n = some (before, after)) : cs = before ++ after ∧ size before = n := by
  induction cs generalizing n before with
  | nil =>
    cases n with
    | zero =>
      cases h
      exact ⟨rfl, rfl⟩
    | succ n => cases h
  | cons c cs ih =>
    cases n with
    | zero =>
      cases h
      exact ⟨rfl, rfl⟩
    | succ n =>
      rw [splitAt?] at h
      split at h
      case isTrue hle =>
        obtain ⟨⟨before, after⟩, hsplit, heq⟩ := Option.map_eq_some_iff.1 h
        obtain ⟨rfl, rfl⟩ := Prod.mk.inj heq
        obtain ⟨rfl, hsize⟩ := ih hsplit
        refine ⟨rfl, ?_⟩
        rw [size_cons, hsize]
        omega
      case isFalse => cases h

/-- A position at a boundary is the size of what stands before it. -/
lemma splitAt?_eq_some_iff : splitAt? cs n = some (before, after) ↔ cs = before ++ after ∧ size before = n := by
  refine ⟨eq_of_splitAt?, ?_⟩
  rintro ⟨rfl, rfl⟩
  exact splitAt?_append before after

/-- The slice of a text between two byte positions. There is none if one of them is beyond the end or inside a
character, or if they are in the wrong order. -/
def slice? (cs : List Char) (start stop : Nat) : Option (List Char) := do
  let (before, _) ← splitAt? cs stop
  let (_, middle) ← splitAt? before start
  some middle

theorem slice?_eq_some_iff : slice? cs start stop = some middle ↔
    ∃ before after, cs = before ++ (middle ++ after) ∧ size before = start ∧ size (before ++ middle) = stop := by
  simp only [slice?, Option.bind_eq_bind, Option.bind_eq_some_iff, Prod.exists, splitAt?_eq_some_iff,
    Option.some.injEq]
  constructor
  · rintro ⟨_, after, ⟨rfl, hstop⟩, before, _, ⟨rfl, hstart⟩, rfl⟩
    exact ⟨before, after, List.append_assoc .., hstart, hstop⟩
  · rintro ⟨before, after, rfl, hstart, hstop⟩
    exact ⟨before ++ middle, after, ⟨(List.append_assoc ..).symm, hstop⟩, before, middle, ⟨rfl, hstart⟩, rfl⟩

lemma slice?_append (before middle after : List Char) :
    slice? (before ++ (middle ++ after)) (size before) (size (before ++ middle)) = some middle :=
  slice?_eq_some_iff.2 ⟨before, after, rfl, rfl, rfl⟩

/-- The slice from a boundary on. -/
lemma slice?_right (before middle : List Char) :
    slice? (before ++ middle) (size before) (size (before ++ middle)) = some middle :=
  slice?_eq_some_iff.2 ⟨before, [], by rw [List.append_nil], rfl, rfl⟩

/-- The slice up to a boundary. -/
lemma slice?_left (middle after : List Char) : slice? (middle ++ after) 0 (size middle) = some middle :=
  slice?_eq_some_iff.2 ⟨[], after, rfl, rfl, rfl⟩

/-- There is no slice from the inside of a character on. -/
lemma slice?_eq_none_of_inside (hk : 0 < k) (hlt : k < c.utf8Size) (before after : List Char) (stop : Nat) :
    slice? (before ++ c :: after) (size before + k) stop = none := by
  refine Option.eq_none_iff_forall_ne_some.2 fun middle h => ?_
  obtain ⟨start, rest, heq, hsize, -⟩ := slice?_eq_some_iff.1 h
  rcases List.append_eq_append_iff.1 heq with ⟨more, rfl, hmore⟩ | ⟨more, rfl, hmore⟩
  · cases more with
    | nil => simp at hsize; omega
    | cons d more =>
      obtain ⟨rfl, -⟩ := List.cons.inj hmore
      rw [size_append, size_cons] at hsize
      omega
  · rw [size_append] at hsize
    omega

/-! ### Positions of characters -/

/-- The position of the first occurrence of a character. -/
def position? (s : Char) : List Char → Option Nat
  | [] => none
  | c :: cs => if c = s then some 0 else (position? s cs).map (c.utf8Size + ·)

lemma position?_eq_none_iff : position? s cs = none ↔ s ∉ cs := by
  induction cs with
  | nil => simp [position?]
  | cons c cs ih =>
    rw [position?]
    split
    case isTrue heq => simp [heq]
    case isFalse hne => simp [ih, Ne.symm hne]

lemma position?_append (h : s ∉ before) (after : List Char) :
    position? s (before ++ s :: after) = some (size before) := by
  induction before with
  | nil => simp [position?]
  | cons c before ih =>
    rw [List.mem_cons, not_or] at h
    rw [List.cons_append, position?, if_neg (Ne.symm h.1), ih h.2, Option.map_some, size_cons]

/-- The position of the first occurrence is the size of what stands before it. -/
theorem position?_eq_some_iff :
    position? s cs = some n ↔ ∃ before after, cs = before ++ s :: after ∧ s ∉ before ∧ size before = n := by
  constructor
  · intro h
    have hmem : s ∈ cs := Decidable.not_not.1 fun hnot => by
      rw [position?_eq_none_iff.2 hnot] at h
      cases h
    obtain ⟨before, after, rfl, hbefore⟩ := List.eq_append_cons_of_mem hmem
    rw [position?_append hbefore] at h
    exact ⟨before, after, rfl, hbefore, Option.some.inj h⟩
  · rintro ⟨before, after, rfl, hbefore, rfl⟩
    exact position?_append hbefore after

end EntityHistory.Text
