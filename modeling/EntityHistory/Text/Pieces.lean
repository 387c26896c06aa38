/-
Cutting a text at a character.

`pieces` cuts at every occurrence of a separator and keeps empty pieces, so it is undone by joining;
`cutOnce` cuts at the first occurrence only; `cutPhrase` cuts at the first occurrence of a phrase.
-/
namespace EntityHistory.Text

/-- The parts of a text between the occurrences of a separator; a text without it is one piece. -/
def pieces (separator : Char) : List Char → List (List Char)
  | [] => [[]]
  | c :: cs =>
    if c = separator then [] :: pieces separator cs
    else
      match pieces separator cs with
      | [] => [[c]]
      | piece :: rest => (c :: piece) :: rest

/-- The parts before and after the first occurrence of a separator. -/
def cutOnce (separator : Char) : List Char → Option (List Char × List Char)
  | [] => none
  | c :: cs =>
    if c = separator then some ([], cs)
    else (cutOnce separator cs).map fun (before, after) => (c :: before, after)

/-- What follows a phrase at the start of a text. -/
def afterPhrase : List Char → List Char → Option (List Char)
  | [], cs => some cs
  | _ :: _, [] => none
  | p :: phrase, c :: cs => if p = c then afterPhrase phrase cs else none

/-- The parts before and after the first occurrence of a phrase. -/
def cutPhrase (phrase : List Char) : List Char → Option (List Char × List Char)
  | [] => (afterPhrase phrase []).map fun after => ([], after)
  | c :: cs =>
    match afterPhrase phrase (c :: cs) with
    | some after => some ([], after)
    | none => (cutPhrase phrase cs).map fun (before, after) => (c :: before, after)

/-- Whether a phrase occurs somewhere in a text. -/
def mentions (phrase cs : List Char) : Bool := (cutPhrase phrase cs).isSome

/-- The pieces joined again, with the separator between neighbours. -/
def joinWith (separator : List Char) (parts : List (List Char)) : List Char :=
  (parts.intersperse separator).flatten

theorem afterPhrase_eq_some_iff {phrase cs rest : List Char} :
    afterPhrase phrase cs = some rest ↔ cs = phrase ++ rest := by
  induction phrase generalizing cs with
  | nil => simp [afterPhrase, eq_comm]
  | cons p phrase ih =>
    cases cs with
    | nil => simp [afterPhrase]
    | cons c cs =>
      by_cases h : p = c
      · simp [afterPhrase, h, ih]
      · simp [afterPhrase, h, Ne.symm h]

theorem pieces_ne_nil (separator : Char) (cs : List Char) : pieces separator cs ≠ [] := by
  cases cs with
  | nil => simp [pieces]
  | cons c cs =>
    unfold pieces
    split
    · simp
    · split <;> simp

/-- Joining the pieces with the separator gives the text back. -/
theorem joinWith_pieces (separator : Char) (cs : List Char) :
    joinWith [separator] (pieces separator cs) = cs := by
  induction cs with
  | nil => rfl
  | cons c cs ih =>
    unfold pieces
    cases h : pieces separator cs with
    | nil => exact absurd h (pieces_ne_nil _ _)
    | cons piece rest =>
      rw [h] at ih
      cases rest with
      | nil =>
        split <;> rename_i hc <;> simp_all [joinWith, List.intersperse]
      | cons next rest =>
        split <;> rename_i hc <;> simp_all [joinWith, List.intersperse]

/-- A cut at the first separator puts it back between its two parts. -/
theorem eq_of_cutOnce {separator : Char} {cs before after : List Char}
    (h : cutOnce separator cs = some (before, after)) : cs = before ++ separator :: after := by
  induction cs generalizing before with
  | nil => simp [cutOnce] at h
  | cons c cs ih =>
    unfold cutOnce at h
    split at h
    · rename_i hc
      simp only [Option.some.injEq, Prod.mk.injEq] at h
      obtain ⟨rfl, rfl⟩ := h
      simp [hc]
    · simp only [Option.map_eq_some_iff, Prod.exists, Prod.mk.injEq] at h
      obtain ⟨b, a, hcut, rfl, rfl⟩ := h
      simp [ih hcut]

end EntityHistory.Text
