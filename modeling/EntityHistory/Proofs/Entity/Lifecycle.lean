/-
The lifecycle of an entity.

The state of an entity at an instant is read off its records from behind: the last of them until then tells whether
it exists, and those since the last deletion when it was created. The same comes out when the records are carried
out one after the other in the order of their times. A deletion ends the life of the entity, any other record gives
it its type and the time of its last change, and the first creation of a life is the one that counts. So neither the
records after the instant nor those that a later deletion follows have an influence on the state.

* `EntityState.replay`: what records make of an entity when they are carried out;
* `inTimeOrder_iff`: the order of the times, in which the records of one time keep theirs;
* `EntityState.replay_eq_ofLife`: only the records since the last deletion count;
* `stateAt_eq_replay`: the state of an entity is what its records make of it.
-/
import Mathlib.Order.Bounds.Basic
import EntityHistory.Entity.Lifecycle
import EntityHistory.Proofs.Sorting
import EntityHistory.Proofs.Time.Order

namespace EntityHistory

variable {records ordered before life l₁ l₂ : List EntityRecord} {r d : EntityRecord} {reference t : Instant}
  {state : Option EntityState}

/-! ### Specification -/

namespace EntityState

/-- What a record makes of an entity. -/
def after (state : Option EntityState) (r : EntityRecord) : Option EntityState :=
  if r.mode = .delete then none
  else some {
    entityType := r.entityType
    createdAt := (state.bind (·.createdAt)).or (if r.mode = .create then some r.writtenAt else none)
    modifiedAt := r.writtenAt }

/-- What records make of an entity that does not exist before them. -/
def replay (records : List EntityRecord) : Option EntityState := records.foldl after none

end EntityState

/-- Records in the order of their times, in which those of one time have the same order as before. -/
structure InTimeOrder (records ordered : List EntityRecord) : Prop where
  pairwise : ordered.Pairwise fun a b => a.writtenAt ≤ b.writtenAt
  filter_eq : ∀ t, (ordered.filter fun r => r.writtenAt = t) = records.filter fun r => r.writtenAt = t

/-- Records are divided after their last deletion. What comes then is the current life of the entity. -/
structure IsLife (records before life : List EntityRecord) : Prop where
  append_eq : records = before ++ life
  delete : ∀ d ∈ before.getLast?, d.mode = .delete
  ne_delete : ∀ r ∈ life, r.mode ≠ .delete

/-- The times of the creations among some records. -/
def creationTimes (records : List EntityRecord) : Set Instant := {t | ∃ r ∈ records, r.mode = .create ∧ r.writtenAt = t}

/-- A record that stands between others is over at an instant: it is later, or it is followed by a deletion until then,
which has a later time or else stands behind it and has the same. -/
inductive IsOver (reference : Instant) (earlier : List EntityRecord) (r : EntityRecord) (later : List EntityRecord) :
    Prop
  | tooLate (h : reference < r.writtenAt)
  | deletedBehind {d : EntityRecord} (hd : d ∈ later) (hmode : d.mode = .delete) (huntil : d.writtenAt ≤ reference)
      (h : r.writtenAt ≤ d.writtenAt)
  | deletedBefore {d : EntityRecord} (hd : d ∈ earlier) (hmode : d.mode = .delete) (huntil : d.writtenAt ≤ reference)
      (h : r.writtenAt < d.writtenAt)

/-! ### The order of the records -/

lemma inTimeOrder_mergeSort (records : List EntityRecord) :
    InTimeOrder records (records.mergeSort fun a b => a.writtenAt ≤ b.writtenAt) where
  pairwise :=
    (pairwise_mergeSort_of_key EntityRecord.writtenAt (fun _ _ => decide_eq_true_iff) _).imp of_decide_eq_true
  filter_eq := filter_mergeSort_of_key EntityRecord.writtenAt (fun _ _ => decide_eq_true_iff) records

/-- There is one such order, and it is the one that the state is read off in. -/
lemma inTimeOrder_iff :
    InTimeOrder (records.filter fun r => r.writtenAt ≤ reference) ordered ↔ ordered = recordsUntil records reference := by
  have hsorted := inTimeOrder_mergeSort (records.filter fun r => r.writtenAt ≤ reference)
  constructor
  · intro h
    exact eq_of_filter_eq h.pairwise hsorted.pairwise fun t => (h.filter_eq t).trans (hsorted.filter_eq t).symm
  · rintro rfl
    exact hsorted

/-! ### Lives -/

lemma exists_isLife (records : List EntityRecord) : ∃ before life, IsLife records before life := by
  induction records using List.reverseRecOn with
  | nil => exact ⟨[], [], rfl, by simp, by simp⟩
  | append_singleton records r ih =>
    by_cases hmode : r.mode = .delete
    · exact ⟨records ++ [r], [], by simp, by simp [hmode], by simp⟩
    · obtain ⟨before, life, h⟩ := ih
      refine ⟨before, life ++ [r], by rw [h.append_eq, List.append_assoc], h.delete, fun r' hr' => ?_⟩
      rcases List.mem_append.1 hr' with hr' | hr'
      · exact h.ne_delete r' hr'
      · rwa [List.mem_singleton.1 hr']

/-- The first creation of a life is the earliest one. -/
lemma find?_create_eq_some_iff (h : life.Pairwise fun a b => a.writtenAt ≤ b.writtenAt) :
    ((life.find? fun r => r.mode = .create).map (·.writtenAt)) = some t ↔ IsLeast (creationTimes life) t := by
  have hfirst : ∀ r, (life.find? fun r => r.mode = .create) = some r → IsLeast (creationTimes life) r.writtenAt := by
    intro r hr
    obtain ⟨hmode, before, after, rfl, hbefore⟩ := List.find?_eq_some_iff_append.1 hr
    refine ⟨⟨r, by simp, of_decide_eq_true hmode, rfl⟩, ?_⟩
    rintro t ⟨r', hr', hmode', rfl⟩
    rcases List.mem_append.1 hr' with hr' | hr'
    · simpa [hmode'] using hbefore r' hr'
    · rcases List.mem_cons.1 hr' with rfl | hr'
      · exact le_rfl
      · exact (List.pairwise_cons.1 (List.pairwise_append.1 h).2.1).1 r' hr'
  constructor
  · intro heq
    obtain ⟨r, hr, rfl⟩ := Option.map_eq_some_iff.1 heq
    exact hfirst r hr
  · intro hleast
    obtain ⟨r', hr', hmode', -⟩ := hleast.1
    cases hfind : life.find? fun r => r.mode = .create with
    | none => exact absurd (decide_eq_true hmode') (List.find?_eq_none.1 hfind r' hr')
    | some r => rw [Option.map_some, (hfirst r hfind).unique hleast]

namespace EntityState

/-- What the records of a life make of an entity. -/
def ofLife (life : List EntityRecord) : Option EntityState :=
  life.getLast?.map fun latest => {
    entityType := latest.entityType
    createdAt := (life.find? fun r => r.mode = .create).map (·.writtenAt)
    modifiedAt := latest.writtenAt }

lemma bind_createdAt_ofLife (life : List EntityRecord) :
    (ofLife life).bind (·.createdAt) = (life.find? fun r => r.mode = .create).map (·.writtenAt) := by
  cases hlast : life.getLast? with
  | none =>
    obtain rfl := List.getLast?_eq_none_iff.1 hlast
    rfl
  | some latest =>
    rw [ofLife, hlast]
    rfl

/-! ### Carrying out records -/

lemma after_of_delete (h : d.mode = .delete) : after state d = none := if_pos h

/-- What comes before a deletion does not count. -/
lemma replay_append_cons (h : d.mode = .delete) (before records : List EntityRecord) :
    replay (before ++ d :: records) = replay records := by
  rw [replay, List.foldl_append, List.foldl_cons, after_of_delete h]
  rfl

lemma replay_of_ne_delete (h : ∀ r ∈ life, r.mode ≠ .delete) : replay life = ofLife life := by
  induction life using List.reverseRecOn with
  | nil => rfl
  | append_singleton life r ih =>
    have hlife := ih fun r' hr' => h r' (List.mem_append_left [r] hr')
    have hmode : r.mode ≠ .delete := h r (by simp)
    rw [replay, List.foldl_append, ← replay, hlife, List.foldl_cons, List.foldl_nil, after, if_neg hmode,
      bind_createdAt_ofLife, ofLife, List.getLast?_concat, Option.map_some, List.find?_append, Option.map_or]
    by_cases hcreate : r.mode = .create
    · simp [hcreate]
    · simp [hcreate]

/-- Carried out one after the other, records make of an entity what those of its life do. -/
theorem replay_eq_ofLife (h : IsLife records before life) : replay records = ofLife life := by
  rw [h.append_eq, ← replay_of_ne_delete h.ne_delete]
  cases before using List.reverseRecOn with
  | nil => rfl
  | append_singleton before d =>
    rw [List.append_assoc, List.singleton_append]
    exact replay_append_cons (h.delete d (by simp)) before life

end EntityState

/-! ### Reading the state off -/

open EntityState

/-- From behind, the records of a life come before the last deletion. -/
lemma IsLife.takeWhile_reverse (h : IsLife records before life) :
    (records.reverse.takeWhile fun r => r.mode ≠ .delete) = life.reverse := by
  have hbefore : (before.reverse.takeWhile fun r => r.mode ≠ .delete) = [] := by
    cases before using List.reverseRecOn with
    | nil => rfl
    | append_singleton before d => simp [h.delete d (by simp)]
  rw [h.append_eq, List.reverse_append, List.takeWhile_append_of_pos (by simpa using h.ne_delete), hbefore,
    List.append_nil]

lemma stateAt_eq_ofLife (h : IsLife (recordsUntil records reference) before life) :
    stateAt records reference = ofLife life := by
  rw [stateAt, h.takeWhile_reverse, List.head?_reverse, h.append_eq, List.getLast?_append]
  cases hlast : life.getLast? with
  | none =>
    -- the last record is a deletion, if there is one
    cases hbefore : before.getLast? with
    | none => simp [ofLife, hlast]
    | some d => simp [ofLife, hlast, h.delete d hbefore]
  | some latest =>
    have hmode : latest.mode ≠ .delete := h.ne_delete latest (List.mem_of_getLast? hlast)
    simp [ofLife, hlast, hmode, List.filter_reverse, List.getLast?_reverse, List.head?_filter]

/-- Read off from behind, the state is what the records make of the entity. -/
lemma stateAt_eq_replay_recordsUntil (records : List EntityRecord) (reference : Instant) :
    stateAt records reference = replay (recordsUntil records reference) := by
  obtain ⟨before, life, h⟩ := exists_isLife (recordsUntil records reference)
  rw [stateAt_eq_ofLife h, replay_eq_ofLife h]

/-- Without a record that is over, the state is the same. -/
lemma stateAt_append_of_isOver (h : IsOver reference l₁ r l₂) :
    stateAt (l₁ ++ l₂) reference = stateAt (l₁ ++ r :: l₂) reference := by
  by_cases huntil : r.writtenAt ≤ reference
  · have hkey : ∀ a b : EntityRecord, decide (a.writtenAt ≤ b.writtenAt) = true ↔ a.writtenAt ≤ b.writtenAt :=
      fun _ _ => decide_eq_true_iff
    obtain ⟨before, after, hwith, hwithout, hlater, hbehind⟩ := exists_mergeSort_append_cons _ hkey
      (l₁.filter fun r => r.writtenAt ≤ reference) (l₂.filter fun r => r.writtenAt ≤ reference) r
    -- in the order of times, a deletion comes after the record
    obtain ⟨d, hd, hmode⟩ : ∃ d ∈ after, d.mode = .delete := by
      cases h with
      | tooLate h => exact absurd huntil (not_le_of_gt h)
      | deletedBehind hd hmode hle h => exact ⟨_, hbehind _ (List.mem_filter.2 ⟨hd, decide_eq_true hle⟩) h, hmode⟩
      | deletedBefore hd hmode hle h => exact ⟨_, hlater _ (List.mem_filter.2 ⟨hd, decide_eq_true hle⟩) h, hmode⟩
    obtain ⟨between, rest, rfl⟩ := List.append_of_mem hd
    rw [stateAt_eq_replay_recordsUntil, stateAt_eq_replay_recordsUntil, recordsUntil, recordsUntil,
      List.filter_append, List.filter_append, List.filter_cons_of_pos (by simpa using huntil), hwith, hwithout,
      ← List.cons_append, ← List.append_assoc, ← List.append_assoc, replay_append_cons hmode,
      replay_append_cons hmode]
  · rw [stateAt_eq_replay_recordsUntil, stateAt_eq_replay_recordsUntil, recordsUntil, recordsUntil,
      List.filter_append, List.filter_append, List.filter_cons_of_neg (by simpa using huntil)]

/-- **The state of an entity is what its records make of it.**  Take any records and any instant. The records until
then are put in the order of their times, in which those of one time keep theirs; carried out one after the other,
they make the state of the entity. If it exists, it was created by the earliest creation since it was deleted the last
time. And a record that is after the instant or is followed by a deletion until then can be left out or put in
without changing the state. -/
theorem stateAt_eq_replay (records : List EntityRecord) (reference : Instant) :
    ∃ ordered, (∀ other, InTimeOrder (records.filter fun r => r.writtenAt ≤ reference) other ↔ other = ordered) ∧
      stateAt records reference = replay ordered ∧
      (∃ before life, IsLife ordered before life ∧ ∀ state, stateAt records reference = some state →
        ∀ t, state.createdAt = some t ↔ IsLeast (creationTimes life) t) ∧
      ∀ l₁ r l₂, records = l₁ ++ r :: l₂ → IsOver reference l₁ r l₂ →
        stateAt (l₁ ++ l₂) reference = stateAt records reference := by
  refine ⟨recordsUntil records reference, fun _ => inTimeOrder_iff, stateAt_eq_replay_recordsUntil records reference,
    ?_, ?_⟩
  · obtain ⟨before, life, h⟩ := exists_isLife (recordsUntil records reference)
    refine ⟨before, life, h, fun state hstate t => ?_⟩
    have hcreated : state.createdAt = (life.find? fun r => r.mode = .create).map (·.writtenAt) := by
      rw [← bind_createdAt_ofLife, ← stateAt_eq_ofLife h, hstate, Option.bind_some]
    have hsorted : (before ++ life).Pairwise fun a b => a.writtenAt ≤ b.writtenAt :=
      h.append_eq ▸ (inTimeOrder_iff.2 rfl).pairwise
    rw [hcreated, find?_create_eq_some_iff (List.pairwise_append.1 hsorted).2.1]
  · rintro l₁ r l₂ rfl h
    exact stateAt_append_of_isOver h

/-- Records of an entity that are not in the order of their times. At three seconds it is deleted and created anew. -/
def recreated : List EntityRecord :=
  [⟨"urn:a", "B", .update, .ofSecond 5⟩, ⟨"urn:a", "A", .create, .ofSecond 1⟩,
    ⟨"urn:a", "A", .delete, .ofSecond 3⟩, ⟨"urn:a", "B", .create, .ofSecond 3⟩,
    ⟨"urn:a", "C", .create, .ofSecond 4⟩, ⟨"urn:a", "D", .update, .ofSecond 9⟩]

/-- The first creation of the second life counts. Neither the creation of the first life nor the last change does. -/
theorem stateAt_eq_replay_recreated :
    let state : EntityState := ⟨"B", some (.ofSecond 3), .ofSecond 5⟩
    stateAt recreated (.ofSecond 6) = some state ∧
      (∃ before life, IsLife (recordsUntil recreated (.ofSecond 6)) before life ∧
        IsLeast (creationTimes life) (.ofSecond 3)) ∧
      stateAt (recreated.take 1 ++ recreated.drop 2) (.ofSecond 6) = some state ∧
      stateAt (recreated.take 5) (.ofSecond 6) = some state := by
  intro state
  have hsorted : recordsUntil recreated (.ofSecond 6) =
      [⟨"urn:a", "A", .create, .ofSecond 1⟩, ⟨"urn:a", "A", .delete, .ofSecond 3⟩,
        ⟨"urn:a", "B", .create, .ofSecond 3⟩, ⟨"urn:a", "C", .create, .ofSecond 4⟩,
        ⟨"urn:a", "B", .update, .ofSecond 5⟩] := by
    simp +decide [recordsUntil, recreated, List.mergeSort, List.MergeSort.Internal.splitInTwo]
  have hstate : stateAt recreated (.ofSecond 6) = some state := by
    rw [stateAt, hsorted]
    rfl
  obtain ⟨ordered, hordered, -, ⟨before, life, hlife, hcreated⟩, hover⟩ := stateAt_eq_replay recreated (.ofSecond 6)
  obtain rfl := (hordered _).1 (inTimeOrder_iff.2 rfl)
  have hdeleted : IsOver (.ofSecond 6) (recreated.take 1) recreated[1] (recreated.drop 2) :=
    .deletedBehind List.mem_cons_self rfl (by decide) (by decide)
  have hlate : IsOver (.ofSecond 6) (recreated.take 5) recreated[5] [] := .tooLate (by decide)
  refine ⟨hstate, ⟨before, life, hlife, (hcreated state hstate _).1 rfl⟩, ?_, ?_⟩
  · rw [hover _ _ _ rfl hdeleted, hstate]
  · rw [← List.append_nil (recreated.take 5), hover _ _ _ rfl hlate, hstate]

end EntityHistory
