/-
Instants.

An instant is a number of ticks since 1970-01-01T00:00:00Z. A second has two thousand million ticks: the
first half are its nanoseconds, and the second half are those of a leap second that follows it, so a leap
second lies after all of the second before it and before the next. The order of instants is the order of
their ticks.
-/
import EntityHistory.Time.Calendar

namespace EntityHistory

/-- The number of ticks of a second. -/
def ticksPerSecond : Int := 2000000000

/-- The number of ticks of a day. -/
def ticksPerDay : Int := 86400 * ticksPerSecond

/-- An instant, in ticks since 1970-01-01T00:00:00Z. -/
structure Instant where
  ticks : Int
deriving DecidableEq, Repr, Inhabited, Ord

/-- A time of day, in ticks since midnight. -/
structure TimeOfDay where
  ticks : Int
deriving DecidableEq, Repr, Inhabited, Ord

namespace Instant

instance : LE Instant := ⟨fun a b => a.ticks ≤ b.ticks⟩

instance : LT Instant := ⟨fun a b => a.ticks < b.ticks⟩

theorem le_def {a b : Instant} : a ≤ b ↔ a.ticks ≤ b.ticks := Iff.rfl

theorem lt_def {a b : Instant} : a < b ↔ a.ticks < b.ticks := Iff.rfl

instance (a b : Instant) : Decidable (a ≤ b) := inferInstanceAs (Decidable (a.ticks ≤ b.ticks))

instance (a b : Instant) : Decidable (a < b) := inferInstanceAs (Decidable (a.ticks < b.ticks))

instance : Min Instant := ⟨fun a b => if a ≤ b then a else b⟩

instance : Max Instant := ⟨fun a b => if a ≤ b then b else a⟩

/-- The instant so many nanoseconds after the beginning of a second; a thousand million and more lie in
the leap second after it. -/
def ofSecond (second : Int) (nano : Nat := 0) : Instant := ⟨second * ticksPerSecond + nano⟩

/-- The whole seconds since 1970-01-01T00:00:00Z. -/
def second (t : Instant) : Int := t.ticks / ticksPerSecond

/-- The nanoseconds since the beginning of the second. -/
def nano (t : Instant) : Nat := (t.ticks % ticksPerSecond).toNat

/-- The day that the instant falls on. -/
def date (t : Instant) : Date := ⟨t.ticks / ticksPerDay⟩

/-- The time of day of the instant. -/
def timeOfDay (t : Instant) : TimeOfDay := ⟨t.ticks % ticksPerDay⟩

end Instant

namespace TimeOfDay

/-- The time of day with the given hour, minute, second and nanosecond; the second 60 is a leap second. -/
def ofClock? (hour minute second nano : Nat) : Option TimeOfDay :=
  if hour < 24 ∧ minute < 60 ∧ second ≤ 60 ∧ nano < 1000000000 then
    let (second, nano) := if second = 60 then (59, nano + 1000000000) else (second, nano)
    some ⟨((hour * 60 + minute) * 60 + second : Nat) * ticksPerSecond + nano⟩
  else none

/-- The hour, minute, second and nanosecond of a time of day. -/
def clock (t : TimeOfDay) : Nat × Nat × Nat × Nat :=
  let second := (t.ticks / ticksPerSecond).toNat
  let nano := (t.ticks % ticksPerSecond).toNat
  let (extra, nano) := if 1000000000 ≤ nano then (1, nano - 1000000000) else (0, nano)
  (second / 3600, second / 60 % 60, second % 60 + extra, nano)

end TimeOfDay

/-- The instant of a day and a time of day. -/
def Instant.ofDate (d : Date) (t : TimeOfDay) : Instant := ⟨d.day * ticksPerDay + t.ticks⟩

end EntityHistory
