import RunGate.Calendar.Date
import RunGate.Digits

namespace RunGate

/-- An instant. The nanoseconds reach past a full second within a leap second, which is so kept
apart from the second before it and from the one after it. -/
structure Instant where
  day : Int
  /-- Seconds since midnight. -/
  second : Nat
  /-- Nanoseconds since that second began. -/
  nano : Nat
deriving DecidableEq

namespace Instant

open Digits (padded)

instance : Inhabited Instant := ⟨⟨0, 0, 0⟩⟩

/-- Order by day, then by second, then by nanosecond. -/
instance : LT Instant where
  lt first second := first.day < second.day ∨ first.day = second.day ∧
    (first.second < second.second ∨ first.second = second.second ∧ first.nano < second.nano)

theorem lt_def {first second : Instant} :
    first < second ↔ first.day < second.day ∨ first.day = second.day ∧
      (first.second < second.second ∨
        first.second = second.second ∧ first.nano < second.nano) := Iff.rfl

instance (first second : Instant) : Decidable (first < second) :=
  decidable_of_iff _ lt_def.symm

theorem lt_irrefl (instant : Instant) : ¬ instant < instant := by
  simp [lt_def]

theorem lt_trans {first second third : Instant} (left : first < second) (right : second < third) :
    first < third := by
  simp only [lt_def] at left right ⊢
  omega

theorem lt_asymm {first second : Instant} (before : first < second) : ¬ second < first :=
  fun after => lt_irrefl first (lt_trans before after)

theorem lt_of_not_lt_of_ne {first second : Instant} (notBefore : ¬ first < second)
    (other : first ≠ second) : second < first := by
  obtain ⟨day, seconds, nano⟩ := first
  obtain ⟨day', seconds', nano'⟩ := second
  simp only [lt_def, ne_eq, mk.injEq] at *
  omega

/-- Midnight of a number of days after the first of January 2024. -/
def midnight (days : Int) : Instant :=
  ⟨Calendar.Date.number ⟨2024, 1, 1⟩ + days, 0, 0⟩

/-- Four digits from year 0 to 9999; other years have a sign and at least four digits. -/
def yearText (year : Int) : String :=
  if 0 ≤ year ∧ year ≤ 9999 then padded 4 year.toNat
  else (if year < 0 then "-" else "+") ++ padded 4 year.natAbs

/-- The fraction of a second: absent, or as many of three, six and nine digits as it takes. -/
def fractionText (nano : Nat) : String :=
  if nano == 0 then ""
  else if nano % 1000000 == 0 then "." ++ padded 3 (nano / 1000000)
  else if nano % 1000 == 0 then "." ++ padded 6 (nano / 1000)
  else "." ++ padded 9 nano

/-- The instant in universal time; a leap second is the sixtieth of its minute. -/
def text (instant : Instant) : String :=
  let date := Calendar.Date.ofNumber instant.day
  let leap := decide (1000000000 ≤ instant.nano)
  let second := instant.second % 60 + (if leap then 1 else 0)
  let nano := if leap then instant.nano - 1000000000 else instant.nano
  yearText date.year ++ "-" ++ padded 2 date.month ++ "-" ++ padded 2 date.day ++ " " ++
    padded 2 (instant.second / 3600) ++ ":" ++ padded 2 (instant.second / 60 % 60) ++ ":" ++
    padded 2 second ++ fractionText nano ++ " UTC"

end Instant

end RunGate
