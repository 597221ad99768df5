/-!
Moments in coordinated universal time.
-/
namespace Formwork

/-- A moment to the second. -/
structure Moment where
  year : Nat
  month : Nat
  day : Nat
  hour : Nat
  minute : Nat
  second : Nat
  deriving DecidableEq, Repr

namespace Moment

/-- The year, month and day of a day counted from 1970-01-01. Years are taken to begin in March, so
that leap days come last; 400 of them have 146097 days. -/
def civil (days : Nat) : Nat × Nat × Nat :=
  let z := days + 719468
  let era := z / 146097
  let doe := z % 146097
  let yoe := (doe - doe / 1460 + doe / 36524 - doe / 146096) / 365
  let doy := doe - (365 * yoe + yoe / 4 - yoe / 100)
  let mp := (5 * doy + 2) / 153
  let month := if mp < 10 then mp + 3 else mp - 9
  let year := yoe + era * 400 + (if month ≤ 2 then 1 else 0)
  (year, month, doy - (153 * mp + 2) / 5 + 1)

/-- The moment some seconds after the start of 1970. -/
def ofSeconds (seconds : Nat) : Moment :=
  let (year, month, day) := civil (seconds / 86400)
  let rest := seconds % 86400
  ⟨year, month, day, rest / 3600, rest % 3600 / 60, rest % 60⟩

/-- A number with at least `width` digits. -/
def padded (width n : Nat) : String :=
  let digits := toString n
  String.ofList (List.replicate (width - digits.length) '0') ++ digits

/-- Date and time without an offset. -/
def base (m : Moment) : String :=
  padded 4 m.year ++ "-" ++ padded 2 m.month ++ "-" ++ padded 2 m.day ++ "T" ++
    padded 2 m.hour ++ ":" ++ padded 2 m.minute ++ ":" ++ padded 2 m.second

/-- The text of a moment with a numeric offset. -/
def withOffset (m : Moment) : String := m.base ++ "+00:00"

/-- The text of a moment with the letter for no offset. -/
def zulu (m : Moment) : String := m.base ++ "Z"

end Moment

end Formwork
