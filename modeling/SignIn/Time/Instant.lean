/-!
# Spans, dates and instants

A `Span` says how long a token is valid: a whole number of seconds, of either sign, whose size stays
below the greatest that a count of milliseconds in sixty-four bits can hold. A number of minutes may
be too large for a span.

A `Date` is one of the proleptic Gregorian calendar, and `Date.days` its number of days since
1 January 1970. The count goes by eras of four hundred years, which all have 146097 days, and by
years that begin in March, so that a leap day is the last day of its year.

An `Instant` is a point of time in UTC, held to the nanosecond as a count of seconds since
1 January 1970 and a part of a second. A part of a billion nanoseconds or more lies in the leap
second that follows the second counted. Instants reach from the first day of the year -262143 to
the last day of the year 262142. `Instant.shift?` moves one by a number of nanoseconds and has no
result outside of these bounds.
-/

namespace SignIn

/-! ### Spans -/

/-- A whole number of seconds, of size at most `9223372036854775`: what sixty-four bits with a sign
can hold when it is counted in milliseconds. -/
structure Span where
  seconds : Int
  natAbs_le : seconds.natAbs ≤ 9223372036854775 := by decide
  deriving DecidableEq, Repr

namespace Span

/-- The greatest number of seconds of a span. -/
def greatest : Nat := 9223372036854775

/-- The span of a number of seconds, if it is not too large. -/
def ofSeconds? (n : Int) : Option Span :=
  if h : n.natAbs ≤ 9223372036854775 then some ⟨n, h⟩ else none

/-- The span of a number of minutes, if it is not too large. -/
def ofMinutes? (n : Int) : Option Span := ofSeconds? (n * 60)

/-- The length in nanoseconds. -/
def nanos (s : Span) : Int := s.seconds * 1000000000

theorem ofSeconds?_eq_some_iff {n : Int} {s : Span} : ofSeconds? n = some s ↔ s.seconds = n := by
  unfold ofSeconds?
  split
  · rw [Option.some.injEq]
    exact ⟨fun h => h ▸ rfl, fun h => by cases s; cases h; rfl⟩
  · rename_i hn
    simp only [reduceCtorEq, false_iff]
    exact fun h => hn (h ▸ s.natAbs_le)

/-- A span is the span of its own seconds. -/
@[simp] theorem ofSeconds?_seconds (s : Span) : ofSeconds? s.seconds = some s :=
  ofSeconds?_eq_some_iff.2 rfl

theorem ofSeconds?_eq_none_iff {n : Int} : ofSeconds? n = none ↔ greatest < n.natAbs := by
  unfold ofSeconds?
  split <;> simp only [reduceCtorEq, greatest, true_iff, false_iff] <;> omega

end Span

/-! ### The calendar -/

/-- A year, a month and a day of the month, by the rules of today extended to all years, the year
zero and those before it included. -/
structure Date where
  year : Int
  month : Nat
  day : Nat
  deriving DecidableEq, Repr

namespace Date

/-- Whether a year has a leap day. -/
def isLeapYear (y : Int) : Bool := y % 4 == 0 && (y % 100 != 0 || y % 400 == 0)

/-- The number of days of a month; none for what is no month. -/
def daysInMonth (y : Int) : Nat → Nat
  | 2 => if isLeapYear y then 29 else 28
  | 4 | 6 | 9 | 11 => 30
  | 1 | 3 | 5 | 7 | 8 | 10 | 12 => 31
  | _ => 0

/-- Whether the month has that day. -/
def IsValid (d : Date) : Prop := 1 ≤ d.day ∧ d.day ≤ daysInMonth d.year d.month

instance (d : Date) : Decidable d.IsValid := by unfold IsValid; infer_instance

/-- The number of days from 1 January 1970 to a date. -/
def days (d : Date) : Int :=
  let y := if d.month ≤ 2 then d.year - 1 else d.year
  let month : Int := if d.month ≤ 2 then d.month + 9 else d.month - 3
  let yearOfEra := y % 400
  let dayOfYear := (153 * month + 2) / 5 + d.day - 1
  let dayOfEra := yearOfEra * 365 + yearOfEra / 4 - yearOfEra / 100 + dayOfYear
  y / 400 * 146097 + dayOfEra - 719468

/-- The date at a number of days from 1 January 1970. -/
def ofDays (n : Int) : Date :=
  let z := n + 719468
  let dayOfEra := z % 146097
  let yearOfEra := (dayOfEra - dayOfEra / 1460 + dayOfEra / 36524 - dayOfEra / 146096) / 365
  let dayOfYear := dayOfEra - (365 * yearOfEra + yearOfEra / 4 - yearOfEra / 100)
  let month := (5 * dayOfYear + 2) / 153
  let day := dayOfYear - (153 * month + 2) / 5 + 1
  let y := yearOfEra + z / 146097 * 400
  if month < 10 then ⟨y, (month + 3).toNat, day.toNat⟩ else ⟨y + 1, (month - 9).toNat, day.toNat⟩

end Date

/-! ### Instants -/

/-- A point of time in UTC. An instant carries the proofs that it is within the bounds: the first
and the last are the ends of the years that a date is computed for. -/
structure Instant where
  /-- Seconds since the beginning of 1 January 1970. -/
  second : Int
  /-- Nanoseconds after that second; a billion and more is a leap second. -/
  nano : Nat
  earliest_le : -8334601228800 ≤ second := by decide
  le_latest : second ≤ 8210266876799 := by decide
  nano_lt : nano < 2000000000 := by decide
  deriving DecidableEq, Repr

namespace Instant

/-- A billion, the number of nanoseconds in a second. -/
abbrev billion : Int := 1000000000

/-- The instant with these counts, if it lies within the bounds. -/
def ofParts? (second : Int) (nano : Nat) : Option Instant :=
  if h : -8334601228800 ≤ second ∧ second ≤ 8210266876799 ∧ nano < 2000000000 then
    some ⟨second, nano, h.1, h.2.1, h.2.2⟩
  else none

/-- Whether the instant lies in a leap second. -/
def isLeap (t : Instant) : Bool := 1000000000 ≤ t.nano

/-- Nanoseconds since the beginning of 1 January 1970. -/
def nanos (t : Instant) : Int := t.second * billion + t.nano

/-- The instant at a count of nanoseconds, if it lies within the bounds. -/
def ofNanos? (n : Int) : Option Instant := ofParts? (n / billion) (n % billion).toNat

/-- The instant that lies a number of nanoseconds later, or earlier when the number is negative.
A leap second is left in the direction of the move, and is itself passed in no time. -/
def shift? (t : Instant) (n : Int) : Option Instant :=
  if t.isLeap then
    let whole := n.tdiv billion
    let part := n.tmod billion
    if 0 < whole ∨ (0 < part ∧ 2 * billion ≤ t.nano + part) then ofNanos? (t.nanos - billion + n)
    else if whole < 0 then ofNanos? (t.nanos + n)
    else ofParts? t.second (t.nano + part).toNat
  else ofNanos? (t.nanos + n)

/-- The order of time. -/
protected def le (t u : Instant) : Prop :=
  t.second < u.second ∨ (t.second = u.second ∧ t.nano ≤ u.nano)

instance : LE Instant := ⟨Instant.le⟩

instance (t u : Instant) : Decidable (t ≤ u) := by
  change Decidable (_ ∨ _); infer_instance

/-- The number of nanoseconds from one instant to another. An instant in a leap second counts a
second later when the other instant comes later in its own day. -/
def since (t u : Instant) : Int :=
  let inDay (x : Instant) := x.second % 86400
  let leap : Int :=
    if inDay u < inDay t ∧ u.isLeap then billion
    else if inDay t < inDay u ∧ t.isLeap then -billion
    else 0
  t.nanos - u.nanos + leap

theorem le_iff {t u : Instant} :
    t ≤ u ↔ t.second < u.second ∨ (t.second = u.second ∧ t.nano ≤ u.nano) := Iff.rfl

end Instant

end SignIn
