/-! # Instants

An `Instant` is a point of time in universal time with a resolution of one nanosecond: a `Date` of
the proleptic Gregorian calendar and a `TimeOfDay`.  A leap second has no number of its own; it
prolongs the last second of a minute, whose fraction then runs to two thousand million nanoseconds.

`Instant.rank` orders instants in time.  `Instant.shift?` moves a reading of a local clock to
universal time. -/

namespace PolicyAudit

/-! ### Dates -/

/-- A year with a 29th of February. -/
def isLeapYear (year : Int) : Bool := year % 4 = 0 && (year % 100 ≠ 0 || year % 400 = 0)

/-- The number of days of a month. -/
def daysInMonth (year : Int) (month : Nat) : Nat :=
  if month = 2 then (if isLeapYear year then 29 else 28)
  else if month = 4 ∨ month = 6 ∨ month = 9 ∨ month = 11 then 30
  else 31

theorem daysInMonth_le (year : Int) (month : Nat) : daysInMonth year month ≤ 31 := by
  unfold daysInMonth
  split
  · split <;> decide
  · split <;> decide

/-- The first year of the calendar. -/
def minYear : Int := -262143

/-- The last year of the calendar. -/
def maxYear : Int := 262142

/-- The day exists in the calendar. -/
def IsDate (year : Int) (month day : Nat) : Prop :=
  minYear ≤ year ∧ year ≤ maxYear ∧ 1 ≤ month ∧ month ≤ 12 ∧
    1 ≤ day ∧ day ≤ daysInMonth year month

instance (year : Int) (month day : Nat) : Decidable (IsDate year month day) := by
  unfold IsDate; infer_instance

structure Date where
  year : Int
  month : Nat
  day : Nat
  isDate : IsDate year month day
deriving DecidableEq, Repr

namespace Date

def ofParts? (year : Int) (month day : Nat) : Option Date :=
  if h : IsDate year month day then some ⟨year, month, day, h⟩ else none

/-- The next day; the last day of the calendar has none. -/
def next? (d : Date) : Option Date :=
  if d.day < daysInMonth d.year d.month then ofParts? d.year d.month (d.day + 1)
  else if d.month < 12 then ofParts? d.year (d.month + 1) 1
  else ofParts? (d.year + 1) 1 1

/-- The day before; the first day of the calendar has none. -/
def previous? (d : Date) : Option Date :=
  if 1 < d.day then ofParts? d.year d.month (d.day - 1)
  else if 1 < d.month then ofParts? d.year (d.month - 1) (daysInMonth d.year (d.month - 1))
  else ofParts? (d.year - 1) 12 31

end Date

/-! ### Times of day -/

def secondsPerDay : Nat := 86400

def nanosPerSecond : Nat := 1000000000

/-- The time exists: its second lies in the day, and only the last second of a minute is longer
than one second. -/
def IsTime (second nano : Nat) : Prop :=
  second < secondsPerDay ∧ nano < 2 * nanosPerSecond ∧ (nanosPerSecond ≤ nano → second % 60 = 59)

instance (second nano : Nat) : Decidable (IsTime second nano) := by
  unfold IsTime; infer_instance

/-- Seconds since midnight, and nanoseconds since the second began. -/
structure TimeOfDay where
  second : Nat
  nano : Nat
  isTime : IsTime second nano
deriving DecidableEq, Repr

namespace TimeOfDay

def ofParts? (second nano : Nat) : Option TimeOfDay :=
  if h : IsTime second nano then some ⟨second, nano, h⟩ else none

end TimeOfDay

/-! ### Instants -/

structure Instant where
  date : Date
  time : TimeOfDay
deriving DecidableEq, Repr

namespace Instant

/-- The place of the instant in time: its parts from year to nanosecond, each in a radix above all
its values. -/
def rank (i : Instant) : Int :=
  (((i.date.year * 13 + i.date.month) * 32 + i.date.day) * secondsPerDay + i.time.second) *
    (2 * nanosPerSecond) + i.time.nano

/-- Instants with one rank are equal. -/
theorem rank_injective {a b : Instant} (h : a.rank = b.rank) : a = b := by
  obtain ⟨⟨ya, ma, da, ha⟩, ⟨sa, na, ta⟩⟩ := a
  obtain ⟨⟨yb, mb, db, hb⟩, ⟨sb, nb, tb⟩⟩ := b
  have hda := daysInMonth_le ya ma
  have hdb := daysInMonth_le yb mb
  simp only [rank, secondsPerDay, nanosPerSecond] at h
  have ma2 := ha.2.2.2.1
  have da2 := ha.2.2.2.2.2
  have mb2 := hb.2.2.2.1
  have db2 := hb.2.2.2.2.2
  have sa2 : sa < 86400 := ta.1
  have na2 : na < 2000000000 := ta.2.1
  have sb2 : sb < 86400 := tb.1
  have nb2 : nb < 2000000000 := tb.2.1
  have : ya = yb := by omega
  have : ma = mb := by omega
  have : da = db := by omega
  have : sa = sb := by omega
  have : na = nb := by omega
  subst_vars
  rfl

/-- The instant at which a clock that runs `offset` minutes ahead of universal time shows the date
and time; none when it lies outside the calendar. -/
def shift? (date : Date) (time : TimeOfDay) (offset : Int) : Option Instant :=
  let second : Int := time.second - 60 * offset
  if second < 0 then do
    some ⟨← date.previous?, ← TimeOfDay.ofParts? (second + secondsPerDay).toNat time.nano⟩
  else if second < secondsPerDay then do
    some ⟨date, ← TimeOfDay.ofParts? second.toNat time.nano⟩
  else do
    some ⟨← date.next?, ← TimeOfDay.ofParts? (second - secondsPerDay).toNat time.nano⟩

/-- A clock that shows universal time is not moved. -/
theorem shift?_zero (date : Date) (time : TimeOfDay) : shift? date time 0 = some ⟨date, time⟩ := by
  obtain ⟨s, n, h⟩ := time
  have hs := h.1
  simp [shift?, show ¬ ((s : Int) < 0) by omega, show (s : Int) < secondsPerDay by omega,
    TimeOfDay.ofParts?, h]

end Instant
end PolicyAudit
