namespace LayeredSite

namespace Calendar

def minYear : Int := -262143

def maxYear : Int := 262142

def isLeap (year : Int) : Bool := year % 4 == 0 && (year % 100 != 0 || year % 400 == 0)

def daysInMonth (year : Int) (month : Nat) : Nat :=
  if month = 2 then (if isLeap year then 29 else 28)
  else if month = 4 ∨ month = 6 ∨ month = 9 ∨ month = 11 then 30
  else 31

def isDate (year : Int) (month day : Nat) : Bool :=
  decide (minYear ≤ year) && decide (year ≤ maxYear) && decide (1 ≤ month) && decide (month ≤ 12) &&
    decide (1 ≤ day) && decide (day ≤ daysInMonth year month)

end Calendar

structure Date where
  year : Int
  month : Nat
  day : Nat
  valid : Calendar.isDate year month day = true
deriving DecidableEq, Repr

namespace Date

def of? (year : Int) (month day : Nat) : Option Date :=
  if h : Calendar.isDate year month day = true then some ⟨year, month, day, h⟩ else none

def notAfter (a b : Date) : Bool :=
  decide (a.year < b.year) || (a.year == b.year &&
    (decide (a.month < b.month) || (a.month == b.month && decide (a.day ≤ b.day))))

def epoch : Date := ⟨1970, 1, 1, by decide⟩

/-- The date a number of days after the first of March of year zero, years beginning in March:
a cycle of 400 years has 146097 days. -/
def ofMarchDays (n : Int) : Option Date :=
  let era := n.fdiv 146097
  let dayOfEra := (n.fmod 146097).toNat
  let yearOfEra := (dayOfEra - dayOfEra / 1460 + dayOfEra / 36524 - dayOfEra / 146096) / 365
  let dayOfYear := dayOfEra - (365 * yearOfEra + yearOfEra / 4 - yearOfEra / 100)
  let shifted := (5 * dayOfYear + 2) / 153
  let day := dayOfYear - (153 * shifted + 2) / 5 + 1
  let month := if shifted < 10 then shifted + 3 else shifted - 9
  let year := (yearOfEra : Int) + era * 400
  of? (if month ≤ 2 then year + 1 else year) month day

def ofUnixTime (seconds : Int) : Option Date := ofMarchDays (seconds.fdiv 86400 + 719468)

theorem of?_eq_some {year : Int} {month day : Nat} {d : Date} (h : of? year month day = some d) :
    d.year = year ∧ d.month = month ∧ d.day = day := by
  unfold of? at h
  split at h
  · cases h; exact ⟨rfl, rfl, rfl⟩
  · simp at h

theorem of?_self (d : Date) : of? d.year d.month d.day = some d := by
  simp [of?, d.valid]

end Date

structure Clock where
  /-- Seconds since 1970. -/
  now : Int
  today : Date

/-- A time in UTC; one beyond the calendar has the day of the epoch. -/
def Clock.ofUnixTime (seconds : Int) : Clock :=
  ⟨seconds, (Date.ofUnixTime seconds).getD Date.epoch⟩

end LayeredSite
