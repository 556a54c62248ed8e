/-!
Dates of the Gregorian calendar, carried back to the year 1, and their numbers: 1 January of the
year 1 is day 1.
-/
namespace HttpContract.Calendar

def isLeap (year : Int) : Bool := year % 4 = 0 && (year % 100 ≠ 0 || year % 400 = 0)

def daysInYear (year : Int) : Int := if isLeap year then 366 else 365

def daysBefore (year : Int) : Int :=
  (year - 1) * 365 + (year - 1) / 4 - (year - 1) / 100 + (year - 1) / 400

theorem daysBefore_succ (year : Int) : daysBefore (year + 1) = daysBefore year + daysInYear year := by
  simp only [daysBefore, daysInYear, isLeap, Bool.and_eq_true, Bool.or_eq_true, decide_eq_true_eq,
    ne_eq]
  split <;> omega

def monthDays (year : Int) : List Int :=
  [31, if isLeap year then 29 else 28, 31, 30, 31, 30, 31, 31, 30, 31, 30, 31]

structure Date where
  year : Int
  month : Nat
  day : Int
  deriving DecidableEq

inductive DateFault
  | year (year : Int)
  | day
  deriving DecidableEq

namespace Date

def check (d : Date) : Except DateFault Date :=
  if d.year < 1 ∨ 9999 < d.year then .error (.year d.year)
  else if d.day < 1 ∨ ((monthDays d.year).getD (d.month - 1) 0) < d.day then .error .day
  else .ok d

def daysBeforeMonth (year : Int) (month : Nat) : Int := ((monthDays year).take (month - 1)).foldl (· + ·) 0

def ordinal (d : Date) : Int := daysBefore d.year + daysBeforeMonth d.year d.month + d.day

def weekday (d : Date) : Int := (d.ordinal + 6) % 7

def ofDayOfYear (year : Int) (month : Nat) (n : Int) : List Int → Date
  | [] => ⟨year, month, n⟩
  | days :: rest => if n ≤ days then ⟨year, month, n⟩ else ofDayOfYear year (month + 1) (n - days) rest

/-- The year of the day with this number, by way of an estimate that is off by one year at most. -/
def yearOf (n : Int) : Int :=
  let guess := (n - 1) * 400 / 146097 + 1
  if n ≤ daysBefore guess then guess - 1
  else if daysBefore (guess + 1) < n then guess + 1
  else guess

def ofOrdinal (n : Int) : Except DateFault Date :=
  let year := yearOf n
  if year < 1 ∨ 9999 < year then .error (.year year)
  else .ok (ofDayOfYear year 1 (n - daysBefore year) (monthDays year))

end Date

end HttpContract.Calendar
