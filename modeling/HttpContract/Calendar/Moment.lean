import HttpContract.Calendar.Date
import HttpContract.Calendar.Format
import HttpContract.Text.Quoted

/-!
Reading a moment after a format. The parts that the format names are collected in the order of the
format, then put together; a date may be given by month and day, by the day of the year, or by a
week and a weekday. What is not named counts as 1 January 1900 at midnight.
-/
namespace HttpContract.Calendar

inductive MomentFault
  | format (fault : FormatFault)
  | repeatedDirective
  | mismatch
  | leftover (rest : String)
  /-- A name that differs from a known one although its letters count the same. -/
  | unlisted (name : String)
  | mixedOffset (offset : String)
  | offsetSeconds (digits : String)
  | isoYearWithDay
  | isoYearAlone
  | isoWeekAlone
  | isoWeekWithYear
  | date (fault : DateFault)
  | second
  /-- The distance from universal time, in millionths of a second. -/
  | farOffset (offset : Int)
  deriving DecidableEq

structure Moment where
  date : Date
  hour : Nat
  minute : Nat
  second : Nat
  fraction : Nat
  offset : Option Int
  deriving DecidableEq

structure Parts where
  year : Option Int := none
  month : Nat := 1
  day : Int := 1
  hour : Nat := 0
  minute : Nat := 0
  second : Nat := 0
  fraction : Nat := 0
  offset : Option Int := none
  isoYear : Option Int := none
  isoWeek : Option Int := none
  /-- The week of the year, and whether weeks begin on Monday. -/
  week : Option (Int × Bool) := none
  weekday : Option Int := none
  dayOfYear : Option Int := none

def numberOf (s : List Char) : Nat := ((Number.readInteger s).getD 0).toNat

def indexOf (names : List String) (s : List Char) : Except MomentFault Nat :=
  match names.findIdx? (· == String.ofList (Text.lower s)) with
  | some i => .ok i
  | none => .error (.unlisted (String.ofList (Text.lower s)))

def clockHour (hour : Nat) (half : Option (List Char)) : Nat :=
  match half.map Text.lower with
  | some ['p', 'm'] => if hour = 12 then 12 else hour + 12
  | _ => if hour = 12 then 0 else hour

def sixDigits (s : List Char) : List Char := s ++ List.replicate (6 - s.length) '0'

def plainOffset (s : List Char) : Except MomentFault (List Char) :=
  if s[3]? = some ':' then
    let t := s.eraseIdx 3
    if t.length ≤ 5 then .ok t
    else if t[5]? = some ':' then .ok (t.eraseIdx 5)
    else .error (.mixedOffset (String.ofList s))
  else .ok s

def readOffset (s : List Char) : Except MomentFault Int :=
  if s = ['Z'] then .ok 0
  else do
    let t ← plainOffset s
    let seconds := (t.drop 5).take 2
    if seconds.contains ':' then throw (.offsetSeconds (String.ofList seconds))
    let whole := numberOf ((t.drop 1).take 2) * 3600 + numberOf ((t.drop 3).take 2) * 60
      + numberOf seconds
    let total : Int := whole * 1000000 + numberOf (sixDigits (t.drop 8))
    return if t.head? = some '-' then -total else total

namespace Parts

def add (half : Option (List Char)) (p : Parts) (directive : String) (s : List Char) :
    Except MomentFault Parts :=
  let n : Nat := numberOf s
  match directive with
  | "y" => .ok { p with year := some (if n ≤ 68 then n + 2000 else n + 1900) }
  | "Y" => .ok { p with year := some n }
  | "G" => .ok { p with isoYear := some n }
  | "m" => .ok { p with month := n }
  | "B" => do return { p with month := (← indexOf monthNames s) + 1 }
  | "b" => do return { p with month := (← indexOf monthShorts s) + 1 }
  | "d" => .ok { p with day := n }
  | "H" => .ok { p with hour := n }
  | "I" => .ok { p with hour := clockHour n half }
  | "M" => .ok { p with minute := n }
  | "S" => .ok { p with second := n }
  | "f" => .ok { p with fraction := numberOf (sixDigits s) }
  | "A" => do return { p with weekday := some (← indexOf weekdayNames s) }
  | "a" => do return { p with weekday := some (← indexOf weekdayShorts s) }
  | "w" => .ok { p with weekday := some ((n + 6) % 7) }
  | "u" => .ok { p with weekday := some (n - 1) }
  | "j" => .ok { p with dayOfYear := some n }
  | "U" => .ok { p with week := some (n, false) }
  | "W" => .ok { p with week := some (n, true) }
  | "V" => .ok { p with isoWeek := some n }
  | "z" => do return { p with offset := some (← readOffset s) }
  | _ => .ok p

/-- A year of the ISO calendar alone asks for its week and a weekday, and for no day of the year. A
week of that calendar asks for its year, unless a week of the other kind is there, which counts
instead. -/
def checkIso (p : Parts) : Except MomentFault Unit :=
  -- Releases of the calendar differ in the order of these questions: later ones begin with the ISO
  -- year, whether or not another year is given. The recorded comparisons bear out the earlier order.
  if p.year.isNone && p.isoYear.isSome then
    if p.isoWeek.isNone || p.weekday.isNone then .error .isoYearAlone
    else if p.dayOfYear.isSome then .error .isoYearWithDay
    else .ok ()
  else if p.week.isNone && p.isoWeek.isSome then
    if p.weekday.isNone then .error .isoWeekAlone else .error .isoWeekWithYear
  else .ok ()

def dateOf (year : Int) (month : Nat) (day : Int) : Except MomentFault Date :=
  ((⟨year, month, day⟩ : Date).check).mapError .date

def dayOfWeek (year week weekday : Int) (fromMonday : Bool) : Except MomentFault Int := do
  let first := (← dateOf year 1 1).weekday
  let first := if fromMonday then first else (first + 1) % 7
  let weekday := if fromMonday then weekday else (weekday + 1) % 7
  if week = 0 then return 1 + weekday - first
  return 1 + (7 - first) % 7 + 7 * (week - 1) + weekday

/-- The year and the day of the year for a weekday, counted from 1, of a week of the ISO calendar:
its first week is that of 4 January. -/
def isoDay (year week weekday : Int) : Except MomentFault (Int × Int) := do
  let n := week * 7 + weekday - ((← dateOf year 1 4).weekday + 4)
  if 1 ≤ n then return (year, n)
  let n := n + (← dateOf year 1 1).ordinal
  return (year - 1, n - (← dateOf (year - 1) 1 1).ordinal)

def inYear (year n : Int) : Int × Int :=
  if n ≤ 0 then (year - 1, n + daysInYear (year - 1)) else (year, n)

def dayOfYear? (p : Parts) (year : Int) : Except MomentFault (Int × Option Int) :=
  match p.dayOfYear, p.weekday with
  | some n, _ => .ok (year, some n)
  | none, none => .ok (year, none)
  | none, some weekday =>
    -- A week of either calendar counts only if no day of the year is given.
    match p.week, p.isoYear, p.isoWeek with
    | some (week, fromMonday), _, _ => do
      let (year, n) := inYear year (← dayOfWeek year week weekday fromMonday)
      return (year, some n)
    | none, some isoYear, some isoWeek => do
      let (year, n) ← isoDay isoYear isoWeek (weekday + 1)
      let (year, n) := inYear year n
      return (year, some n)
    | _, _, _ => .ok (year, none)

/-- Without a year, 29 February is looked up in a leap year and then taken for a day of 1900. -/
def date (p : Parts) : Except MomentFault Date := do
  checkIso p
  -- 1904 is the first leap year of the century, 1900 is none.
  let leapDay := p.year.isNone && p.month = 2 && p.day = 29
  let year := p.year.getD (if leapDay then 1904 else 1900)
  let (year, day?) ← dayOfYear? p year
  let d ← match day? with
    | none => dateOf year p.month p.day
    | some n => do (Date.ofOrdinal (n - 1 + (← dateOf year 1 1).ordinal)).mapError .date
  return if leapDay then { d with year := 1900 } else d

def dayLength : Int := 86400 * 1000000

def moment (p : Parts) : Except MomentFault Moment := do
  let d ← date p
  match p.offset with
  | some offset => if dayLength ≤ offset.natAbs then throw (.farOffset offset)
  | none => pure ()
  let d ← (d.check).mapError .date
  if 59 < p.second then throw .second
  return ⟨d, p.hour, p.minute, p.second, p.fraction, p.offset⟩

end Parts

def foundParts (names : List (String × Nat)) (caps : Regex.Captures) (s : List Char) :
    List (String × List Char) :=
  names.filterMap fun e =>
    (caps.get? e.2).map fun span => (e.1, (s.drop span.1).take (span.2 - span.1))

def Moment.read (format s : List Char) : Except MomentFault Moment := do
  let source ← (pattern false format).mapError .format
  match Regex.Pattern.parse ("(?i)".toList ++ source) with
  | .error _ => throw .repeatedDirective
  | .ok p =>
    match p.matchStart s with
    | none => throw .mismatch
    | some (stop, caps) =>
      if stop < s.length then throw (.leftover (String.ofList (s.drop stop)))
      let found := foundParts p.names caps s
      let parts ← found.foldlM (fun p e => Parts.add (found.lookup "p") p e.1 e.2) {}
      Parts.moment parts

/-- A length of time as days, seconds and millionths, of which only the first may be negative. -/
def durationText (n : Int) : String :=
  let part (name : String) (n : Int) : List String :=
    if n = 0 then [] else [name ++ "=" ++ String.ofList (Number.integerText n)]
  "datetime.timedelta("
    ++ String.intercalate ", " (part "days" (n / Parts.dayLength)
      ++ part "seconds" (n % Parts.dayLength / 1000000)
      ++ part "microseconds" (n % Parts.dayLength % 1000000)) ++ ")"

def DateFault.message : DateFault → String
  | .year n => "year " ++ String.ofList (Number.integerText n) ++ " is out of range"
  | .day => "day is out of range for month"

def MomentFault.message (format s : String) : MomentFault → String
  | .format (.directive c) =>
    "'" ++ String.singleton c ++ "' is a bad directive in format '" ++ format ++ "'"
  | .format .stray => "stray % in format '" ++ format ++ "'"
  | .repeatedDirective => "repeated directive in format '" ++ format ++ "'"
  | .mismatch =>
    "time data " ++ Text.quotedText s ++ " does not match format " ++ Text.quotedText format
  | .leftover rest => "unconverted data remains: " ++ rest
  | .unlisted name => Text.quotedText name ++ " is not in list"
  | .mixedOffset offset => "Inconsistent use of : in " ++ offset
  | .offsetSeconds digits =>
    "invalid literal for int() with base 10: " ++ Text.quotedText digits
  | .isoYearWithDay =>
    "Day of the year directive '%j' is not compatible with ISO year directive '%G'. " ++
      "Use '%Y' instead."
  | .isoYearAlone =>
    "ISO year directive '%G' must be used with the ISO week directive '%V' and a weekday " ++
      "directive ('%A', '%a', '%w', or '%u')."
  | .isoWeekAlone =>
    "ISO week directive '%V' must be used with the ISO year directive '%G' and a weekday " ++
      "directive ('%A', '%a', '%w', or '%u')."
  | .isoWeekWithYear =>
    "ISO week directive '%V' is incompatible with the year directive '%Y'. " ++
      "Use the ISO year '%G' instead."
  | .date fault => fault.message
  | .second => "second must be in 0..59"
  | .farOffset offset =>
    "offset must be a timedelta strictly between -timedelta(hours=24) and " ++
      "timedelta(hours=24), not " ++ durationText offset ++ "."

end HttpContract.Calendar
