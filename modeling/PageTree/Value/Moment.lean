/-!
# Moments

A `Moment` is a date, or a time of the day on a date.  The clock that shows a time may be known to
be ahead of universal time by some minutes; two such times are the same if they are at once,
whatever their clocks show.  Dates, times of which that is known and times of which it is not are
never the same.
-/

namespace PageTree

/-- What a clock shows. -/
structure ClockTime where
  hour : Fin 24
  minute : Fin 60
  second : Fin 60
  micro : Fin 1000000
  /-- By how many minutes the clock is ahead of universal time, if that is known. -/
  ahead : Option Int
  deriving DecidableEq, Repr

/-- The time with the given parts, if a clock can show them. -/
def ClockTime.of? (hour minute second micro : Nat) (ahead : Option Int) : Option ClockTime :=
  if h : hour < 24 ∧ minute < 60 ∧ second < 60 ∧ micro < 1000000 then
    if (ahead.getD 0).natAbs < 1440 then
      some ⟨⟨hour, h.1⟩, ⟨minute, h.2.1⟩, ⟨second, h.2.2.1⟩, ⟨micro, h.2.2.2⟩, ahead⟩
    else none
  else none

/-- The number of days of a month. -/
def daysOfMonth (year month : Nat) : Nat :=
  if month = 2 then
    if year % 4 = 0 && (year % 100 != 0 || year % 400 = 0) then 29 else 28
  else if [4, 6, 9, 11].contains month then 30
  else 31

/-- A date of the calendar, or a time on one. -/
structure Moment where
  year : Nat
  month : Nat
  day : Nat
  time : Option ClockTime
  year_mem : 1 ≤ year ∧ year ≤ 9999
  month_mem : 1 ≤ month ∧ month ≤ 12
  day_mem : 1 ≤ day ∧ day ≤ daysOfMonth year month
  deriving DecidableEq, Repr

namespace Moment

/-- The moment with the given parts, if they are those of a date. -/
def of? (year month day : Nat) (time : Option ClockTime) : Option Moment :=
  if hyear : 1 ≤ year ∧ year ≤ 9999 then
    if hmonth : 1 ≤ month ∧ month ≤ 12 then
      if hday : 1 ≤ day ∧ day ≤ daysOfMonth year month then
        some ⟨year, month, day, time, hyear, hmonth, hday⟩
      else none
    else none
  else none

/-- The days from the first of March of the year zero to a date.  A year is counted from March on,
so that its leap day is the last one. -/
def dayNumber (m : Moment) : Int :=
  let year := if m.month ≤ 2 then m.year - 1 else m.year
  let month := (m.month + 9) % 12
  365 * year + year / 4 - year / 100 + year / 400 + (153 * month + 2) / 5 + m.day - 1

/-- The microseconds of universal time since the beginning of a day, at a time on it. -/
def sinceMidnight (t : ClockTime) : Int :=
  ((t.hour * 60 + t.minute - t.ahead.getD 0) * 60 + t.second) * 1000000 + t.micro

/-- What moments are compared by: whether there is a time and whether it is known how far ahead its
clock is, and the days or microseconds that have passed. -/
def mark (m : Moment) : Option Bool × Int :=
  match m.time with
  | none => (none, m.dayNumber)
  | some t => (some t.ahead.isSome, m.dayNumber * 86400000000 + sinceMidnight t)

/-- Whether two moments are the same. -/
def same (a b : Moment) : Bool :=
  a.mark == b.mark

/-- A number with zeros in front, so that it has at least `width` digits. -/
def padded (width n : Nat) : String :=
  let digits := Nat.toDigits 10 n
  String.ofList (List.replicate (width - digits.length) '0' ++ digits)

/-- A date as text. -/
def dateText (m : Moment) : String :=
  padded 4 m.year ++ "-" ++ padded 2 m.month ++ "-" ++ padded 2 m.day

/-- How far a clock is ahead, as text. -/
def aheadText (minutes : Int) : String :=
  let n := minutes.natAbs
  (if minutes < 0 then "-" else "+") ++ padded 2 (n / 60) ++ ":" ++ padded 2 (n % 60)

/-- A time as text. -/
def timeText (t : ClockTime) : String :=
  padded 2 t.hour ++ ":" ++ padded 2 t.minute ++ ":" ++ padded 2 t.second ++
    (if t.micro = 0 then "" else "." ++ padded 6 t.micro) ++ (t.ahead.map aheadText).getD ""

/-- A moment as text. -/
def text (m : Moment) : String :=
  match m.time with
  | none => m.dateText
  | some t => m.dateText ++ " " ++ timeText t

/-- The name of the kind of a moment, as messages give it. -/
def kind (m : Moment) : String :=
  if m.time.isSome then "datetime" else "date"

/-- How far a clock is ahead, as it is shown: by days and seconds of the time between. -/
def showAhead (minutes : Int) : String :=
  let days := minutes / 1440
  let seconds := minutes % 1440 * 60
  let parts := (if days = 0 then [] else ["days=" ++ toString days]) ++
    if seconds = 0 then [] else ["seconds=" ++ toString seconds]
  if minutes = 0 then "datetime.timezone.utc"
  else "datetime.timezone(datetime.timedelta(" ++ String.intercalate ", " parts ++ "))"

/-- The parts of a moment as they are shown; seconds that are zero are left out. -/
def shownParts (m : Moment) : List String :=
  [toString m.year, toString m.month, toString m.day] ++
    match m.time with
    | none => []
    | some t =>
      let fraction := if t.micro = 0 then [] else [toString t.micro.val]
      let seconds := if t.second = 0 && fraction.isEmpty then [] else [toString t.second.val]
      [toString t.hour.val, toString t.minute.val] ++ seconds ++ fraction ++
        match t.ahead with
        | none => []
        | some minutes => ["tzinfo=" ++ showAhead minutes]

end Moment

/-- A moment as it is shown. -/
def Moment.show (m : Moment) : String :=
  "datetime." ++ m.kind ++ "(" ++ String.intercalate ", " m.shownParts ++ ")"

end PageTree
