import PageTree.Text.Digit
import PageTree.Value.Moment

/-!
# Timestamps

A plain scalar of a YAML text can be a timestamp: a date, or a date with a time after it, which may
say how far its clock is ahead of universal time.  `Yaml.timestamp?` reads the form of one, and the
moment that it stands for, if there is one.
-/

namespace PageTree.Yaml

/-- The number that decimal digits denote. -/
def digitsValue (cs : List Char) : Nat :=
  Text.ofDigits 10 (cs.filterMap Text.hexValue?)

/-- Reads a number of at least `least` and at most `most` digits. -/
def readDigits? (least most : Nat) (cs : List Char) : Option (Nat × List Char) :=
  let digits := (cs.take most).takeWhile Char.isDigit
  if digits.length < least then none else some (digitsValue digits, cs.drop digits.length)

/-- Goes past a character. -/
def past? (c : Char) : List Char → Option (List Char)
  | [] => none
  | d :: ds => if c = d then some ds else none

/-- Goes past what stands between a date and a time. -/
def pastGap? : List Char → Option (List Char)
  | [] => none
  | c :: cs =>
    if c = 'T' || c = 't' then some cs
    else if c = ' ' || c = '\t' then some (cs.dropWhile fun c => c == ' ' || c == '\t')
    else none

/-- Reads a fraction of a second in microseconds, if there is one. -/
def readMicros (cs : List Char) : Nat × List Char :=
  match cs with
  | '.' :: rest =>
    let digits := rest.takeWhile Char.isDigit
    (digitsValue ((digits ++ List.replicate 6 '0').take 6), rest.dropWhile Char.isDigit)
  | _ => (0, cs)

/-- Reads how far a clock is ahead, in minutes: nothing, a `Z`, or a sign with hours and minutes. -/
def readAhead? (cs : List Char) : Option (Option Int) :=
  match cs.dropWhile fun c => c == ' ' || c == '\t' with
  | [] => if cs.isEmpty then some none else none
  | ['Z'] => some (some 0)
  | sign :: rest =>
    if sign = '+' || sign = '-' then do
      let (hours, rest) ← readDigits? 1 2 rest
      let minutes ← match rest with
        | [] => some 0
        | rest => do
          let (minutes, rest) ← readDigits? 2 2 (← past? ':' rest)
          if rest.isEmpty then some minutes else none
      let ahead : Int := hours * 60 + minutes
      some (some (if sign = '-' then -ahead else ahead))
    else none

/-- Reads the time after a date; the inner result is missing if no clock shows it. -/
def readClock? (cs : List Char) : Option (Option ClockTime) := do
  let (hour, cs) ← readDigits? 1 2 (← pastGap? cs)
  let (minute, cs) ← readDigits? 2 2 (← past? ':' cs)
  let (second, cs) ← readDigits? 2 2 (← past? ':' cs)
  let (micro, cs) := readMicros cs
  let ahead ← readAhead? cs
  some (ClockTime.of? hour minute second micro ahead)

/-- Reads a timestamp; the inner result is missing if there is no such moment.  In a date without a
time the month and the day have two digits. -/
def timestamp? (cs : List Char) : Option (Option Moment) := do
  let (year, rest) ← readDigits? 4 4 cs
  let (month, rest) ← readDigits? 1 2 (← past? '-' rest)
  let (day, rest) ← readDigits? 1 2 (← past? '-' rest)
  if rest.isEmpty then
    if cs.length = 10 then some (Moment.of? year month day none) else none
  else
    let time ← readClock? rest
    some (time.bind fun t => Moment.of? year month day (some t))

end PageTree.Yaml
