/-!
Moments: days of the calendar and times of day, alone or together. A day together with a time may
say how far its clock is ahead of universal time. What is not in the calendar or on the clock is
refused.
-/

namespace ProseLinter

def paddedNumber (width n : Nat) : String :=
  let digits := Nat.toDigits 10 n
  String.ofList (List.replicate (width - digits.length) '0' ++ digits)

/-- A part of a moment that is out of its range. -/
inductive MomentFault where
  | year (number : Nat)
  | month
  | day
  | hour
  | minute
  | second
  | offset (minutes : Int)
deriving Repr, DecidableEq

structure Date where
  year : Nat
  month : Nat
  day : Nat
deriving Repr, DecidableEq

namespace Date

def daysIn (year month : Nat) : Nat :=
  if month = 2 then if year % 4 = 0 ∧ (year % 100 ≠ 0 ∨ year % 400 = 0) then 29 else 28
  else if month = 4 ∨ month = 6 ∨ month = 9 ∨ month = 11 then 30 else 31

def make (year month day : Nat) : Except MomentFault Date :=
  if year = 0 then .error (.year year)
  else if month = 0 ∨ 12 < month then .error .month
  else if day = 0 ∨ daysIn year month < day then .error .day
  else .ok ⟨year, month, day⟩

def numbers (date : Date) : List Nat := [date.year, date.month, date.day]

def ordinal (date : Date) : Nat :=
  let years := date.year - 1
  let leapDays := years / 4 - years / 100 + years / 400
  let monthsBefore := (List.range (date.month - 1)).map (· + 1)
  monthsBefore.foldl (fun days month => days + daysIn date.year month)
    (365 * years + leapDays + date.day)

def written (date : Date) : String :=
  String.intercalate
    "-" [paddedNumber 4 date.year, paddedNumber 2 date.month, paddedNumber 2 date.day]

end Date

structure Clock where
  hour : Nat
  minute : Nat
  second : Nat
  microsecond : Nat
deriving Repr, DecidableEq

namespace Clock

def make (hour minute second microsecond : Nat) : Except MomentFault Clock :=
  if 23 < hour then .error .hour
  else if 59 < minute then .error .minute
  else if 59 < second then .error .second
  else .ok ⟨hour, minute, second, microsecond⟩

def numbers (clock : Clock) : List Nat :=
  [clock.hour, clock.minute] ++
    (if clock.microsecond ≠ 0 then [clock.second, clock.microsecond]
    else if clock.second ≠ 0 then [clock.second] else [])

def microseconds (clock : Clock) : Nat :=
  ((clock.hour * 60 + clock.minute) * 60 + clock.second) * 1000000 + clock.microsecond

def written (clock : Clock) : String :=
  String.intercalate
    ":" [paddedNumber 2 clock.hour, paddedNumber 2 clock.minute, paddedNumber 2 clock.second] ++
      (if clock.microsecond = 0 then "" else "." ++ paddedNumber 6 clock.microsecond)

end Clock

def offsetOf (minutes : Int) : Except MomentFault Int :=
  if minutes.natAbs < 24 * 60 then .ok minutes else .error (.offset minutes)

def offsetWritten (minutes : Int) : String :=
  (if minutes < 0 then "-" else "+") ++ paddedNumber 2 (minutes.natAbs / 60) ++ ":" ++
    paddedNumber 2 (minutes.natAbs % 60)

/-- A length of time in minutes, as messages show it: whole days downward, and the seconds beyond
them. -/
def durationShown (minutes : Int) : String :=
  let days := Int.fdiv minutes (24 * 60)
  let seconds := Int.fmod minutes (24 * 60) * 60
  let parts := (if days = 0 then [] else ["days=" ++ toString days]) ++
    (if seconds = 0 then [] else ["seconds=" ++ toString seconds])
  "datetime.timedelta(" ++ (if parts.isEmpty then "0" else String.intercalate ", " parts) ++ ")"

inductive Moment where
  | day (date : Date)
  | time (clock : Clock)
  /-- A day and a time; the offset is the distance of the clock from universal time in minutes, if
  it is known. -/
  | both (date : Date) (clock : Clock) (offset : Option Int)
deriving Repr, DecidableEq

namespace Moment

def kindName : Moment → String
  | day _ => "datetime.date"
  | time _ => "datetime.time"
  | both _ _ _ => "datetime.datetime"

def minuteLength : Int := 60000000

/-- The microseconds up to a day and a time on a clock with a distance from universal time, in
universal time. -/
def instant (date : Date) (clock : Clock) (offset : Int) : Int :=
  (date.ordinal * (24 * 60) - offset) * minuteLength + clock.microseconds

/-- Whether two moments are the same: those whose distances from universal time are known, by
universal time. -/
def isSame (a b : Moment) : Bool :=
  match a, b with
  | both date clock (some offset), both date' clock' (some offset') =>
      instant date clock offset == instant date' clock' offset'
  | a, b => decide (a = b)

/-- Whether a moment comes before another; none if they are of different kinds, or if the distance
from universal time is known of one of them only. -/
def isBefore? (a b : Moment) : Option Bool :=
  match a, b with
  | day date, day date' => some (date.ordinal < date'.ordinal)
  | time clock, time clock' => some (clock.microseconds < clock'.microseconds)
  | both date clock none, both date' clock' none =>
      some (instant date clock 0 < instant date' clock' 0)
  | both date clock (some offset), both date' clock' (some offset') =>
      some (instant date clock offset < instant date' clock' offset')
  | _, _ => none

def writtenWith (mark : String) : Moment → String
  | day date => date.written
  | time clock => clock.written
  | both date clock offset =>
      date.written ++ mark ++ clock.written ++ ((offset.map offsetWritten).getD "")

def written (moment : Moment) : String := moment.writtenWith " "

def zoneShown (minutes : Int) : String :=
  if minutes = 0 then "datetime.timezone.utc"
  else "datetime.timezone(" ++ durationShown minutes ++ ")"

/-- The moment as messages show it: its numbers, and its distance from universal time. -/
def shown (moment : Moment) : String :=
  let parts := match moment with
    | day date => date.numbers.map toString
    | time clock => clock.numbers.map toString
    | both date clock offset =>
        (date.numbers ++ clock.numbers).map toString ++
          offset.toList.map fun minutes => "tzinfo=" ++ zoneShown minutes
  moment.kindName ++ "(" ++ String.intercalate ", " parts ++ ")"

end Moment

namespace MomentFault

def message : MomentFault → String
  | year number => "year " ++ toString number ++ " is out of range"
  | month => "month must be in 1..12"
  | day => "day is out of range for month"
  | hour => "hour must be in 0..23"
  | minute => "minute must be in 0..59"
  | second => "second must be in 0..59"
  | offset minutes =>
      "offset must be a timedelta strictly between -timedelta(hours=24) and " ++
        "timedelta(hours=24), not " ++ durationShown minutes ++ "."

end MomentFault

end ProseLinter
