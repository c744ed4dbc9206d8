/-!
# Days and times

A day of the calendar, and a time on a day. The clock of a time may tell how far it is ahead of universal
time; two times whose clocks tell are the same instant when they are the same in universal time.
-/

namespace Switchboard

/-- Why numbers are no day or no time. -/
inductive CalendarFault where
  | year (found : Nat)
  | month
  | day
  | hour
  | minute
  | second
  /-- A clock is a whole day or more away from universal time. -/
  | offset (minutes : Int)
deriving DecidableEq, Repr

/-- A day of the calendar. -/
structure Date where
  year : Nat
  month : Nat
  day : Nat
deriving DecidableEq, Repr

namespace Date

/-- Whether a year has a leap day. -/
def isLeap (year : Nat) : Bool := year % 4 = 0 && (year % 100 ≠ 0 || year % 400 = 0)

/-- The days of the months of a year in order. -/
def monthLengths (year : Nat) : List Nat :=
  [31, if isLeap year then 29 else 28, 31, 30, 31, 30, 31, 31, 30, 31, 30, 31]

/-- The day of a year, a month and a day, each counted from one. -/
def ofParts (year month day : Nat) : Except CalendarFault Date :=
  if year = 0 then .error (.year year)
  else
    match (monthLengths year)[month - 1]? with
    | none => .error .month
    | some length =>
      if month = 0 then .error .month
      else if day = 0 || length < day then .error .day
      else .ok ⟨year, month, day⟩

/-- How many days there are up to this one from the first day of the first year. -/
def ordinal (date : Date) : Nat :=
  let before := date.year - 1
  365 * before + before / 4 - before / 100 + before / 400 +
    ((monthLengths date.year).take (date.month - 1)).foldl Nat.add 0 + date.day

end Date

/-- A day and a time, with or without the clock's offset. -/
structure Moment where
  date : Date
  hour : Nat
  minute : Nat
  second : Nat
  microsecond : Nat
  /-- How many minutes the clock is ahead of universal time, if it tells. -/
  offset : Option Int
deriving DecidableEq, Repr

namespace Moment

/-- The time of a clock on a day. An offset is refused before the numbers are looked at. -/
def ofParts (year month day hour minute second microsecond : Nat) (offset : Option Int) :
    Except CalendarFault Moment := do
  if let some minutes := offset then
    if 24 * 60 ≤ minutes.natAbs then throw (.offset minutes)
  let date ← Date.ofParts year month day
  if 24 ≤ hour then throw .hour
  if 60 ≤ minute then throw .minute
  if 60 ≤ second then throw .second
  return { date, hour, minute, second, microsecond, offset }

/-- The microseconds on the clock from the beginning of the calendar, less the offset. -/
def microseconds (moment : Moment) : Int :=
  let minutes : Int := (moment.date.ordinal * 24 + moment.hour : Nat) * 60 + moment.minute -
    moment.offset.getD 0
  (minutes * 60 + moment.second) * 1000000 + moment.microsecond

end Moment

end Switchboard
