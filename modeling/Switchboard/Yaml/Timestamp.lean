import Switchboard.Value
import Switchboard.Yaml.Character

/-!
# Days and times in YAML

A text is a day when it writes a year, a month and a day, and a time when a time of day follows, behind the
letter T or blanks. A time may have a fraction of a second, of which six digits count, and may tell how far
its clock is ahead. A plain text is a day only if it writes the month and the day with both their digits.
-/

namespace Switchboard.Yaml

/-- The number that `least` to `most` digits at the front of a list write, how many they are, and what follows
them. -/
def readDigits? (least most : Nat) (characters : List Char) : Option (Nat × Nat × List Char) :=
  let digits := (characters.take most).takeWhile Numeral.isPlainDigit
  if digits.length < least then none
  else some (Numeral.valueOf 10 digits, digits.length, characters.drop digits.length)

/-- What follows a character at the front of a list. -/
def after? (c : Char) : List Char → Option (List Char)
  | other :: rest => if other = c then some rest else none
  | [] => none

/-- What follows the separator of a day and a time. -/
def afterSeparator? : List Char → Option (List Char)
  | c :: rest =>
    if c = 'T' || c = 't' then some rest
    else if isSpaceOrTab c then some (rest.dropWhile isSpaceOrTab)
    else none
  | [] => none

/-- The microseconds that a fraction writes, if there is one, and what follows it. -/
def readFraction : List Char → Nat × List Char
  | '.' :: rest =>
    let digits := rest.takeWhile Numeral.isPlainDigit
    let six := (digits ++ List.replicate 6 '0').take 6
    (Numeral.valueOf 10 six, rest.drop digits.length)
  | rest => (0, rest)

/-- The minutes that a clock is ahead, at the end of a time; nothing if the clock does not tell. -/
def readOffset? (characters : List Char) : Option (Option Int) := do
  if characters.isEmpty then return none
  match characters.dropWhile isSpaceOrTab with
  | ['Z'] => return some 0
  | sign :: rest =>
    if sign ≠ '+' && sign ≠ '-' then failure
    let (hours, _, afterHours) ← readDigits? 1 2 rest
    let minutes ←
      if afterHours.isEmpty then pure 0
      else do
        let (minutes, _, ending) ← readDigits? 2 2 (← after? ':' afterHours)
        if ending.isEmpty then pure minutes else failure
    let ahead : Int := (hours * 60 + minutes : Nat)
    return some (if sign = '-' then -ahead else ahead)
  | [] => failure

/-- A text without a line feed at its end. -/
def withoutLastFeed (characters : List Char) : List Char :=
  if characters.getLast? = some '\n' then characters.dropLast else characters

/-- The day or the time that a text writes; none if it has another form. -/
def readTimestamp? (plain : Bool) (characters : List Char) : Option (Except CalendarFault Scalar) := do
  let (year, _, afterYear) ← readDigits? 4 4 characters
  let (month, monthWidth, afterMonth) ← readDigits? 1 2 (← after? '-' afterYear)
  let (day, dayWidth, afterDay) ← readDigits? 1 2 (← after? '-' afterMonth)
  if afterDay.isEmpty then
    if plain && (monthWidth < 2 || dayWidth < 2) then failure
    return (Date.ofParts year month day).map .date
  else
    let (hour, _, afterHour) ← readDigits? 1 2 (← afterSeparator? afterDay)
    let (minute, _, afterMinute) ← readDigits? 2 2 (← after? ':' afterHour)
    let (second, _, afterSecond) ← readDigits? 2 2 (← after? ':' afterMinute)
    let (microsecond, ending) := readFraction afterSecond
    let offset ← readOffset? ending
    return (Moment.ofParts year month day hour minute second microsecond offset).map .moment

end Switchboard.Yaml
