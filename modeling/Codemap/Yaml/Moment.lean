import Codemap.Number.Shortest
import Codemap.Yaml.Resolution
import Codemap.Yaml.Fault

namespace Codemap
namespace Yaml

/-!
# Dates and points in time

A moment is a date, possibly with a time of day, which in turn may have an offset
from universal time.  The shape of a text decides that it is meant as a moment;
whether the numbers in it make one is checked here, number by number from the
year on.
-/

/-- A time of day with microseconds, and the offset from universal time in seconds. -/
structure Clock where
  hour : Nat
  minute : Nat
  second : Nat
  microsecond : Nat
  offset : Option Int
deriving DecidableEq, Repr, Inhabited

/-- A date or a point in time. -/
structure Moment where
  year : Nat
  month : Nat
  day : Nat
  clock : Option Clock := none
deriving DecidableEq, Repr, Inhabited

namespace Moment

/-- A year has a leap day. -/
def isLeap (year : Nat) : Bool :=
  year % 4 == 0 && (year % 100 != 0 || year % 400 == 0)

/-- The number of days of a month. -/
def daysIn (year month : Nat) : Nat :=
  if month = 2 then (if isLeap year then 29 else 28)
  else if month = 4 ∨ month = 6 ∨ month = 9 ∨ month = 11 then 30
  else 31

/-- The days before a date since the beginning of the calendar. -/
def dayNumber (moment : Moment) : Nat :=
  let before := moment.year - 1
  let months := (List.range (moment.month - 1)).foldl
    (fun sum month => sum + daysIn moment.year (month + 1)) 0
  before * 365 + before / 4 - before / 100 + before / 400 + months + moment.day

/-- The microseconds of universal time since the beginning of the calendar. -/
def instant (moment : Moment) (clock : Clock) : Int :=
  let seconds : Int := ((moment.dayNumber * 24 + clock.hour) * 60 + clock.minute) * 60 +
    clock.second
  (seconds - clock.offset.getD 0) * 1000000 + clock.microsecond

/-- Two moments are equal: the same date, the same time of day without an offset, or
the same instant with offsets. -/
def same (a b : Moment) : Bool :=
  match a.clock, b.clock with
  | none, none => a == b
  | some first, some second =>
      first.offset.isSome == second.offset.isSome && a.instant first == b.instant second
  | _, _ => false

/-- A moment whose numbers are in range. -/
def checked (moment : Moment) : Except ScalarFault Moment := do
  if moment.year = 0 then throw (.yearOutOfRange moment.year)
  if moment.month = 0 ∨ 12 < moment.month then throw .monthOutOfRange
  if moment.day = 0 ∨ daysIn moment.year moment.month < moment.day then throw .dayOutOfRange
  match moment.clock with
  | none => return moment
  | some clock =>
      if 24 ≤ clock.hour then throw .hourOutOfRange
      if 60 ≤ clock.minute then throw .minuteOutOfRange
      if 60 ≤ clock.second then throw .secondOutOfRange
      return moment

/-- A number of seconds as an offset: sign, hours and minutes. -/
def offsetText (offset : Int) : Text :=
  let minutes := offset.natAbs / 60
  (if offset < 0 then '-' else '+') :: Binary64.padded 2 (minutes / 60) ++
    ':' :: Binary64.padded 2 (minutes % 60)

/-- The text of a moment, with a separator between date and time. -/
def text (separator : Char) (moment : Moment) : Text :=
  let date := Binary64.padded 4 moment.year ++ '-' :: Binary64.padded 2 moment.month ++
    '-' :: Binary64.padded 2 moment.day
  match moment.clock with
  | none => date
  | some clock =>
      let time := Binary64.padded 2 clock.hour ++ ':' :: Binary64.padded 2 clock.minute ++
        ':' :: Binary64.padded 2 clock.second
      let fraction :=
        if clock.microsecond = 0 then [] else '.' :: Binary64.padded 6 clock.microsecond
      date ++ separator :: time ++ fraction ++
        match clock.offset with
        | some offset => offsetText offset
        | none => []

/-! ## Reading -/

open Pattern Pattern.Node

/-- The parts of a moment, numbered as groups. -/
def parts : Node :=
  seq
    [.group 1 (digits 4), .char '-', .group 2 oneOrTwoDigits, .char '-', .group 3 oneOrTwoDigits,
      opt (seq
        [.alt (among "Tt") (atLeastOne timeBlank), .group 4 oneOrTwoDigits, .char ':',
          .group 5 (digits 2), .char ':', .group 6 (digits 2),
          opt (.cat (.char '.') (.group 7 (many digit))),
          opt (.cat (many timeBlank)
            (.group 8 (.alt (.char 'Z')
              (seq [.group 9 (among "-+"), .group 10 oneOrTwoDigits,
                opt (.cat (.char ':') (.group 11 (digits 2)))]))))]),
      scalarEnd]

/-- Read a moment. -/
def ofText (text : Text) : Except ScalarFault Moment :=
  match parts.matchStart? text with
  | none => .error .notATimestamp
  | some found =>
      let number (group : Nat) : Nat :=
        ((found.group? group).map Binary64.digitsValue).getD 0
      let date : Moment := { year := number 1, month := number 2, day := number 3 }
      match found.group? 4 with
      | none => date.checked
      | some _ =>
          let places := ((found.group? 7).getD []).take 6
          let microsecond := Binary64.digitsValue (places ++ List.replicate (6 - places.length) '0')
          let clock (offset : Option Int) : Clock :=
            { hour := number 4, minute := number 5, second := number 6, microsecond, offset }
          match found.group? 9, found.group? 8 with
          | some sign, _ =>
              let seconds : Int := (number 10 * 60 + number 11) * 60
              if 86400 ≤ seconds then .error .offsetOutOfRange
              else
                checked { date with
                  clock := some (clock (some (if sign = ['-'] then -seconds else seconds))) }
          | none, some _ => checked { date with clock := some (clock (some 0)) }
          | none, none => checked { date with clock := some (clock none) }

end Moment
end Yaml
end Codemap
