import RichText.Text.Numeral

/-!
# Calendar — dates and moments

Days of the Gregorian calendar, and moments of a day with an optional distance from universal time,
written as ISO 8601 does.
-/

namespace RichText

/-- A day of the Gregorian calendar. -/
structure Date where
  year : Nat
  month : Nat
  day : Nat
  deriving DecidableEq, Inhabited

/-- A moment of a day; `offset` is its distance from universal time in seconds, if it names one. -/
structure Moment where
  date : Date
  hour : Nat
  minute : Nat
  second : Nat
  microsecond : Nat
  offset : Option Int
  deriving DecidableEq, Inhabited

namespace Date

def isLeap (year : Nat) : Bool := year % 4 == 0 && (year % 100 != 0 || year % 400 == 0)

def daysInMonth (year month : Nat) : Nat :=
  if month == 2 then (if isLeap year then 29 else 28)
  else if month == 4 || month == 6 || month == 9 || month == 11 then 30
  else 31

/-- A date as `2024-01-02`. -/
def text (d : Date) : Text :=
  Text.padded 4 d.year ++ "-" ++ Text.padded 2 d.month ++ "-" ++ Text.padded 2 d.day

end Date

namespace Moment

/-- The distance from universal time as `+01:30`. -/
def offsetText (seconds : Int) : Text :=
  let n := seconds.natAbs
  (if seconds < 0 then "-" else "+" : Text) ++ Text.padded 2 (n / 3600) ++ ":"
    ++ Text.padded 2 (n / 60 % 60)
    ++ (if n % 60 == 0 then [] else (":" : Text) ++ Text.padded 2 (n % 60))

/-- A moment with `separator` between the day and the time of day. -/
def textWith (separator : Text) (m : Moment) : Text :=
  m.date.text ++ separator ++ Text.padded 2 m.hour ++ ":" ++ Text.padded 2 m.minute ++ ":"
    ++ Text.padded 2 m.second
    ++ (if m.microsecond == 0 then [] else ("." : Text) ++ Text.padded 6 m.microsecond)
    ++ (m.offset.map offsetText).getD []

/-- A moment as `2024-01-02T03:04:05+00:00`. -/
def text (m : Moment) : Text := m.textWith "T"

end Moment

end RichText
