import Candidacy.Text.Digits

/-!
# Dates and times

A `Moment` is a calendar date, alone or with a time of day that may name its distance from universal
time. Two times with such a distance are the same moment when they are the same instant.
-/

namespace Candidacy

/-- A time of day, with its distance in seconds from universal time if it is known. -/
structure TimeOfDay where
  hour : Nat
  minute : Nat
  second : Nat
  micro : Nat
  offset : Option Int
  deriving DecidableEq, Repr

/-- A date, alone or with a time of day. -/
structure Moment where
  year : Nat
  month : Nat
  day : Nat
  time : Option TimeOfDay
  deriving DecidableEq, Repr

namespace Moment

def isLeap (year : Nat) : Bool := year % 4 == 0 && (year % 100 != 0 || year % 400 == 0)

def daysIn (year month : Nat) : Nat :=
  if month = 2 then (if isLeap year then 29 else 28)
  else if month = 4 ∨ month = 6 ∨ month = 9 ∨ month = 11 then 30
  else 31

/-- The days before a date, counted from the first year on. -/
def dayNumber (m : Moment) : Int :=
  let y := m.year - 1
  let before := (List.range (m.month - 1)).foldl (fun days i => days + daysIn m.year (i + 1)) 0
  365 * y + y / 4 - y / 100 + y / 400 + before + m.day

/-- The microseconds before an instant given in universal time. -/
def instant (m : Moment) (t : TimeOfDay) (offset : Int) : Int :=
  (m.dayNumber * 86400 + t.hour * 3600 + t.minute * 60 + t.second - offset) * 1000000 + t.micro

/-- Whether two moments are equal: dates by the calendar, times with a known distance by instant. -/
def same (a b : Moment) : Bool :=
  match a.time, b.time with
  | some s, some t =>
    match s.offset, t.offset with
    | some x, some y => a.instant s x == b.instant t y
    | _, _ => a == b
  | _, _ => a == b

/-- A span of time as days and seconds, whole days rounded down. -/
def spanText (seconds : Int) : String :=
  let days := Int.fdiv seconds 86400
  let rest := Int.fmod seconds 86400
  let parts := (if days = 0 then [] else ["days=" ++ toString days]) ++
    (if rest = 0 then [] else ["seconds=" ++ toString rest])
  "datetime.timedelta(" ++ (if parts = [] then "0" else ", ".intercalate parts) ++ ")"

def offsetText (seconds : Int) : String :=
  if seconds = 0 then "datetime.timezone.utc"
  else "datetime.timezone(" ++ spanText seconds ++ ")"

def shown (m : Moment) : String :=
  let date := [m.year, m.month, m.day]
  match m.time with
  | none => "datetime.date(" ++ ", ".intercalate (date.map toString) ++ ")"
  | some t =>
    let small :=
      if t.micro ≠ 0 then [t.second, t.micro] else if t.second ≠ 0 then [t.second] else []
    let numbers := (date ++ [t.hour, t.minute] ++ small).map toString
    let zone := match t.offset with
      | none => []
      | some x => ["tzinfo=" ++ offsetText x]
    "datetime.datetime(" ++ ", ".intercalate (numbers ++ zone) ++ ")"

end Moment

end Candidacy
