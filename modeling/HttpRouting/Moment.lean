/-!
# Dates and times

A moment is a day of the calendar, perhaps with a time of the day, which may be
that of a zone.  Its plain text has the parts in order of size; its quoted form
is the call that makes it.  Two times with zones are the same if they are the
same instant, and a time with a zone is never the same as one without.
-/

namespace HttpRouting

/-- A time of the day; a zone counts the minutes by which its clocks are ahead. -/
structure Clock where
  hour : Nat
  minute : Nat
  second : Nat
  micros : Nat
  zone : Option Int
deriving DecidableEq, Repr

structure Moment where
  year : Nat
  month : Nat
  day : Nat
  clock : Option Clock
deriving DecidableEq, Repr

namespace Moment

/-! ## The calendar -/

def isLeapYear (year : Nat) : Bool := year % 4 == 0 && year % 100 != 0 || year % 400 == 0

def daysInMonth (year month : Nat) : Nat :=
  if month == 2 then (if isLeapYear year then 29 else 28)
  else if [4, 6, 9, 11].contains month then 30
  else 31

def daysBefore (m : Moment) : Nat :=
  let years := m.year - 1
  let inMonths := (List.range (m.month - 1)).foldl
    (fun days month => days + daysInMonth m.year (month + 1)) 0
  365 * years + years / 4 - years / 100 + years / 400 + inMonths + m.day - 1

/-- The minute of a time in a zone, counted from the first day, and what is left of it. -/
def instant (m : Moment) (c : Clock) (zone : Int) : Int × Nat × Nat :=
  (Int.ofNat (1440 * m.daysBefore + 60 * c.hour + c.minute) - zone, c.second, c.micros)

def same (m n : Moment) : Bool :=
  match m.clock, n.clock with
  | some c, some d =>
    match c.zone, d.zone with
    | some zone, some other => m.instant c zone == n.instant d other
    | _, _ => m == n
  | _, _ => m == n

/-! ## Text -/

def padded (width n : Nat) : String :=
  let digits := Nat.toDigits 10 n
  .ofList (List.replicate (width - digits.length) '0' ++ digits)

def zoneText (zone : Int) : String :=
  (if zone < 0 then "-" else "+") ++ padded 2 (zone.natAbs / 60) ++ ":" ++ padded 2 (zone.natAbs % 60)

def clockText (c : Clock) : String :=
  padded 2 c.hour ++ ":" ++ padded 2 c.minute ++ ":" ++ padded 2 c.second ++
    (if c.micros == 0 then "" else "." ++ padded 6 c.micros) ++ (c.zone.map zoneText).getD ""

def plain (m : Moment) : String :=
  padded 4 m.year ++ "-" ++ padded 2 m.month ++ "-" ++ padded 2 m.day ++
    (m.clock.map fun c => " " ++ clockText c).getD ""

def timeSpan (minutes : Int) : String :=
  let part (name : String) (n : Int) : List String :=
    if n == 0 then [] else [name ++ "=" ++ toString n]
  let days := part "days" (Int.fdiv minutes 1440)
  let seconds := part "seconds" (60 * Int.fmod minutes 1440)
  "datetime.timedelta(" ++ ", ".intercalate (days ++ seconds) ++ ")"

def quotedZone (zone : Int) : String :=
  if zone == 0 then "datetime.timezone.utc" else "datetime.timezone(" ++ timeSpan zone ++ ")"

/-- The arguments behind hour and minute end with the last that is not zero. -/
def quotedClock (c : Clock) : List String :=
  let rest :=
    if c.micros != 0 then [c.second, c.micros] else if c.second != 0 then [c.second] else []
  ([c.hour, c.minute] ++ rest).map toString ++
    (c.zone.map fun zone => "tzinfo=" ++ quotedZone zone).toList

def kindName (m : Moment) : String :=
  if m.clock.isSome then "datetime.datetime" else "datetime.date"

def quoted (m : Moment) : String :=
  let arguments := [m.year, m.month, m.day].map toString ++ (m.clock.map quotedClock).getD []
  m.kindName ++ "(" ++ ", ".intercalate arguments ++ ")"

end Moment

end HttpRouting
