import HttpRouting.Config.Yaml.Kind
import HttpRouting.Decimal.Notation
import HttpRouting.Text.Base64
import HttpRouting.Text.Case
import HttpRouting.Text.Integer
import HttpRouting.Value

/-!
# Scalars as values

How the text of a scalar of a known kind is read.  A scalar that was given its
kind by a tag may have any text, so reading may fail.
-/

namespace HttpRouting.Yaml

/-! ## Errors -/

inductive CalendarFault where
  | year (year : Nat)
  | month
  | day
  | hour
  | minute
  | second
deriving DecidableEq, Repr

def CalendarFault.message : CalendarFault → String
  | year y => "year " ++ toString y ++ " is out of range"
  | month => "month must be in 1..12"
  | day => "day is out of range for month"
  | hour => "hour must be in 0..23"
  | minute => "minute must be in 0..59"
  | second => "second must be in 0..59"

inductive Error where
  | flaw (flaw : Flaw)
  | emptyNumber
  | tooManyDigits (digits : Nat)
  | sixtiesTooLarge
  | notInteger (base : Nat) (text : List Char)
  | notFloat (text : List Char)
  | notBool (text : List Char)
  | notMoment
  | momentInMapping
  | calendar (fault : CalendarFault)
  /-- A zone is a day or more away, given in minutes. -/
  | zoneTooFar (minutes : Int)
deriving DecidableEq, Repr

def Flaw.message : Flaw → String
  | malformed => "the document is not YAML"
  | noCharacter code =>
    if code < 0x80000000 then "chr() arg not in range(0x110000)"
    else "Python int too large to convert to C int"

def shownQuote : Nat := 200

def Error.message : Error → String
  | flaw f => f.message
  | emptyNumber => "string index out of range"
  | tooManyDigits digits => Text.tooManyDigits digits
  | sixtiesTooLarge => "int too large to convert to float"
  | notInteger base text =>
    "invalid literal for int() with base " ++ toString base ++ ": " ++
      .ofList ((Text.quoteChars text).take shownQuote)
  | notFloat text => "could not convert string to float: " ++ .ofList (Text.quoteChars text)
  | notBool text => .ofList (Text.quoteChars text)
  | notMoment => "'NoneType' object has no attribute 'groupdict'"
  | momentInMapping => "a moment must be a scalar"
  | calendar fault => fault.message
  | zoneTooFar minutes =>
    "offset must be a timedelta strictly between -timedelta(hours=24) and timedelta(hours=24), not " ++
      Moment.timeSpan minutes ++ "."

def Error.malformed : Error := .flaw .malformed

namespace Literal

/-! ## Words and numbers -/

def bools : List (String × Bool) :=
  [("yes", true), ("no", false), ("true", true), ("false", false), ("on", true), ("off", false)]

def bool (text : List Char) : Except Error Bool :=
  let lowered := Text.lowerChars text
  match bools.lookup (.ofList lowered) with
  | some b => .ok b
  | none => .error (.notBool lowered)

def signAndRest (text : List Char) : Except Error (Bool × List Char) :=
  match text.filter (· != '_') with
  | [] => .error .emptyNumber
  | '-' :: rest => .ok (true, rest)
  | '+' :: rest => .ok (false, rest)
  | rest => .ok (false, rest)

def inBase (base : Nat) (text : List Char) : Except Error Int :=
  match Text.readInteger base text with
  | .ok n => .ok n
  | .error (.tooLong digits) => .error (.tooManyDigits digits)
  | .error .malformed => .error (.notInteger base text)

def colonParts (text : List Char) : List (List Char) :=
  text.splitOn ':'

def natural (text : List Char) : Except Error Int :=
  match text with
  | [] => .error .emptyNumber
  | ['0'] => .ok 0
  | '0' :: 'b' :: digits => inBase 2 digits
  | '0' :: 'x' :: digits => inBase 16 digits
  | '0' :: _ => inBase 8 text
  | _ => return (← (colonParts text).mapM (inBase 10)).foldl (fun n d => 60 * n + d) 0

def int (text : List Char) : Except Error Int := do
  let (negative, rest) ← signAndRest text
  let n ← natural rest
  return if negative then -n else n

def decimal (text : List Char) : Except Error Float :=
  match Decimal.readFloat? (Text.numeralChars text) with
  | some x => .ok x
  | none => .error (.notFloat text)

def sumSixties : List Float → Nat → Float → Except Error Float
  | [], _, sum => .ok sum
  | part :: rest, worth, sum =>
    let w := Float.ofNat worth
    if w.isInf then .error .sixtiesTooLarge
    else sumSixties rest (60 * worth) (sum + part * w)

def magnitude (text : List Char) : Except Error Float :=
  if text == ".inf".toList then .ok (1.0 / 0.0)
  else if text == ".nan".toList then .ok (0.0 / 0.0)
  else if text.contains ':' then do
    sumSixties (← (colonParts text).mapM decimal).reverse 1 0
  else decimal text

def float (text : List Char) : Except Error Float := do
  let (negative, rest) ← signAndRest (Text.lowerChars text)
  let x ← magnitude rest
  return if negative then -x else x

/-! ## Dates and times -/

def momentPattern : String :=
  "(?P<year>[0-9][0-9][0-9][0-9])-(?P<month>[0-9][0-9]?)-(?P<day>[0-9][0-9]?)" ++
    "(?:(?:[Tt]|[ \\t]+)(?P<hour>[0-9][0-9]?):(?P<minute>[0-9][0-9]):(?P<second>[0-9][0-9])" ++
    "(?:\\.(?P<fraction>[0-9]*))?" ++
    "(?:[ \\t]*(?P<zone>Z|(?P<sign>[-+])(?P<hours>[0-9][0-9]?)(?::(?P<part>[0-9][0-9]))?))?)?"

def calendarFault? (year month day hour minute second : Nat) : Option CalendarFault :=
  if year == 0 then some (.year year)
  else if month == 0 || 12 < month then some .month
  else if day == 0 || Moment.daysInMonth year month < day then some .day
  else if 23 < hour then some .hour
  else if 59 < minute then some .minute
  else if 59 < second then some .second
  else none

def momentParts? (text : List Char) : Option (List (String × List Char)) :=
  match Regex.Expression.read momentPattern.toList with
  | .ok e => ((e.fullMatch (Kind.withoutFinalBreak text)).toOption.join).map e.captures
  | .error _ => none

/-- The first six digits behind the point, as if there were six at least. -/
def micros (fraction : List Char) : Nat :=
  Decimal.digitsValue ((fraction ++ List.replicate 6 '0').take 6)

def moment (text : List Char) : Except Error Value :=
  match momentParts? text with
  | none => .error .notMoment
  | some parts =>
    let number (name : String) : Nat := ((parts.lookup name).map Decimal.digitsValue).getD 0
    let ahead := 60 * number "hours" + number "part"
    let zone : Int := if parts.lookup "sign" == some ['-'] then -Int.ofNat ahead else ahead
    if 1440 ≤ ahead then .error (.zoneTooFar zone)
    else match calendarFault? (number "year") (number "month") (number "day") (number "hour")
        (number "minute") (number "second") with
    | some fault => .error (.calendar fault)
    | none =>
      let clock : Clock :=
        { hour := number "hour"
          minute := number "minute"
          second := number "second"
          micros := micros ((parts.lookup "fraction").getD [])
          zone := (parts.lookup "zone").map fun _ => zone }
      .ok (.moment
        { year := number "year"
          month := number "month"
          day := number "day"
          clock := (parts.lookup "hour").map fun _ => clock })

/-! ## Bytes -/

def binary (text : List Char) : Except Error Value :=
  if text.any fun c => 0x80 ≤ c.toNat then .error .malformed
  else match Text.Base64.decode? text with
    | some content => .ok (.bytes content)
    | none => .error .malformed

end Literal

end HttpRouting.Yaml
