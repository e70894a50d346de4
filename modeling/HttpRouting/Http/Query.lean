import HttpRouting.Pairs
import HttpRouting.Text.Utf8

/-!
# Query strings

A query string is a list of fields separated by ampersands; empty fields are
skipped and a field without an equals sign has an empty value.  A plus sign
stands for a space, and a percent sign with two hexadecimal digits for a byte
of UTF-8; anything else after a percent sign leaves it as it is.
-/

namespace HttpRouting.Http

/-! ## Percent decoding -/

def hexDigitValue? (c : Char) : Option Nat :=
  if '0' ≤ c && c ≤ '9' then some (c.toNat - '0'.toNat)
  else if 'a' ≤ c && c ≤ 'f' then some (c.toNat - 'a'.toNat + 10)
  else if 'A' ≤ c && c ≤ 'F' then some (c.toNat - 'A'.toNat + 10)
  else none

def hexPair? (high low : Char) : Option UInt8 :=
  (hexDigitValue? high).bind fun h => (hexDigitValue? low).map fun l => UInt8.ofNat (16 * h + l)

def percentBytes : List Char → List UInt8
  | [] => []
  | '%' :: high :: low :: rest =>
    match hexPair? high low with
    | some b => b :: percentBytes rest
    | none => UInt8.ofNat '%'.toNat :: percentBytes (high :: low :: rest)
  | c :: rest => UInt8.ofNat c.toNat :: percentBytes rest

/-- Decodes text whose ASCII parts are given back to front in `run`. -/
def percentDecodeAfter (run : List Char) : List Char → List Char
  | [] => Text.decodeUtf8Lossy (percentBytes run.reverse)
  | c :: rest =>
    if c.toNat < 0x80 then percentDecodeAfter (c :: run) rest
    else Text.decodeUtf8Lossy (percentBytes run.reverse) ++ c :: percentDecodeAfter [] rest

/-- Each stretch of ASCII characters is decoded on its own; other characters stay. -/
def percentDecode (s : List Char) : List Char := percentDecodeAfter [] s

/-! ## Fields -/

def splitOn (separator : Char) : List Char → List (List Char)
  | [] => [[]]
  | c :: rest =>
    if c = separator then [] :: splitOn separator rest
    else match splitOn separator rest with
      | [] => [[c]]
      | part :: parts => (c :: part) :: parts

def splitFirst (separator : Char) : List Char → List Char × Option (List Char)
  | [] => ([], none)
  | c :: rest =>
    if c = separator then ([], some rest)
    else ((c :: (splitFirst separator rest).1), (splitFirst separator rest).2)

def decodeField (s : List Char) : String :=
  .ofList (percentDecode (s.map fun c => if c == '+' then ' ' else c))

def readField (field : List Char) : String × String :=
  let (name, value) := splitFirst '=' field
  (decodeField name, decodeField (value.getD []))

def readFields (s : List Char) : List (String × String) :=
  ((splitOn '&' s).filter fun field => !field.isEmpty).map readField

/-- The fields by name; of several with one name the last counts. -/
def parseQuery (s : String) : Pairs String := .ofList (readFields s.toList)

def splitQuery (target : String) : String × Pairs String :=
  match splitFirst '?' target.toList with
  | (_, none) => (target, ∅)
  | (path, some query) => (.ofList path, .ofList (readFields query))

end HttpRouting.Http
