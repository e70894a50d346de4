import HttpRouting.Text.Blank
import HttpRouting.Text.Digit

/-!
# Reading integers

An integer is written in digits of any script, with an optional sign, single
low lines between digits, and blanks around it.  In the bases two, eight and
sixteen the digits may follow a mark such as `0x`.
-/

namespace HttpRouting.Text

/-! ## Numerals -/

/-- A character as it counts in a numeral: digits are ASCII digits and blanks beyond ASCII are spaces. -/
def numeralChar (c : Char) : Char :=
  if c.toNat < 0x80 then c
  else match digitValue? c with
    | some d => Nat.digitChar d
    | none => if isBlank c then ' ' else c

def isNumeralBlank (c : Char) : Bool := c == ' ' || 0x9 ≤ c.toNat && c.toNat ≤ 0xd

def numeralChars (s : List Char) : List Char :=
  (((s.map numeralChar).dropWhile isNumeralBlank).reverse.dropWhile isNumeralBlank).reverse

/-! ## Integers -/

inductive IntegerError where
  | malformed
  | tooLong (digits : Nat)
deriving DecidableEq, Repr

/-- How many digits are read in a base that is no power of two. -/
def maxDigits : Nat := 4300

def tooManyDigits (digits : Nat) : String :=
  "Exceeds the limit (" ++ toString maxDigits ++ " digits) for integer string conversion: value has " ++
    toString digits ++ " digits; use sys.set_int_max_str_digits() to increase the limit"

def digitIn? (base : Nat) (c : Char) : Option Nat :=
  let value := if c.isDigit then c.toNat - '0'.toNat
    else if c.isAlpha then c.toLower.toNat - 'a'.toNat + 10
    else base
  if value < base then some value else none

/-- Whether every low line stands between two digits; `afterDigit` when a digit came before. -/
def separatesDigits (afterDigit : Bool) : List Char → Bool
  | [] => afterDigit
  | '_' :: rest => afterDigit && separatesDigits false rest
  | _ :: rest => separatesDigits true rest

def baseLetter? (base : Nat) : Option Char :=
  if base == 2 then some 'b' else if base == 8 then some 'o' else if base == 16 then some 'x' else none

def dropBaseMark (base : Nat) (s : List Char) : List Char :=
  match s with
  | '0' :: letter :: rest =>
    if baseLetter? base == some letter.toLower then
      match rest with
      | '_' :: digits => digits
      | digits => digits
    else s
  | _ => s

/-- Too many digits are noticed before what follows them. -/
def readNatural (base : Nat) (s : List Char) : Except IntegerError Nat :=
  let written := s.takeWhile fun c => c == '_' || (digitIn? base c).isSome
  let digits := written.filterMap (digitIn? base)
  if !separatesDigits false written then .error .malformed
  else if (baseLetter? base).isNone && maxDigits < digits.length then .error (.tooLong digits.length)
  else if written.length < s.length then .error .malformed
  else .ok (digits.foldl (base * · + ·) 0)

def readSigned (base : Nat) : List Char → Except IntegerError Int
  | '+' :: rest => (readNatural base (dropBaseMark base rest)).map Int.ofNat
  | '-' :: rest => (readNatural base (dropBaseMark base rest)).map fun n => -Int.ofNat n
  | rest => (readNatural base (dropBaseMark base rest)).map Int.ofNat

def readInteger (base : Nat) (s : List Char) : Except IntegerError Int :=
  readSigned base (numeralChars s)

end HttpRouting.Text
