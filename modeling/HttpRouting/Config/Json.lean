import HttpRouting.Decimal.Notation
import HttpRouting.Pairs
import HttpRouting.Regex.Escape
import HttpRouting.Text.Integer
import HttpRouting.Value

/-!
# JSON documents

A document is one value with blanks around it.  Besides the standard's values
the names `NaN`, `Infinity` and `-Infinity` are numbers.  Of several members
with one name the last counts, at the place of the first.  Each reader returns what
it has read with the text after it, or nothing or an error when the text is malformed.
-/

namespace HttpRouting.Json

inductive Error where
  | malformed
  | tooManyDigits (digits : Nat)
  | tooDeep (what : String)
deriving DecidableEq, Repr

def Error.message : Error → String
  | malformed => "the document is not JSON"
  | tooManyDigits digits => Text.tooManyDigits digits
  | tooDeep what =>
    "maximum recursion depth exceeded while decoding a JSON " ++ what ++ " from a unicode string"

def greatestDepth : Nat := 985

def isBlank (c : Char) : Bool := c == ' ' || c == '\t' || c == '\n' || c == '\r'

def skipBlanks (s : List Char) : List Char := s.dropWhile isBlank

/-! ## Strings -/

def codeUnit? : List Char → Option (Nat × List Char)
  | a :: b :: c :: d :: rest =>
    if [a, b, c, d].all Regex.isHex then some (Regex.numeral 16 [a, b, c, d], rest) else none
  | _ => none

def isHighSurrogate (unit : Nat) : Bool := 0xd800 ≤ unit && unit < 0xdc00

def isLowSurrogate (unit : Nat) : Bool := 0xdc00 ≤ unit && unit < 0xe000

/-- The character of a code unit, which a second one may complete; a lone surrogate is replaced. -/
def unitChar (unit : Nat) (rest : List Char) : Char × List Char :=
  let alone := (if 0xd800 ≤ unit && unit < 0xe000 then '\ufffd' else Char.ofNat unit, rest)
  if !isHighSurrogate unit then alone
  else match rest with
    | '\\' :: 'u' :: digits =>
      match codeUnit? digits with
      | some (low, after) =>
        if isLowSurrogate low then
          (Char.ofNat (0x10000 + (unit - 0xd800) * 0x400 + (low - 0xdc00)), after)
        else alone
      | none => alone
    | _ => alone

def simpleEscape? : Char → Option Char
  | '"' => some '"'
  | '\\' => some '\\'
  | '/' => some '/'
  | 'b' => some '\x08'
  | 'f' => some '\x0c'
  | 'n' => some '\n'
  | 'r' => some '\r'
  | 't' => some '\t'
  | _ => none

def stringRest? : Nat → List Char → Option (List Char × List Char)
  | 0, _ => none
  | _ + 1, [] => none
  | _ + 1, '"' :: rest => some ([], rest)
  | fuel + 1, '\\' :: 'u' :: rest => do
    let (unit, rest) ← codeUnit? rest
    let (c, rest) := unitChar unit rest
    let (text, rest) ← stringRest? fuel rest
    return (c :: text, rest)
  | fuel + 1, '\\' :: c :: rest => do
    let c ← simpleEscape? c
    let (text, rest) ← stringRest? fuel rest
    return (c :: text, rest)
  | fuel + 1, c :: rest => do
    if c.toNat < 0x20 then none
    let (text, rest) ← stringRest? fuel rest
    return (c :: text, rest)

def string? : List Char → Option (List Char × List Char)
  | '"' :: rest => stringRest? (rest.length + 1) rest
  | _ => none

/-! ## Numbers -/

def wholeDigits? : List Char → Option (List Char × List Char)
  | '0' :: rest => some (['0'], rest)
  | s =>
    let digits := s.takeWhile Char.isDigit
    if digits.isEmpty then none else some (digits, s.dropWhile Char.isDigit)

def fractionPart (s : List Char) : List Char × List Char :=
  match s with
  | '.' :: rest =>
    let digits := rest.takeWhile Char.isDigit
    if digits.isEmpty then ([], s) else ('.' :: digits, rest.dropWhile Char.isDigit)
  | _ => ([], s)

def exponentPart (s : List Char) : List Char × List Char :=
  match s with
  | mark :: rest =>
    if mark != 'e' && mark != 'E' then ([], s)
    else
      let (sign, digitsOn) := match rest with
        | '+' :: after => (['+'], after)
        | '-' :: after => (['-'], after)
        | _ => ([], rest)
      let digits := digitsOn.takeWhile Char.isDigit
      if digits.isEmpty then ([], s)
      else ('e' :: sign ++ digits, digitsOn.dropWhile Char.isDigit)
  | [] => ([], s)

def unsigned (negative : Bool) (s : List Char) : Except Error (Value × List Char) := do
  let some (whole, rest) := wholeDigits? s | throw .malformed
  let (fraction, rest) := fractionPart rest
  let (exponent, rest) := exponentPart rest
  if fraction.isEmpty && exponent.isEmpty then
    if Text.maxDigits < whole.length then throw (.tooManyDigits whole.length)
    let n := Int.ofNat (Decimal.digitsValue whole)
    return (.int (if negative then -n else n), rest)
  else
    let some x := Decimal.readUnsigned? (whole ++ fraction ++ exponent) | throw .malformed
    return (.float (if negative then -x else x), rest)

/-! ## Values -/

def words : List (List Char × Value) :=
  [("null".toList, .null), ("true".toList, .bool true), ("false".toList, .bool false),
    ("NaN".toList, .float (0.0 / 0.0)), ("Infinity".toList, .float (1.0 / 0.0)),
    ("-Infinity".toList, .float (-1.0 / 0.0))]

def word? (s : List Char) : Option (Value × List Char) :=
  words.findSome? fun (word, v) => (word.isPrefixOf? s).map (v, ·)

def number : List Char → Except Error (Value × List Char)
  | '-' :: rest => unsigned true rest
  | s => unsigned false s

mutual

def value (fuel depth : Nat) (s : List Char) : Except Error (Value × List Char) :=
  match fuel with
  | 0 => .error .malformed
  | fuel + 1 =>
    match s with
    | '"' :: _ =>
      match string? s with
      | some (text, rest) => .ok (.text (.ofList text), rest)
      | none => .error .malformed
    | '[' :: rest =>
      if depth == 0 then .error (.tooDeep "array")
      else match skipBlanks rest with
        | ']' :: rest => .ok (.list [], rest)
        | rest => (items fuel (depth - 1) [] rest).map fun (items, rest) => (.list items, rest)
    | '{' :: rest =>
      if depth == 0 then .error (.tooDeep "object")
      else match skipBlanks rest with
        | '}' :: rest => .ok (.table [], rest)
        | rest => (members fuel (depth - 1) ∅ rest).map fun (members, rest) =>
          (.table (members.entries.map fun (name, v) => (.text name, v)), rest)
    | _ =>
      match word? s with
      | some found => .ok found
      | none => number s

def items (fuel depth : Nat) (read : List Value) (s : List Char) :
    Except Error (List Value × List Char) :=
  match fuel with
  | 0 => .error .malformed
  | fuel + 1 => do
    let (item, rest) ← value fuel depth s
    match skipBlanks rest with
    | ',' :: rest => items fuel depth (item :: read) (skipBlanks rest)
    | ']' :: rest => return ((item :: read).reverse, rest)
    | _ => throw .malformed

def members (fuel depth : Nat) (read : Pairs Value) (s : List Char) :
    Except Error (Pairs Value × List Char) :=
  match fuel with
  | 0 => .error .malformed
  | fuel + 1 => do
    let some (name, rest) := string? s | throw .malformed
    match skipBlanks rest with
    | ':' :: rest =>
      let (v, rest) ← value fuel depth (skipBlanks rest)
      let read := read.insert (.ofList name) v
      match skipBlanks rest with
      | ',' :: rest => members fuel depth read (skipBlanks rest)
      | '}' :: rest => return (read, rest)
      | _ => throw .malformed
    | _ => throw .malformed

end

def read (text : List Char) : Except Error Value := do
  let (v, rest) ← value (2 * text.length + 2) greatestDepth (skipBlanks text)
  if (skipBlanks rest).isEmpty then return v else throw .malformed

end HttpRouting.Json
