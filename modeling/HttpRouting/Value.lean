import HttpRouting.Decimal.Notation
import HttpRouting.Moment
import HttpRouting.Text.Quoted
import HttpRouting.Text.Utf8

/-!
# Values

The dynamic values that configuration files hold, that URL parameters are
given as, and that handlers may return.  A value has a plain text, in which
text stands for itself, and a quoted form, in which it is quoted; inside a
list or a table only the quoted form occurs.  Integers of any length are
written; the limit on digits under which they are read is left out here.
-/

namespace HttpRouting

inductive Value where
  | null
  | bool (b : Bool)
  | int (n : Int)
  | float (x : Float)
  | text (s : String)
  | list (items : List Value)
  | table (entries : List (Value × Value))
  | moment (m : Moment)
  | bytes (content : List UInt8)
  | set (members : List Value)
deriving Inhabited, Repr

namespace Value

def kindName : Value → String
  | null => "NoneType"
  | bool _ => "bool"
  | int _ => "int"
  | float _ => "float"
  | text _ => "str"
  | list _ => "list"
  | table _ => "dict"
  | moment m => m.kindName
  | bytes _ => "bytes"
  | set _ => "set"

/-- Null, false, zero and everything empty count as absent. -/
def isPresent : Value → Bool
  | null => false
  | bool b => b
  | int n => n != 0
  | float x => x != 0.0
  | text s => s != ""
  | list items => !items.isEmpty
  | table entries => !entries.isEmpty
  | moment _ => true
  | bytes content => !content.isEmpty
  | set members => !members.isEmpty

def isNull : Value → Bool
  | null => true
  | _ => false

def isText : Value → Bool
  | text _ => true
  | _ => false

def length? : Value → Option Nat
  | text s => some s.length
  | bytes content => some content.length
  | list items | set items => some items.length
  | table entries => some entries.length
  | null | bool _ | int _ | float _ | moment _ => none

def encoded : Value → Value
  | text s => bytes (Text.encodeUtf8 s.toList)
  | v => v

theorem isText_encoded (v : Value) : v.encoded.isText = false := by
  cases v <;> rfl

/-! ## Text -/

def joinChars (separator : List Char) (parts : List (List Char)) : List Char :=
  separator.intercalate parts

def quoteByte (mark : Char) (b : UInt8) : List Char :=
  let c := Char.ofNat b.toNat
  if c == mark || c == '\\' then ['\\', c]
  else if c == '\t' then ['\\', 't']
  else if c == '\n' then ['\\', 'n']
  else if c == '\r' then ['\\', 'r']
  else if 0x20 ≤ b && b < 0x7f then [c]
  else '\\' :: 'x' :: Text.hexDigits 2 b.toNat

def quoteBytes (content : List UInt8) : List Char :=
  let mark := Text.quoteMark (content.map fun b => Char.ofNat b.toNat)
  'b' :: mark :: content.flatMap (quoteByte mark) ++ [mark]

mutual

def quotedChars : Value → List Char
  | null => "None".toList
  | bool true => "True".toList
  | bool false => "False".toList
  | int n => (toString n).toList
  | float x => (Decimal.floatText x).toList
  | text s => Text.quoteChars s.toList
  | list items => '[' :: joinChars [',', ' '] (quotedItems items) ++ [']']
  | table entries => '{' :: joinChars [',', ' '] (quotedEntries entries) ++ ['}']
  | moment m => m.quoted.toList
  | bytes content => quoteBytes content
  | set [] => "set()".toList
  | set members => '{' :: joinChars [',', ' '] (quotedItems members) ++ ['}']

def quotedItems : List Value → List (List Char)
  | [] => []
  | item :: rest => item.quotedChars :: quotedItems rest

def quotedEntries : List (Value × Value) → List (List Char)
  | [] => []
  | (key, item) :: rest =>
    (key.quotedChars ++ ':' :: ' ' :: item.quotedChars) :: quotedEntries rest

end

def quoted (v : Value) : String := .ofList v.quotedChars

def plain : Value → String
  | text s => s
  | moment m => m.plain
  | v => v.quoted

def missingAttribute (kind name : String) : String :=
  "'" ++ kind ++ "' object has no attribute '" ++ name ++ "'"

end Value

end HttpRouting
