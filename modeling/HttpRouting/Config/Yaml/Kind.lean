import HttpRouting.Config.Yaml.Tag
import HttpRouting.Regex.Expression

/-!
# Kinds of nodes

The tag of a node says what kind of value it stands for.  A plain scalar
without a tag is of the first kind whose form it has, and text if it has none;
the forms are regular expressions.
-/

namespace HttpRouting.Yaml

inductive Kind where
  | null
  | bool
  | int
  | float
  | text
  | moment
  | binary
  | merge
  /-- The key of the value that a mapping has as a scalar. -/
  | value
  | sequence
  | mapping
  | set
  | pairs
  | unknown
deriving DecidableEq, Repr

namespace Kind

def tagged : List (String × Kind) :=
  [("null", null), ("bool", bool), ("int", int), ("float", float), ("str", text),
    ("timestamp", moment), ("binary", binary), ("merge", merge), ("value", value),
    ("seq", sequence), ("map", mapping), ("set", set), ("omap", pairs), ("pairs", pairs)].map
    fun (name, kind) => (Tag.standardStem ++ name, kind)

def ofTag (tag : String) : Kind := (tagged.lookup tag).getD unknown

/-! ## Forms of plain scalars -/

def nullWords : List String := ["", "~", "null", "Null", "NULL"]

def boolWords : List String :=
  ["yes", "Yes", "YES", "no", "No", "NO", "true", "True", "TRUE", "false", "False", "FALSE",
    "on", "On", "ON", "off", "Off", "OFF"]

def intForm : String :=
  "[-+]?0b[0-1_]+|[-+]?0[0-7_]+|[-+]?(?:0|[1-9][0-9_]*)|[-+]?0x[0-9a-fA-F_]+|" ++
    "[-+]?[1-9][0-9_]*(?::[0-5]?[0-9])+"

def floatForm : String :=
  "[-+]?[0-9][0-9_]*\\.[0-9_]*(?:[eE][-+][0-9]+)?|\\.[0-9][0-9_]*(?:[eE][-+][0-9]+)?|" ++
    "[-+]?[0-9][0-9_]*(?::[0-5]?[0-9])+\\.[0-9_]*|[-+]?\\.(?:inf|Inf|INF)|\\.(?:nan|NaN|NAN)"

/-- A date alone has two digits for month and day; with a time it may have one. -/
def momentForm : String :=
  "[0-9][0-9][0-9][0-9]-[0-9][0-9]-[0-9][0-9]|[0-9][0-9][0-9][0-9]-[0-9][0-9]?-[0-9][0-9]?" ++
    "(?:[Tt]|[ \\t]+)[0-9][0-9]?:[0-9][0-9]:[0-9][0-9](?:\\.[0-9]*)?" ++
    "(?:[ \\t]*(?:Z|[-+][0-9][0-9]?(?::[0-9][0-9])?))?"

def hasForm (form : String) (text : List Char) : Bool :=
  match Regex.Expression.read form.toList with
  | .ok e => (e.matchesAll text).toOption == some true
  | .error _ => false

def beginsForm (c : Char) : Bool := c.isDigit || "-+.".toList.contains c

def withoutFinalBreak (text : List Char) : List Char :=
  if text.length ≤ 1 || text.getLast? != some '\n' then text else text.dropLast

/-- The kind of a plain scalar without a tag; a line feed at its end makes no difference. -/
def ofPlain (text : List Char) : Kind :=
  let word := withoutFinalBreak text
  if nullWords.contains (.ofList word) then null
  else if boolWords.contains (.ofList word) then bool
  else if word == ['<', '<'] then merge
  else if word == ['='] then value
  else if word == ['!'] || word == ['&'] || word == ['*'] then unknown
  else if !word.head?.any beginsForm then .text
  else if hasForm floatForm word then float
  else if hasForm intForm word then int
  else if hasForm momentForm word then moment
  else .text

/-- The kind of a scalar; the tag that means none in particular makes any scalar plain. -/
def ofScalar (tag : Option String) (plain : Bool) (text : List Char) : Kind :=
  match tag with
  | none => if plain then ofPlain text else .text
  | some tag => if tag = Tag.plain then ofPlain text else ofTag tag

def ofCollection (own : Kind) (tag : Option String) : Kind :=
  match tag with
  | none => own
  | some tag => if tag = Tag.plain then own else ofTag tag

end Kind

end HttpRouting.Yaml
