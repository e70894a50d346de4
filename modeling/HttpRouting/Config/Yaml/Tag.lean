import HttpRouting.Config.Yaml.Cursor
import HttpRouting.Pairs
import HttpRouting.Text.Utf8

/-!
# Anchors, tags and directives

A tag is written as a handle and a suffix, or in full between angle brackets.
The directives before a document bind handles to the texts that they stand
for; two handles are bound from the start.
-/

namespace HttpRouting.Yaml

structure Tag where
  /-- The handle before the suffix; none for a tag in full. -/
  handle : Option String
  suffix : String
deriving DecidableEq, Repr

inductive Directive where
  | version (major : Nat)
  | tag (handle stem : String)
  | other
deriving DecidableEq, Repr

namespace Tag

/-- The tag that stands for none in particular. -/
def plain : String := "!"

def standardStem : String := "tag:yaml.org,2002:"

def defaultHandles : Pairs String := ⟨[("!", "!"), ("!!", standardStem)]⟩

def expand? (handles : Pairs String) (t : Tag) : Option String :=
  match t.handle with
  | none => some t.suffix
  | some handle => (handles.find? handle).map (· ++ t.suffix)

end Tag

namespace Reader

/-! ## Anchors -/

def anchorName : Reader String := do
  skip 1
  let name ← someStretch isNameChar
  expect (·.all fun c => isGap c || "?:,]\x7d%@\x60".toList.contains c)
  return .ofList name

/-! ## Tags -/

def isUriChar (c : Char) : Bool := c.isAlphanum || "-;/?:@&=+$,_.!~*'()[]".toList.contains c

def hexDigit? (c : Char) : Option Nat :=
  if c.isDigit then some (c.toNat - '0'.toNat)
  else if 'a' ≤ c.toLower && c.toLower ≤ 'f' then some (c.toLower.toNat - 'a'.toNat + 10)
  else none

def percentBytes (fuel : Nat) (bytes : List UInt8) : Reader (List UInt8) := do
  match fuel with
  | 0 => return bytes
  | fuel + 1 =>
    match (← get).rest with
    | '%' :: high :: low :: _ =>
      match hexDigit? high, hexDigit? low with
      | some h, some l =>
        skip 3
        percentBytes fuel (bytes ++ [UInt8.ofNat (16 * h + l)])
      | _, _ => failure
    | '%' :: _ => failure
    | _ => return bytes

def uri (fuel : Nat) (text : List Char) : Reader (List Char) := do
  match fuel with
  | 0 => return text
  | fuel + 1 =>
    let chars ← stretch isUriChar
    if (← peek) == some '%' then
      match Text.decodeUtf8 (← percentBytes ((← get).rest.length + 1) []) with
      | .ok decoded => uri fuel (text ++ chars ++ decoded)
      | .error _ => failure
    else return text ++ chars

def someUri : Reader String := do
  let start ← get
  let text ← uri (start.rest.length + 1) []
  if (← get).index == start.index then failure else return .ofList text

def handle : Reader String := do
  if (← peek) != some '!' then failure
  skip 1
  let name ← stretch isNameChar
  if (← peek) == some '!' then
    skip 1
    return .ofList ('!' :: name ++ ['!'])
  else if name.isEmpty && (← peek) == some ' ' then return "!"
  else failure

def hasHandle (word : List Char) : Bool :=
  (word.takeWhile fun c => !isSpaceOrBreak c).contains '!'

def tag : Reader Tag := do
  let t ← match (← get).rest.tail with
    | '<' :: _ =>
      skip 2
      let text ← someUri
      if (← peek) != some '>' then failure
      skip 1
      pure ⟨none, text⟩
    | after =>
      if after.head?.all isGap then
        skip 1
        pure ⟨none, Tag.plain⟩
      else if hasHandle after then
        let handle ← handle
        pure ⟨some handle, ← someUri⟩
      else
        skip 1
        pure ⟨some "!", ← someUri⟩
  expect (·.all isSpaceOrBreak)
  return t

/-! ## Directives -/

def number : Reader Nat := do
  let digits ← someStretch Char.isDigit
  return digits.foldl (fun n c => 10 * n + (c.toNat - '0'.toNat)) 0

def skipSpaces : Reader Unit := do
  let _ ← stretch (· == ' ')

def version : Reader Directive := do
  skipSpaces
  let major ← number
  if (← peek) != some '.' then failure
  skip 1
  let _ ← number
  expect (·.all isSpaceOrBreak)
  return .version major

def tagDirective : Reader Directive := do
  skipSpaces
  let handle ← handle
  if (← peek) != some ' ' then failure
  skipSpaces
  let stem ← someUri
  expect (·.all isSpaceOrBreak)
  return .tag handle stem

def directive : Reader Directive := do
  skip 1
  let name ← someStretch isNameChar
  expect (·.all isSpaceOrBreak)
  let d ← match String.ofList name with
    | "YAML" => version
    | "TAG" => tagDirective
    | _ => do
      let _ ← stretch fun c => !isBreak c
      pure .other
  restOfLine
  return d

end Reader

end HttpRouting.Yaml
