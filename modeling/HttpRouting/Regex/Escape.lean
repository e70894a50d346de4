import HttpRouting.Regex.Source
import HttpRouting.Text.CharacterName

/-!
# Escapes

A backslash with the character after it names a class of characters, an
anchor, a control character, a code point in hexadecimal or octal, or an
earlier group; before any other character that is no letter or digit it
stands for that character.  `quoteMeta` writes text so that it is read back
literally.
-/

namespace HttpRouting.Regex

/-! ## Reading -/

def isOctal (c : Char) : Bool := '0' ≤ c && c ≤ '7'

def isHex (c : Char) : Bool :=
  c.isDigit || ('a' ≤ c && c ≤ 'f') || ('A' ≤ c && c ≤ 'F')

def hexValue (c : Char) : Nat :=
  if c.isDigit then c.toNat - '0'.toNat
  else if 'a' ≤ c then c.toNat - 'a'.toNat + 10
  else c.toNat - 'A'.toNat + 10

def numeral (base : Nat) (digits : List Char) : Nat :=
  digits.foldl (fun n c => base * n + hexValue c) 0

def controlEscape? : Char → Option Nat
  | 'a' => some 0x07
  | 'f' => some 0x0c
  | 'n' => some 0x0a
  | 'r' => some 0x0d
  | 't' => some 0x09
  | 'v' => some 0x0b
  | '\\' => some 0x5c
  | _ => none

def classEscape? : Char → Option ClassItem
  | 'd' => some (.digit false)
  | 'D' => some (.digit true)
  | 's' => some (.space false)
  | 'S' => some (.space true)
  | 'w' => some (.word false)
  | 'W' => some (.word true)
  | _ => none

def anchorEscape? : Char → Option Anchor
  | 'A' => some .textStart
  | 'Z' => some .textFinish
  | 'b' => some .boundary
  | 'B' => some .noBoundary
  | _ => none

namespace Reader

def hexEscape (letter : Char) (count : Nat) : Reader Nat := do
  let digits ← takeWhile isHex count
  let written := '\\' :: letter :: digits
  if digits.length < count then fail (.incompleteEscape written) written.length
  else
    let code := numeral 16 digits
    if code ≤ 0x10ffff then return code
    if code < 0x80000000 then fail (.badEscape written) written.length
    throw .codeTooLarge

def namedEscape : Reader Nat := do
  if !(← accept '{') then fail .missingBrace 0
  let name ← nameUntil '}' "character name"
  match Text.codeNamed? name with
  | some code => return code
  | none => fail (.unknownCharacter name) (name.length + 4)

def commonEscape (c : Char) : Reader Nat := do
  if c == 'x' then hexEscape c 2
  else if c == 'u' then hexEscape c 4
  else if c == 'U' then hexEscape c 8
  else if c == 'N' then namedEscape
  else if c.isAlpha || c.isDigit then fail (.badEscape ['\\', c]) 2
  else return c.toNat

def octalEscape (digits : List Char) : Reader Nat := do
  let code := numeral 8 digits
  let written := '\\' :: digits
  if code > 0o377 then fail (.octalTooLarge written) written.length else return code

def escapeInClass (c : Char) : Reader ClassItem := do
  if c == 'b' then return .code 0x08
  if let some code := controlEscape? c then return .code code
  if let some item := classEscape? c then return item
  if isOctal c then return .code (← octalEscape (c :: (← takeWhile isOctal 2)))
  return .code (← commonEscape c)

/-- Refuses a group that is still open, or that the look-behind in progress contains. -/
def checkLookBehind (group : Nat) : Reader Unit := do
  let s ← get
  if let some outside := s.outsideLookBehind then
    if !s.isClosed group then fail .openGroup 0
    if outside ≤ group then fail .groupOfSameLookBehind 0

def groupReference (group back : Nat) : Reader Node := do
  let s ← get
  if group < s.groupCount then
    if !s.isClosed group then fail .openGroup back
    checkLookBehind group
    return .backreference group
  else fail (.noSuchGroup group) (back - 1)

/-- A digit begins an octal escape when two more octal digits follow it, and a reference otherwise. -/
def digitEscape (c : Char) : Reader Node := do
  if c == '0' then
    return .literal (numeral 8 (c :: (← takeWhile isOctal 2)))
  match ← peek with
  | some [d] =>
    if d.isDigit then
      let _ ← next
      match ← peek with
      | some [e] =>
        if isOctal c && isOctal d && isOctal e then
          let _ ← next
          return .literal (← octalEscape [c, d, e])
        else groupReference (numeral 10 [c, d]) 3
      | _ => groupReference (numeral 10 [c, d]) 3
    else groupReference (numeral 10 [c]) 2
  | _ => groupReference (numeral 10 [c]) 2

def escapeOutside (c : Char) : Reader Node := do
  if let some anchor := anchorEscape? c then return .anchor anchor
  if let some item := classEscape? c then return .chars false [item]
  if let some code := controlEscape? c then return .literal code
  if c.isDigit then digitEscape c
  else return .literal (← commonEscape c)

end Reader

/-! ## Writing -/

def isMeta (c : Char) : Bool := "()[]\x7b\x7d?*+-|^$\\.&~# \t\n\r\x0b\x0c".toList.contains c

def quoteMeta (s : List Char) : List Char :=
  s.flatMap fun c => if isMeta c then ['\\', c] else [c]

end HttpRouting.Regex
