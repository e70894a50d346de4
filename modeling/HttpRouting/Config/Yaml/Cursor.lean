/-!
# Places in a document

A cursor is a place in the text of a document: what is left to read, and how
many characters, lines and columns have been passed.  Readers are functions of
a cursor that may fail; besides that a document is malformed, they tell only of
escapes that name no character.
-/

namespace HttpRouting.Yaml

/-! ## Characters -/

def isBreak (c : Char) : Bool := "\n\r\u0085\u2028\u2029".toList.contains c

def isSpaceOrTab (c : Char) : Bool := c == ' ' || c == '\t'

def isGap (c : Char) : Bool := isSpaceOrTab c || isBreak c

def isSpaceOrBreak (c : Char) : Bool := c == ' ' || isBreak c

def isNameChar (c : Char) : Bool := c.isAlphanum || c == '-' || c == '_'

/-- The mark that may come before a document, which takes no column. -/
def byteOrderMark : Char := '\ufeff'

def isAllowed (c : Char) : Bool :=
  let code := c.toNat
  "\t\n\r\u0085".toList.contains c || 0x20 ≤ code && code ≤ 0x7e || 0xa0 ≤ code && code ≤ 0xfffd ||
    0x10000 ≤ code

/-! ## Flaws -/

inductive Flaw where
  | malformed
  | noCharacter (code : Nat)
deriving DecidableEq, Repr

abbrev Found := Except Flaw

instance : Alternative Found where
  failure := .error .malformed
  orElse first second := match first with
    | .ok a => .ok a
    | .error _ => second ()

/-! ## Cursors -/

structure Cursor where
  rest : List Char
  index : Nat := 0
  line : Nat := 0
  column : Nat := 0
deriving DecidableEq, Repr

namespace Cursor

/-- The cursor behind the next character; the two characters of one line end count as one. -/
def next (c : Cursor) : Cursor :=
  match c.rest with
  | [] => c
  | x :: rest =>
    if isBreak x && !(x == '\r' && rest.head? == some '\n') then
      { rest := rest, index := c.index + 1, line := c.line + 1, column := 0 }
    else
      { rest := rest, index := c.index + 1, line := c.line
        column := if x == byteOrderMark then c.column else c.column + 1 }

def skip (c : Cursor) (count : Nat) : Cursor := count.repeat next c

def startsBoundary (c : Cursor) : Bool :=
  match c.rest with
  | a :: b :: d :: after =>
    (a == '-' || a == '.') && a == b && b == d && after.head?.all isGap
  | _ => false

end Cursor

/-! ## Readers -/

abbrev Reader := StateT Cursor Found

namespace Reader

def peek : Reader (Option Char) := return (← get).rest.head?

def skip (count : Nat) : Reader Unit := modify (·.skip count)

def expect (kind : Option Char → Bool) : Reader Unit := do
  if kind (← peek) then return () else failure

def stretch (kind : Char → Bool) : Reader (List Char) := do
  let chars := (← get).rest.takeWhile kind
  skip chars.length
  return chars

def someStretch (kind : Char → Bool) : Reader (List Char) := do
  let chars ← stretch kind
  if chars.isEmpty then failure else return chars

/-- Reads the end of a line, if it is here: most line ends mean a line feed, two stay as they are. -/
def lineBreak : Reader (List Char) := do
  match (← get).rest with
  | '\r' :: '\n' :: _ => skip 2; return ['\n']
  | c :: _ =>
    if !isBreak c then return []
    else
      skip 1
      return if c == '\u2028' || c == '\u2029' then [c] else ['\n']
  | [] => return []

def restOfLine : Reader Unit := do
  let _ ← stretch (· == ' ')
  if (← peek) == some '#' then
    let _ ← stretch fun c => !isBreak c
  expect (·.all isBreak)
  let _ ← lineBreak

end Reader

end HttpRouting.Yaml
