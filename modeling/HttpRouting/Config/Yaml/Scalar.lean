import HttpRouting.Config.Yaml.Cursor

/-!
# Scalars

A scalar is written plainly, between quotes, or as a block of indented lines.
In the first two styles a single line end stands for a space and each further
one for itself; a block keeps its line ends, or folds them in the same way.
-/

namespace HttpRouting.Yaml.Reader

/-! ## Plain scalars -/

def continuesPlain (flow : Bool) (c : Char) (after : Option Char) : Bool :=
  !isGap c && !(c == ':' && after.all fun d => isGap d || flow && ",[]{}".toList.contains d) &&
    !(flow && ",?[]{}".toList.contains c)

def plainWord (flow : Bool) : List Char → List Char
  | [] => []
  | c :: rest => if continuesPlain flow c rest.head? then c :: plainWord flow rest else []

/-- The gap after a plain word: the text that it stands for, and whether it ends the line. -/
structure PlainGap where
  text : List Char
  newLine : Bool

def plainBreaks (fuel : Nat) (breaks : List Char) : Reader (Option (List Char)) := do
  match fuel with
  | 0 => return some breaks
  | fuel + 1 =>
    match ← peek with
    | some ' ' => skip 1; plainBreaks fuel breaks
    | some c =>
      if !isBreak c then return some breaks
      else
        let text ← lineBreak
        if (← get).startsBoundary then return none
        plainBreaks fuel (breaks ++ text)
    | none => return some breaks

def foldBreaks (first : List Char) (further : List Char) : List Char :=
  if first != ['\n'] then first ++ further else if further.isEmpty then [' '] else further

def plainGap : Reader PlainGap := do
  let spaces ← stretch (· == ' ')
  match ← lineBreak with
  | [] => return ⟨spaces, false⟩
  | first =>
    if (← get).startsBoundary then return ⟨[], true⟩
    match ← plainBreaks ((← get).rest.length + 1) [] with
    | none => return ⟨[], true⟩
    | some further => return ⟨foldBreaks first further, true⟩

/-- Reads a plain scalar, and whether a new line has begun behind it. -/
def plain (fuel : Nat) (flow : Bool) (margin : Nat) (gap : PlainGap) (text : List Char) :
    Reader (List Char × Bool) := do
  match fuel with
  | 0 => return (text, gap.newLine)
  | fuel + 1 =>
    let rest := (← get).rest
    let word := if rest.head? == some '#' then [] else plainWord flow rest
    if word.isEmpty then return (text, gap.newLine)
    skip word.length
    let text := text ++ gap.text ++ word
    let gap ← plainGap
    if gap.text.isEmpty || !flow && (← get).column < margin then return (text, gap.newLine)
    plain fuel flow margin gap text

/-! ## Quoted scalars -/

def escapes : List (Char × Char) :=
  [('0', '\x00'), ('a', '\x07'), ('b', '\x08'), ('t', '\t'), ('\t', '\t'), ('n', '\n'),
    ('v', '\x0b'), ('f', '\x0c'), ('r', '\r'), ('e', '\x1b'), (' ', ' '), ('"', '"'),
    ('\\', '\\'), ('/', '/'), ('N', '\u0085'), ('_', '\u00a0'), ('L', '\u2028'), ('P', '\u2029')]

def escapeWidths : List (Char × Nat) := [('x', 2), ('u', 4), ('U', 8)]

def isHexDigit (c : Char) : Bool := c.isDigit || 'a' ≤ c && c ≤ 'f' || 'A' ≤ c && c ≤ 'F'

def hexValue (digits : List Char) : Nat :=
  digits.foldl (fun n c => 16 * n + if c.isDigit then c.toNat - '0'.toNat
    else c.toLower.toNat - 'a'.toNat + 10) 0

def codePoint (width : Nat) : Reader Nat := do
  let digits := (← get).rest.take width
  if digits.length < width || !digits.all isHexDigit then failure
  let code := hexValue digits
  if 0x110000 ≤ code then throw (.noCharacter code)
  skip width
  return code

def completed (high : Nat) : Reader Nat := do
  match (← get).rest with
  | '\\' :: 'u' :: rest =>
    let low := hexValue (rest.take 4)
    if (rest.take 4).all isHexDigit && 0xdc00 ≤ low && low < 0xe000 then
      skip 6
      return 0x10000 + (high - 0xd800) * 0x400 + (low - 0xdc00)
    else return high
  | _ => return high

/-- Reads the character after a letter; a surrogate that is not completed is replaced. -/
def codedChar (width : Nat) : Reader Char := do
  let code ← codePoint width
  let code ← if 0xd800 ≤ code && code < 0xdc00 then completed code else pure code
  return if 0xd800 ≤ code && code < 0xe000 then '\ufffd' else Char.ofNat code

def quotedBreaks (fuel : Nat) (breaks : List Char) : Reader (List Char) := do
  match fuel with
  | 0 => return breaks
  | fuel + 1 =>
    if (← get).startsBoundary then failure
    let _ ← stretch isSpaceOrTab
    match ← lineBreak with
    | [] => return breaks
    | text => quotedBreaks fuel (breaks ++ text)

def escaped : Reader (List Char) := do
  match ← peek with
  | none => failure
  | some c =>
    if let some meaning := escapes.lookup c then
      skip 1
      return [meaning]
    else if let some width := escapeWidths.lookup c then
      skip 1
      return [← codedChar width]
    else if isBreak c then
      let _ ← lineBreak
      quotedBreaks ((← get).rest.length + 1) []
    else failure

def quotedGap : Reader (List Char) := do
  let spaces ← stretch isSpaceOrTab
  match ← lineBreak with
  | [] => return spaces
  | first => return foldBreaks first (← quotedBreaks ((← get).rest.length + 1) [])

def quoted (fuel : Nat) (mark : Char) (text : List Char) : Reader (List Char) := do
  match fuel with
  | 0 => failure
  | fuel + 1 =>
    match (← get).rest with
    | [] => failure
    | c :: rest =>
      if c == mark then
        if mark == '\'' && rest.head? == some mark then
          skip 2
          quoted fuel mark (text ++ [mark])
        else
          skip 1
          return text
      else if c == '\\' && mark == '"' then
        skip 1
        quoted fuel mark (text ++ (← escaped))
      else if isGap c then quoted fuel mark (text ++ (← quotedGap))
      else
        skip 1
        quoted fuel mark (text ++ [c])

/-! ## Block scalars -/

inductive Chomping where
  | strip
  | clip
  | keep
deriving DecidableEq, Repr

def chomping? : Reader (Option Chomping) := do
  match ← peek with
  | some '+' => skip 1; return some .keep
  | some '-' => skip 1; return some .strip
  | _ => return none

def indentation? : Reader (Option Nat) := do
  match ← peek with
  | some c =>
    if !c.isDigit then return none
    else if c == '0' then failure
    else
      skip 1
      return some (c.toNat - '0'.toNat)
  | none => return none

def blockHeader : Reader (Chomping × Option Nat) := do
  let header ← match ← chomping? with
    | some chomping => pure (chomping, ← indentation?)
    | none =>
      match ← indentation? with
      | none => pure (.clip, none)
      | some width => pure ((← chomping?).getD .clip, some width)
  expect (·.all isSpaceOrBreak)
  return header

def leadingLines (fuel : Nat) (breaks : List Char) (widest : Nat) : Reader (List Char × Nat) := do
  match fuel with
  | 0 => return (breaks, widest)
  | fuel + 1 =>
    match ← peek with
    | some ' ' =>
      skip 1
      leadingLines fuel breaks (max widest (← get).column)
    | _ =>
      match ← lineBreak with
      | [] => return (breaks, widest)
      | text => leadingLines fuel (breaks ++ text) widest

def indentTo (column : Nat) : Reader Unit := do
  let c ← get
  skip ((c.rest.take (column - c.column)).takeWhile (· == ' ')).length

def blankLines (fuel : Nat) (column : Nat) (breaks : List Char) : Reader (List Char) := do
  match fuel with
  | 0 => return breaks
  | fuel + 1 =>
    indentTo column
    match ← lineBreak with
    | [] => return breaks
    | text => blankLines fuel column (breaks ++ text)

def atBlockLine (column : Nat) : Reader Bool := do
  let c ← get
  return c.column == column && !c.rest.isEmpty

/-- The line ends between two lines of a block; folding needs two lines that are not indented more. -/
def joinLines (folded : Bool) (ended breaks : List Char) : List Char :=
  if folded && ended == ['\n'] then (if breaks.isEmpty then [' '] else breaks) else ended ++ breaks

structure BlockText where
  text : List Char
  ended : List Char
  further : List Char

def blockLines (fuel : Nat) (folded : Bool) (column : Nat) (text : List Char) : Reader BlockText := do
  match fuel with
  | 0 => return ⟨text, [], []⟩
  | fuel + 1 =>
    let indented := (← peek).any isSpaceOrTab
    let line ← stretch fun c => !isBreak c
    let ended ← lineBreak
    let further ← blankLines ((← get).rest.length + 1) column []
    if !(← atBlockLine column) then return ⟨text ++ line, ended, further⟩
    let folds := folded && !indented && !(← peek).any isSpaceOrTab
    blockLines fuel folded column (text ++ line ++ joinLines folds ended further)

def block (folded : Bool) (margin : Nat) : Reader (List Char) := do
  let (chomping, width) ← blockHeader
  restOfLine
  let least := max margin 1
  let fuel := (← get).rest.length + 1
  let (column, breaks) ← match width with
    | some width =>
      let column := least + width - 1
      pure (column, ← blankLines fuel column [])
    | none =>
      let (breaks, widest) ← leadingLines fuel [] 0
      pure (max least widest, breaks)
  let b ← if ← atBlockLine column then blockLines fuel folded column breaks
    else pure ⟨[], [], breaks⟩
  return match chomping with
    | .strip => b.text
    | .clip => b.text ++ b.ended
    | .keep => b.text ++ b.ended ++ b.further

end HttpRouting.Yaml.Reader
