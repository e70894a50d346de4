import HttpRouting.Config.Yaml.Scalar
import HttpRouting.Config.Yaml.Tag

/-!
# Tokens

The tokens of a document make its indentation explicit: block collections are
bracketed by a start and an end, and a key that is only known by the colon
behind it is announced by a mark of its own.  The margin is the least column
at which content of the innermost block collection may stand.  Behind a flaw
there are no tokens, and of those before it only the settled ones are told.
-/

namespace HttpRouting.Yaml

inductive Token where
  | directive (d : Directive)
  | documentStart
  | documentEnd
  | blockSequenceStart
  | blockMappingStart
  | blockEnd
  | flowSequenceStart
  | flowSequenceEnd
  | flowMappingStart
  | flowMappingEnd
  | blockEntry
  | flowEntry
  | key
  | value
  | alias (name : String)
  | anchor (name : String)
  | tag (t : Tag)
  | scalar (plain : Bool) (text : List Char)
deriving DecidableEq, Repr

structure KeyStart where
  position : Nat
  /-- Whether nothing but a key may stand there. -/
  required : Bool
  index : Nat
  line : Nat
  column : Nat
deriving DecidableEq, Repr

/-- A key must stand on one line and within so many characters. -/
def KeyStart.limit : Nat := 1024

def KeyStart.isStale (k : KeyStart) (c : Cursor) : Bool :=
  k.line != c.line || limit < c.index - k.index

structure Layout where
  cursor : Cursor
  tokens : Array Token := #[]
  margin : Nat := 0
  /-- The margins of the block collections around the innermost one. -/
  outer : List Nat := []
  keyAllowed : Bool := true
  /-- The possible key at this depth of flow collections, and those further out. -/
  keyStart : Option KeyStart := none
  outerKeyStarts : List (Option KeyStart) := []

namespace Layout

def inFlow (l : Layout) : Bool := !l.outerKeyStarts.isEmpty

def push (l : Layout) (t : Token) : Layout := { l with tokens := l.tokens.push t }

def read {α : Type} (l : Layout) (reader : Reader α) : Found (α × Layout) :=
  (reader.run l.cursor).map fun (a, cursor) => (a, { l with cursor := cursor })

def peek? (l : Layout) : Option Char := l.cursor.rest.head?

def second? (l : Layout) : Option Char := l.cursor.rest.tail.head?

/-! ## Blocks -/

def closeBlocks (margin : Nat) : List Nat → Layout → Layout
  | [], l => l
  | around :: further, l =>
    if margin < l.margin then
      closeBlocks margin further { l.push .blockEnd with margin := around, outer := further }
    else l

def unwind (l : Layout) : Layout :=
  if l.inFlow then l else closeBlocks (l.cursor.column + 1) l.outer l

def unwindAll (l : Layout) : Layout := if l.inFlow then l else closeBlocks 0 l.outer l

def openBlock (l : Layout) (column position : Nat) (t : Token) : Layout :=
  if l.margin ≤ column then
    { l with
      tokens := l.tokens.insertIdxIfInBounds position t
      margin := column + 1
      outer := l.margin :: l.outer }
  else l

/-! ## Possible keys -/

def dropKeyStart (l : Layout) : Found Layout :=
  if l.keyStart.any (·.required) then failure else return { l with keyStart := none }

def refresh (c : Cursor) (k : Option KeyStart) : Found (Option KeyStart) :=
  match k with
  | none => return none
  | some k => if !k.isStale c then return some k else if k.required then failure else return none

def dropStaleKeyStarts (l : Layout) : Found Layout := do
  let keyStart ← refresh l.cursor l.keyStart
  let outerKeyStarts ← l.outerKeyStarts.mapM (refresh l.cursor)
  return { l with keyStart := keyStart, outerKeyStarts := outerKeyStarts }

def noteKeyStart (l : Layout) : Found Layout :=
  if !l.keyAllowed then return l
  else do
    let l ← l.dropKeyStart
    return { l with
      keyStart := some {
        position := l.tokens.size
        required := !l.inFlow && l.margin == l.cursor.column + 1
        index := l.cursor.index
        line := l.cursor.line
        column := l.cursor.column } }

/-! ## Single tokens -/

def take (l : Layout) (count : Nat) (t : Token) : Layout :=
  { l.push t with cursor := l.cursor.skip count }

def outermost (l : Layout) : Found Layout := do
  let l ← l.unwindAll.dropKeyStart
  return { l with keyAllowed := false }

def openFlow (l : Layout) (t : Token) : Found Layout := do
  let l ← l.noteKeyStart
  return { l.take 1 t with
    keyAllowed := true
    keyStart := none
    outerKeyStarts := l.keyStart :: l.outerKeyStarts }

def closeFlow (l : Layout) (t : Token) : Found Layout := do
  let l ← l.dropKeyStart
  match l.outerKeyStarts with
  | [] => failure
  | around :: further =>
    return { l.take 1 t with
      keyAllowed := false
      keyStart := around
      outerKeyStarts := further }

/-- A mark after which a new key may begin; in a block it may itself begin a collection. -/
def blockMark (l : Layout) (start : Option Token) (keyAfter : Bool) (t : Token) : Found Layout := do
  let l ← match start with
    | none => pure l
    | some start =>
      if l.inFlow then pure l
      else if !l.keyAllowed then failure
      else pure (l.openBlock l.cursor.column l.tokens.size start)
  let l ← l.dropKeyStart
  return { l.take 1 t with keyAllowed := keyAfter }

/-- The colon behind a key turns the place where the key began into a key. -/
def valueMark (l : Layout) : Found Layout :=
  match l.keyStart with
  | some k =>
    let l := { l with
      tokens := l.tokens.insertIdxIfInBounds k.position .key
      keyStart := none
      keyAllowed := false }
    let l := if l.inFlow then l else l.openBlock k.column k.position .blockMappingStart
    return l.take 1 .value
  | none => l.blockMark (some .blockMappingStart) (!l.inFlow) .value

def content (l : Layout) (reader : Reader Token) : Found Layout := do
  let l ← l.noteKeyStart
  let (t, l) ← l.read reader
  return { l.push t with keyAllowed := false }

def plainScalar (l : Layout) : Found Layout := do
  let l ← l.noteKeyStart
  let fuel := l.cursor.rest.length + 1
  let ((text, newLine), l) ← l.read (Reader.plain fuel l.inFlow l.margin ⟨[], false⟩ [])
  return { l.push (.scalar true text) with keyAllowed := newLine }

def quotedScalar (l : Layout) (mark : Char) : Found Layout :=
  l.content do
    Reader.skip 1
    return .scalar false (← Reader.quoted (l.cursor.rest.length + 1) mark [])

def blockScalar (l : Layout) (folded : Bool) : Found Layout := do
  let l ← l.dropKeyStart
  let (text, l) ← l.read do
    Reader.skip 1
    Reader.block folded l.margin
  return { l.push (.scalar false text) with keyAllowed := true }

/-! ## The next token -/

def skipGaps (fuel : Nat) (l : Layout) : Layout :=
  match fuel with
  | 0 => l
  | fuel + 1 =>
    let spaces := (l.cursor.rest.takeWhile (· == ' ')).length
    let c := l.cursor.skip spaces
    let comment := if c.rest.head? == some '#' then (c.rest.takeWhile fun x => !isBreak x).length else 0
    let c := c.skip comment
    match Reader.lineBreak.run c with
    | .ok (_ :: _, c) =>
      skipGaps fuel { l with cursor := c, keyAllowed := l.keyAllowed || !l.inFlow }
    | _ => { l with cursor := c }

def standsAlone (l : Layout) : Bool := l.second?.all isGap

def beginsPlain (l : Layout) (c : Char) : Bool :=
  !isGap c && !"-?:,[]\x7b\x7d#&*!|>'\"%@\x60".toList.contains c ||
    !l.standsAlone && (c == '-' || !l.inFlow && (c == '?' || c == ':'))

def isBoundary (l : Layout) (mark : Char) : Bool :=
  l.cursor.column == 0 && l.peek? == some mark && l.cursor.startsBoundary

def addToken (l : Layout) (c : Char) : Found Layout :=
  if c == '%' && l.cursor.column == 0 then do
    let (d, l) ← (← l.outermost).read Reader.directive
    return l.push (.directive d)
  else if l.isBoundary '-' then return (← l.outermost).take 3 .documentStart
  else if l.isBoundary '.' then return (← l.outermost).take 3 .documentEnd
  else if c == '[' then l.openFlow .flowSequenceStart
  else if c == '{' then l.openFlow .flowMappingStart
  else if c == ']' then l.closeFlow .flowSequenceEnd
  else if c == '}' then l.closeFlow .flowMappingEnd
  else if c == ',' then l.blockMark none true .flowEntry
  else if c == '-' && l.standsAlone then l.blockMark (some .blockSequenceStart) true .blockEntry
  else if c == '?' && (l.inFlow || l.standsAlone) then
    l.blockMark (some .blockMappingStart) (!l.inFlow) .key
  else if c == ':' && (l.inFlow || l.standsAlone) then l.valueMark
  else if c == '*' then l.content (Token.alias <$> Reader.anchorName)
  else if c == '&' then l.content (Token.anchor <$> Reader.anchorName)
  else if c == '!' then l.content (Token.tag <$> Reader.tag)
  else if c == '|' && !l.inFlow then l.blockScalar false
  else if c == '>' && !l.inFlow then l.blockScalar true
  else if c == '\'' || c == '"' then l.quotedScalar c
  else if l.beginsPlain c then l.plainScalar
  else failure

def step (l : Layout) : Found (Layout × Bool) := do
  let l ← (l.skipGaps (l.cursor.rest.length + 1)).dropStaleKeyStarts
  let l := l.unwind
  match l.peek? with
  | none => return (← l.unwindAll.dropKeyStart, false)
  | some c => return (← l.addToken c, true)

/-- The tokens before which no later colon can put a mark. -/
def settled (l : Layout) : List Token :=
  let possible := (l.keyStart :: l.outerKeyStarts).filterMap (·.filter (! ·.isStale l.cursor))
  l.tokens.toList.take (possible.foldl (fun count k => min count k.position) l.tokens.size)

end Layout

structure Tokens where
  list : List Token
  flaw : Option Flaw := none
deriving DecidableEq, Repr

def Layout.readAll (fuel : Nat) (l : Layout) : Tokens :=
  match fuel with
  | 0 => ⟨l.settled, some .malformed⟩
  | fuel + 1 =>
    match l.step with
    | .error flaw => ⟨l.settled, some flaw⟩
    | .ok (l, true) => l.readAll fuel
    | .ok (l, false) => ⟨l.tokens.toList, none⟩

def Cursor.start (text : List Char) : Cursor :=
  if text.head? == some byteOrderMark then next ⟨text, 0, 0, 0⟩ else ⟨text, 0, 0, 0⟩

def Tokens.ofText (text : List Char) : Tokens :=
  Layout.readAll (text.length + 1) { cursor := .start text }

end HttpRouting.Yaml
