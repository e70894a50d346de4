import HttpRouting.Config.Yaml.Kind
import HttpRouting.Config.Yaml.Token

/-!
# Documents

A document is a table of nodes, each a scalar, a sequence or a mapping, whose
parts are given by their places in the table.  An anchor names a place, and an
alias is that place again, so nodes are shared and may even contain
themselves.
-/

namespace HttpRouting.Yaml

abbrev Place := Nat

abbrev Entries := List (Place × Place)

inductive Content where
  | scalar (text : List Char)
  | sequence (items : List Place)
  | mapping (entries : Entries)
deriving DecidableEq, Repr

structure Node where
  kind : Kind
  content : Content
deriving DecidableEq, Repr

structure Document where
  nodes : Array Node
  root : Place
deriving Repr

namespace Document

/-! ## Reading tokens -/

/--
The tokens that are left and the flaw behind them, the bound handles, the nodes
so far, and the places that have names.
-/
structure Progress where
  tokens : List Token
  flaw : Option Flaw
  handles : Pairs String := Tag.defaultHandles
  nodes : Array Node := #[]
  anchors : Pairs Place := ∅

abbrev Build := StateT Progress Found

def peek : Build (Option Token) := do
  let p ← get
  match p.tokens.head?, p.flaw with
  | none, some flaw => throw flaw
  | next, _ => return next

def drop : Build Unit := modify fun p => { p with tokens := p.tokens.tail }

def accept (t : Token) : Build Bool := do
  if (← peek) == some t then
    drop
    return true
  else return false

def expect (t : Token) : Build Unit := do
  if ← accept t then return () else failure

def isNext (tokens : List Token) : Build Bool := return (← peek).any tokens.contains

/-! ## Places -/

def add (node : Node) : Build Place := do
  let place := (← get).nodes.size
  modify fun p => { p with nodes := p.nodes.push node }
  return place

def absent : Build Place := add ⟨.ofScalar none true [], .scalar []⟩

def setContent (place : Place) (content : Content) : Build Unit :=
  modify fun p => { p with nodes := p.nodes.modify place ({ · with content := content }) }

/-! ## Properties -/

def anchor? : Build (Option String) := do
  match ← peek with
  | some (.anchor name) => drop; return some name
  | _ => return none

def tag? : Build (Option Tag) := do
  match ← peek with
  | some (.tag t) => drop; return some t
  | _ => return none

def expanded (tag : Option Tag) : Build (Option String) := do
  match tag with
  | none => return none
  | some t =>
    match t.expand? (← get).handles with
    | some text => return some text
    | none => failure

def properties : Build (Option String × Option String) := do
  match ← anchor? with
  | some name => return (some name, ← expanded (← tag?))
  | none =>
    let tag ← tag?
    let name ← if tag.isSome then anchor? else pure none
    return (name, ← expanded tag)

def nameNext (name : Option String) : Build Unit :=
  match name with
  | none => return ()
  | some name => modify fun p => { p with anchors := p.anchors.insert name p.nodes.size }

def aliased (name : String) : Build Place := do
  match (← get).anchors.find? name with
  | some place => return place
  | none => failure

def addSequence (tag : Option String) (items : Build (List Place)) : Build Place := do
  let place ← add ⟨.ofCollection .sequence tag, .sequence []⟩
  setContent place (.sequence (← items))
  return place

def addMapping (tag : Option String) (entries : Build Entries) : Build Place := do
  let place ← add ⟨.ofCollection .mapping tag, .mapping []⟩
  setContent place (.mapping (← entries))
  return place

def addScalar (tag : Option String) (plain : Bool) (text : List Char) : Build Place :=
  add ⟨.ofScalar tag plain text, .scalar text⟩

/-! ## Collections -/

mutual

/-- Reads a node; block collections are allowed only in a block, and one kind only as an entry. -/
def node (fuel : Nat) (inBlock asEntry : Bool) : Build Place := do
  match fuel with
  | 0 => failure
  | fuel + 1 =>
    if let some (.alias name) ← peek then
      drop
      return ← aliased name
    let (name, tag) ← properties
    if let some name := name then
      if (← get).anchors.contains name then failure
    nameNext name
    content fuel inBlock asEntry (name.isSome || tag.isSome) tag

def content (fuel : Nat) (inBlock asEntry hasProperties : Bool) (tag : Option String) :
    Build Place := do
  match fuel with
  | 0 => failure
  | fuel + 1 =>
    match ← peek with
    | some (.scalar plain text) =>
      drop
      addScalar tag plain text
    | some .flowSequenceStart =>
      drop
      addSequence tag (flowItems fuel true)
    | some .flowMappingStart =>
      drop
      addMapping tag (flowEntries fuel true)
    | next =>
      if asEntry && next == some .blockEntry then addSequence tag (looseItems fuel)
      else if inBlock && next == some .blockSequenceStart then
        drop
        addSequence tag (blockItems fuel)
      else if inBlock && next == some .blockMappingStart then
        drop
        addMapping tag (blockEntries fuel)
      else if hasProperties then addScalar tag true []
      else failure

def blockItems (fuel : Nat) : Build (List Place) := do
  match fuel with
  | 0 => failure
  | fuel + 1 =>
    if ← accept .blockEntry then
      let item ← if ← isNext [.blockEntry, .blockEnd] then absent else node fuel true false
      return item :: (← blockItems fuel)
    else
      expect .blockEnd
      return []

def looseItems (fuel : Nat) : Build (List Place) := do
  match fuel with
  | 0 => failure
  | fuel + 1 =>
    if ← accept .blockEntry then
      let item ← if ← isNext [.blockEntry, .key, .value, .blockEnd] then absent
        else node fuel true false
      return item :: (← looseItems fuel)
    else return []

def blockEntries (fuel : Nat) : Build Entries := do
  match fuel with
  | 0 => failure
  | fuel + 1 =>
    if ← accept .key then
      let key ← if ← isNext [.key, .value, .blockEnd] then absent else node fuel true true
      let value ← blockValue fuel
      return (key, value) :: (← blockEntries fuel)
    else
      expect .blockEnd
      return []

def blockValue (fuel : Nat) : Build Place := do
  match fuel with
  | 0 => failure
  | fuel + 1 =>
    if ← accept .value then
      if ← isNext [.key, .value, .blockEnd] then absent else node fuel true true
    else absent

def flowItems (fuel : Nat) (isFirst : Bool) : Build (List Place) := do
  match fuel with
  | 0 => failure
  | fuel + 1 =>
    if ← accept .flowSequenceEnd then return []
    if !isFirst then expect .flowEntry
    if ← accept .key then
      let place ← add ⟨.mapping, .mapping []⟩
      let key ← if ← isNext [.value, .flowEntry, .flowSequenceEnd] then absent
        else node fuel false false
      let value ← flowValue fuel .flowSequenceEnd
      setContent place (.mapping [(key, value)])
      return place :: (← flowItems fuel false)
    else if ← accept .flowSequenceEnd then return []
    else
      let item ← node fuel false false
      return item :: (← flowItems fuel false)

def flowEntries (fuel : Nat) (isFirst : Bool) : Build Entries := do
  match fuel with
  | 0 => failure
  | fuel + 1 =>
    if ← accept .flowMappingEnd then return []
    if !isFirst then expect .flowEntry
    if ← accept .key then
      let key ← if ← isNext [.value, .flowEntry, .flowMappingEnd] then absent
        else node fuel false false
      let value ← flowValue fuel .flowMappingEnd
      return (key, value) :: (← flowEntries fuel false)
    else if ← accept .flowMappingEnd then return []
    else
      let key ← node fuel false false
      return (key, ← absent) :: (← flowEntries fuel false)

def flowValue (fuel : Nat) (close : Token) : Build Place := do
  match fuel with
  | 0 => failure
  | fuel + 1 =>
    if ← accept .value then
      if ← isNext [.flowEntry, close] then absent else node fuel false false
    else absent

end

/-! ## Documents -/

def directives (fuel : Nat) (versioned : Bool) (handles : Pairs String) : Build (Pairs String) := do
  match fuel with
  | 0 => failure
  | fuel + 1 =>
    match ← peek with
    | some (.directive (.version major)) =>
      drop
      if versioned || major != 1 then failure
      directives fuel true handles
    | some (.directive (.tag handle stem)) =>
      drop
      if handles.contains handle then failure
      directives fuel versioned (handles.insert handle stem)
    | some (.directive .other) =>
      drop
      directives fuel versioned handles
    | _ => return Tag.defaultHandles.merge handles

def skipDocumentEnds (fuel : Nat) : Build Unit := do
  match fuel with
  | 0 => return ()
  | fuel + 1 => if ← accept .documentEnd then skipDocumentEnds fuel

def documentContent (fuel : Nat) : Build Place := do
  match ← peek with
  | none | some .documentStart | some .documentEnd | some (.directive _) => absent
  | _ => node fuel true false

def document (fuel : Nat) : Build Place := do
  match ← peek with
  | none => absent
  | some .documentStart | some (.directive _) =>
    let handles ← directives fuel false ∅
    expect .documentStart
    modify fun p => { p with handles := handles }
    finish fuel (← documentContent fuel)
  | _ => finish fuel (← node fuel true false)
where
  finish (fuel : Nat) (root : Place) : Build Place := do
    skipDocumentEnds fuel
    if (← peek).isNone then return root
    let _ ← directives fuel false ∅
    failure

/-- The document that some tokens make; what they break comes before the flaw behind them. -/
def ofTokens (tokens : Tokens) : Found Document := do
  let (root, p) ← (document (4 * tokens.list.length + 4)).run
    { tokens := tokens.list, flaw := tokens.flaw }
  return ⟨p.nodes, root⟩

end Document

end HttpRouting.Yaml
