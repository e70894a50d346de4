import HttpRouting.Config.Yaml.Document
import HttpRouting.Config.Yaml.Literal

/-!
# Making values

The value of every node is made at most once.  A scalar is read as soon as its
node is met.  A collection is empty at first and waits, and the waiting ones
are filled in the order in which they were met, so that a collection may
contain itself.  What is made refers to the places of its parts.
-/

namespace HttpRouting.Yaml

inductive Made where
  | scalar (v : Value)
  | list (items : List Place)
  | table (entries : List (Value × Place))
  | set (members : List Value)
  | pairs (entries : Entries)
deriving Repr

namespace Made

def key? : Made → Option Value
  | scalar v => some v
  | _ => none

end Made

/-- What is known of a document: its nodes, what has been made of them, and which ones wait, latest first. -/
structure Making where
  nodes : Array Node
  made : Array (Option Made)
  waiting : List Place := []

abbrev Maker := StateT Making (Except Error)

namespace Making

def ofDocument (d : Document) : Making := ⟨d.nodes, Array.replicate d.nodes.size none, []⟩

/-- More steps than merging and nesting can take. -/
def size (m : Making) : Nat :=
  m.nodes.foldl (fun total n =>
    match n.content with
    | .mapping entries => total + entries.length + 1
    | _ => total + 1) 1

end Making

namespace Maker

def node (place : Place) : Maker Node := do
  match (← get).nodes[place]? with
  | some n => return n
  | none => throw .malformed

def setNode (place : Place) (n : Node) : Maker Unit :=
  modify fun m => { m with nodes := m.nodes.setIfInBounds place n }

def setMade (place : Place) (made : Made) : Maker Unit :=
  modify fun m => { m with made := m.made.setIfInBounds place (some made) }

def made? (place : Place) : Maker (Option Made) := return ((← get).made[place]?).join

def entries (place : Place) : Maker Entries := do
  match (← node place).content with
  | .mapping entries => return entries
  | _ => throw .malformed

def items (place : Place) : Maker (List Place) := do
  match (← node place).content with
  | .sequence items => return items
  | _ => throw .malformed

/-! ## Merging -/

def setEntries (place : Place) (entries : Entries) : Maker Unit := do
  setNode place { (← node place) with content := .mapping entries }

def splitAtMerge : Entries → Maker (Entries × Entries)
  | [] => return ([], [])
  | (key, value) :: rest => do
    let n ← node key
    if n.kind == .merge then return ([], (key, value) :: rest)
    if n.kind == .value then setNode key { n with kind := .text }
    let (before, others) ← splitAtMerge rest
    return ((key, value) :: before, others)

mutual

def flatten (fuel : Nat) (place : Place) : Maker Unit := do
  match fuel with
  | 0 => throw .malformed
  | fuel + 1 =>
    let merged ← mergedFrom fuel place 0
    setEntries place (merged ++ (← entries place))

def mergedFrom (fuel : Nat) (place : Place) (start : Nat) : Maker Entries := do
  match fuel with
  | 0 => throw .malformed
  | fuel + 1 =>
    let all ← entries place
    let (before, others) ← splitAtMerge (all.drop start)
    match others with
    | [] => return []
    | (_, provider) :: after =>
      setEntries place (all.take start ++ before ++ after)
      let provided ← provided fuel provider
      return provided ++ (← mergedFrom fuel place (start + before.length))

/-- The entries that a mapping provides, or a sequence of mappings, of which the first ones win. -/
def provided (fuel : Nat) (provider : Place) : Maker Entries := do
  match fuel with
  | 0 => throw .malformed
  | fuel + 1 =>
    match (← node provider).content with
    | .scalar _ => throw .malformed
    | .mapping _ =>
      flatten fuel provider
      entries provider
    | .sequence items =>
      items.foldlM (fun collected item => do
        let _ ← entries item
        flatten fuel item
        return (← entries item) ++ collected) []

end

/-! ## Scalars -/

def ownText (fuel : Nat) (place : Place) : Maker (List Char) := do
  match fuel with
  | 0 => throw .malformed
  | fuel + 1 =>
    match (← node place).content with
    | .scalar text => return text
    | .sequence _ => throw .malformed
    | .mapping entries =>
      match ← entries.findM? fun entry => return (← node entry.1).kind == .value with
      | some (_, item) => ownText fuel item
      | none => throw .malformed

def scalarValue (kind : Kind) (scalar : Bool) (text : List Char) : Except Error Value :=
  match kind with
  | .null => .ok .null
  | .bool => (Literal.bool text).map .bool
  | .int => (Literal.int text).map .int
  | .float => (Literal.float text).map .float
  | .text => .ok (.text (.ofList text))
  | .moment => if scalar then Literal.moment text else .error .momentInMapping
  | .binary => Literal.binary text
  | .merge | .value | .sequence | .mapping | .set | .pairs | .unknown => .error .malformed

/-! ## Collections -/

def unfilled? : Kind → Option Made
  | .sequence => some (.list [])
  | .mapping => some (.table [])
  | .set => some (.set [])
  | .pairs => some (.pairs [])
  | _ => none

def make (place : Place) : Maker Made := do
  if let some made ← made? place then return made
  let n ← node place
  let made ← match unfilled? n.kind with
    | some made =>
      modify fun m => { m with waiting := place :: m.waiting }
      pure made
    | none =>
      if n.kind matches .merge | .value | .unknown then throw .malformed
      let text ← ownText ((← get).nodes.size + 1) place
      pure (.scalar (← scalarValue n.kind (n.content matches .scalar _) text))
  setMade place made
  return made

def sameKey (a b : Value) : Bool :=
  match a, b with
  | .null, .null => true
  | .text s, .text t => s == t
  | .moment m, .moment n => m.same n
  | .bytes s, .bytes t => s == t
  | .float x, .float y => x == y || x.isNaN && y.isNaN
  | .float x, n | n, .float x => (Decimal.whole? x).isSome && Decimal.whole? x == whole? n
  | a, b => (whole? a).isSome && whole? a == whole? b
where
  whole? : Value → Option Int
    | .bool b => some (if b then 1 else 0)
    | .int n => some n
    | _ => none

def insertEntry (key : Value) (value : Place) : List (Value × Place) → List (Value × Place)
  | [] => [(key, value)]
  | entry :: rest =>
    if sameKey entry.1 key then (entry.1, value) :: rest else entry :: insertEntry key value rest

def makeEntries (place : Place) : Maker (List (Value × Place)) := do
  let _ ← entries place
  flatten (3 * (← get).size) place
  (← entries place).foldlM (fun table (key, value) => do
    match (← make key).key? with
    | none => throw .malformed
    | some name =>
      let _ ← make value
      return insertEntry name value table) []

def makePair (place : Place) : Maker (Place × Place) := do
  match ← entries place with
  | [(key, value)] =>
    let _ ← make key
    let _ ← make value
    return (key, value)
  | _ => throw .malformed

def fill (place : Place) : Maker Unit := do
  match (← node place).kind with
  | .sequence =>
    let items ← items place
    items.forM fun item => do
      let _ ← make item
    setMade place (.list items)
  | .mapping => setMade place (.table (← makeEntries place))
  | .set => setMade place (.set ((← makeEntries place).map Prod.fst))
  | .pairs => setMade place (.pairs (← (← items place).mapM makePair))
  | _ => return ()

def fillAll : Nat → Maker Unit
  | 0 => return ()
  | fuel + 1 => do
    let waiting := (← get).waiting.reverse
    if waiting.isEmpty then return ()
    modify fun m => { m with waiting := [] }
    waiting.forM fill
    fillAll fuel

def makeAll (root : Place) : Maker Unit := do
  let _ ← make root
  fillAll ((← get).nodes.size + 1)

end Maker

end HttpRouting.Yaml
