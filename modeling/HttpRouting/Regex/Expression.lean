import HttpRouting.Regex.Reader
import HttpRouting.Regex.Tracker

/-!
# Compiled expressions

`Expression.read` turns text into an expression or says what is wrong with
it.  `fullMatch` matches an expression against the whole of a subject, with a
matcher where that is enough and with a tracker otherwise.
-/

namespace HttpRouting.Regex

structure Expression where
  node : Node
  flags : Flags
  names : List (String × Nat)
  /-- No shorter subject matches. -/
  least : Nat := 0
deriving DecidableEq, Repr

/-! ## Checks on the whole expression -/

def Greed.operatorName : Greed → String
  | .greedy => "MAX_REPEAT"
  | .lazy => "MIN_REPEAT"
  | .possessive => "POSSESSIVE_REPEAT"

def lookBehindFault? : Direction → Option Fault
  | .ahead => none
  | .behind least greatest => if least = greatest then none else some .lookBehindWidth

def Node.fault? (template : Bool) : Node → Option Fault
  | .seq first second => (first.fault? template).or (second.fault? template)
  | .alt first second => (first.fault? template).or (second.fault? template)
  | .loop greed _ _ body =>
    if template then some (.templateRepeat greed.operatorName) else body.fault? template
  | .group _ body => body.fault? template
  | .flagged _ _ body => body.fault? template
  | .atomic body => body.fault? template
  | .look direction _ body => (lookBehindFault? direction).or (body.fault? template)
  | .conditional _ present absent => (present.fault? template).or (absent.fault? template)
  | _ => none

def farthestLookBehind : Nat := 0x7fffffff

def Node.looksTooFar : Node → Bool
  | .seq first second | .alt first second | .conditional _ first second =>
    first.looksTooFar || second.looksTooFar
  | .loop _ _ _ body | .group _ body | .flagged _ _ body | .atomic body => body.looksTooFar
  | .look .ahead _ body => body.looksTooFar
  | .look (.behind width _) _ body => farthestLookBehind < width || body.looksTooFar
  | _ => false

/-! ## Reading -/

def Stop.toError (text : List Char) : Stop → Error
  | .fault cause index => .invalid cause (some (.ofIndex text index))
  | .boundTooLarge => .boundTooLarge
  | .boundTooLong digits => .boundTooLong digits
  | .codeTooLarge => .codeTooLarge
  | .tooDeep => .tooDeep

def Reader.start (text : List Char) : Except Stop (List Node × Source) := do
  let source ← Source.moveTo { rest := [] } text 0
  (Reader.alternatives (3 * text.length + 4) false true).run source

namespace Expression

def read (text : List Char) : Except Error Expression := do
  let (nodes, source) ← (Reader.start text).mapError (Stop.toError text)
  if source.flags.ascii && source.flags.unicode then throw .alphabetConflict
  if !source.rest.isEmpty then throw (.invalid .unbalanced (some (.ofIndex text source.index)))
  if let some (group, index) := source.conditions.find? fun c => source.groupCount ≤ c.1 then
    throw (.invalid (.noSuchGroup group) (some (.ofIndex text index)))
  let node := Node.ofList nodes
  if let some fault := node.fault? source.flags.template then throw (.invalid fault none)
  if node.looksTooFar then throw .lookBehindTooFar
  return {
    node := node
    flags := source.flags
    names := source.names.map fun (name, index) => (.ofList name, index)
    least := (node.width source.widths).least }

/-! ## Matching -/

def atEnd (c : Cursor) : Option Cursor := if c.after.isEmpty then some c else none

/-- The match that a trail stands for, in which no group ends before it begins. -/
def ofTrail (t : Trail) : Except Error Cursor :=
  if t.isCrossed then .error .crossedGroup else .ok t.toCursor

def fullMatch (e : Expression) (subject : List Char) : Except Error (Option Cursor) :=
  if e.node.needsTrail then
    if subject.length < e.least then .ok none else (e.node.trackWhole? e.flags subject).mapM ofTrail
  else .ok (e.node.run e.flags (.atStart subject) atEnd)

def matchesAll (e : Expression) (subject : List Char) : Except Error Bool :=
  (e.fullMatch subject).map Option.isSome

def captures (e : Expression) (c : Cursor) : List (String × List Char) :=
  e.names.filterMap fun (name, index) => (c.group? index).map (name, ·)

end Expression

end HttpRouting.Regex
