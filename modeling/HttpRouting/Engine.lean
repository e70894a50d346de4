import HttpRouting.Path
import HttpRouting.Pattern
import HttpRouting.Regex.Expression
import HttpRouting.Text.Case
import HttpRouting.Value

/-!
# Pattern engines

An engine holds an ordered list of patterns, each for some methods and with a
target.  Matching finds the first entry that fits a method and the part of a
path below the base path; generating fills the pattern of a named entry.  The
types of blocks are bound to regular expressions, which a pattern uses as they
stand when it is first registered.
-/

namespace HttpRouting

/-! ## Errors -/

inductive PatternError where
  | unknownType (type pattern : String)
  | invalid (pattern : String) (error : Regex.Error)
  | unknownRoute (name : String)
  | missingValue (name param : String)
  | unfitValue (name param value : String)
deriving DecidableEq, Repr

def PatternError.message : PatternError → String
  | unknownType type pattern =>
    "Unknown match type `" ++ type ++ "` in pattern `" ++ pattern ++ "`"
  | invalid pattern error => "Pattern `" ++ pattern ++ "` does not compile: " ++ error.message
  | unknownRoute name => "Route `" ++ name ++ "` does not exist"
  | missingValue name param => "Route `" ++ name ++ "` requires a value for `" ++ param ++ "`"
  | unfitValue name param value =>
    "Value `" ++ value ++ "` for `" ++ param ++ "` does not fit route `" ++ name ++ "`"

inductive EngineError where
  | pattern (error : PatternError)
  | regex (error : Regex.Error)
  | foreignGroup (name : String)
deriving DecidableEq, Repr

def EngineError.message : EngineError → String
  | pattern error => error.message
  | regex error => error.message
  | foreignGroup name => Text.quote name

/-! ## Engines -/

namespace Engine

/-- The types that every engine begins with; the empty one is any segment. -/
def defaultTypes : Pairs String :=
  ⟨[("", "[^/]+"), ("i", "[0-9]+"), ("a", "[0-9A-Za-z]+"), ("h", "[0-9A-Fa-f]+")]⟩

structure CompiledPattern where
  expression : Regex.Expression
  params : Pairs String
deriving DecidableEq, Repr

structure Entry (α : Type) where
  methods : List String
  pattern : String
  compiled : CompiledPattern
  target : α
  name : Option String

structure Hit (α : Type) where
  target : α
  params : Pairs String
  name : Option String

end Engine

open Engine in
structure Engine (α : Type) where
  basePath : String := "/"
  types : Pairs String := defaultTypes
  entries : List (Entry α) := []
  named : Pairs (Entry α) := ∅
  compiled : Pairs CompiledPattern := ∅

namespace Engine

variable {α : Type}

/-! ## Compiling patterns -/

def groupName (index : Nat) : String := "p" ++ toString index

def blockRegex (block : Pattern.Block) (index : Nat) (type : String) : List Char :=
  let group := Regex.quoteMeta block.lead.toList ++ "(?P<".toList ++ (groupName index).toList ++
    ">(?:".toList ++ type.toList ++ "))".toList
  if block.optional then "(?:".toList ++ group ++ ")?".toList else group

def patternRegex (types : Pairs String) (pattern : String) :
    Nat → List Pattern.Piece → Except PatternError (List Char × List (String × String))
  | _, [] => .ok ([], [])
  | index, .literal c :: rest => do
    let (regex, params) ← patternRegex types pattern index rest
    return (Regex.quoteMeta [c] ++ regex, params)
  | index, .block b :: rest =>
    match types.find? b.type with
    | none => .error (.unknownType b.type pattern)
    | some type => do
      let (regex, params) ← patternRegex types pattern (index + 1) rest
      return (blockRegex b index type ++ regex, (groupName index, b.param) :: params)

def blame (pattern : String) : Regex.Error → EngineError
  | .invalid cause position => .pattern (.invalid pattern (.invalid cause position))
  | error => .regex error

def compileAfresh (types : Pairs String) (pattern : String) :
    Except EngineError CompiledPattern := do
  let (regex, params) ←
    (patternRegex types pattern 0 (Pattern.scan pattern.toList)).mapError .pattern
  let expression ← (Regex.Expression.read regex).mapError (blame pattern)
  return ⟨expression, .ofList params⟩

def compile (e : Engine α) (pattern : String) : Except EngineError (CompiledPattern × Engine α) :=
  match e.compiled.find? pattern with
  | some compiled => .ok (compiled, e)
  | none => do
    let compiled ← compileAfresh e.types pattern
    return (compiled, { e with compiled := e.compiled.insert pattern compiled })

/-! ## Registering -/

def addTypes (e : Engine α) (types : Pairs String) : Engine α :=
  { e with types := e.types.merge types }

/-- Appends an entry; an engine whose pattern does not compile stays as it is. -/
def map (e : Engine α) (methods : List String) (pattern : String) (target : α)
    (name : Option String) : Except EngineError (Engine α) := do
  let (compiled, e) ← e.compile pattern
  let entry : Entry α := ⟨methods.map Text.upper, pattern, compiled, target, name⟩
  let named := match name with
    | none => e.named
    | some name => e.named.insert name entry
  return { e with entries := e.entries ++ [entry], named := named }

/-! ## Matching -/

def trimFinalSlashes (s : List Char) : List Char :=
  (s.reverse.dropWhile (· == '/')).reverse

/-- The part of a path below the base path; the base path may lack its slash. -/
def remainder? (basePath path : List Char) : Option (List Char) :=
  match basePath.isPrefixOf? path with
  | some rest => some rest
  | none => if path = trimFinalSlashes basePath then some [] else none

/-- The parameter behind a captured group; a group that belongs to no block has none. -/
def paramOf (params : Pairs String) (capture : String × List Char) :
    Except EngineError (String × String) :=
  match params.find? capture.1 with
  | some param => .ok (param, .ofList capture.2)
  | none => .error (.foreignGroup capture.1)

namespace Entry

def fits? (entry : Entry α) (method : String) (rest : List Char) :
    Except EngineError (Option Regex.Cursor) :=
  if entry.methods.contains method then
    (entry.compiled.expression.fullMatch rest).mapError .regex
  else .ok none

def hit (entry : Entry α) (cursor : Regex.Cursor) : Except EngineError (Hit α) := do
  let params ← (entry.compiled.expression.captures cursor).mapM (paramOf entry.compiled.params)
  return ⟨entry.target, .ofList params, entry.name⟩

end Entry

def firstHit (method : String) (rest : List Char) :
    List (Entry α) → Except EngineError (Option (Hit α))
  | [] => .ok none
  | entry :: entries => do
    match ← entry.fits? method rest with
    | some cursor => (entry.hit cursor).map some
    | none => firstHit method rest entries

def lookup (e : Engine α) (path method : String) : Except EngineError (Option (Hit α)) :=
  match remainder? e.basePath.toList path.toList with
  | none => .ok none
  | some rest => firstHit (Text.upper method) rest e.entries

/-! ## Generating -/

def matchesType (regex value : String) : Except EngineError Bool := do
  let expression ← (Regex.Expression.read regex.toList).mapError .regex
  (expression.matchesAll value.toList).mapError .regex

/-- The value given for a parameter; null counts as none. -/
def givenValue? (params : Pairs Value) (param : String) : Option Value :=
  (params.find? param).filter fun v => !v.isNull

def fillBlock (types : Pairs String) (name : String) (params : Pairs Value) (block : Pattern.Block) :
    Except EngineError (List Char) :=
  match givenValue? params block.param with
  | some value =>
    match types.find? block.type with
    | none => .error (.pattern (.unknownType block.type name))
    | some regex => do
      if ← matchesType regex value.plain then
        return block.lead.toList ++ value.plain.toList
      else throw (.pattern (.unfitValue name block.param value.plain))
  | none =>
    if block.optional then .ok []
    else .error (.pattern (.missingValue name block.param))

def fillPieces (types : Pairs String) (name : String) (params : Pairs Value) :
    List Pattern.Piece → Except EngineError (List Char)
  | [] => .ok []
  | .literal c :: rest => (fillPieces types name params rest).map (c :: ·)
  | .block b :: rest => do
    let text ← fillBlock types name params b
    return text ++ (← fillPieces types name params rest)

def generate (e : Engine α) (name : String) (params : Pairs Value) : Except EngineError String :=
  match e.named.find? name with
  | none => .error (.pattern (.unknownRoute name))
  | some entry => do
    let text ← fillPieces e.types name params (Pattern.scan entry.pattern.toList)
    return e.basePath ++ .ofList text

end Engine

end HttpRouting
