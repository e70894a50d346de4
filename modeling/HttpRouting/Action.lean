import HttpRouting.Controller
import HttpRouting.Text.Blank

/-!
# Actions

A route is registered with a handler, with text of the form `Class@method`, or
with some other value.  Text is resolved at once to a controller and one of its
methods; any other value is kept and fails when the route is dispatched.
-/

namespace HttpRouting

inductive Target where
  | handler (h : Handler)
  | value (v : Value)

inductive Action where
  | direct (h : Handler)
  | method (c : Controller) (name : String)
  | other (v : Value)

inductive ResolveError where
  | unreadable (action : String)
  | controllerNotFound (path : String)
  | methodNotFound (path method : String)
  /-- The path is relative, and there is nothing it is relative to. -/
  | relativePath (path : String)
  /-- The registered name stands for an object, which has no name of its own. -/
  | unnamed (kind : String)
deriving DecidableEq, Repr

namespace Action

/-! ## Reading action text -/

def split? (s : List Char) : Option (List Char × List Char) :=
  match Http.splitOn '@' s with
  | [left, right] =>
    let path := Text.trimBlank left
    let name := Text.trimBlank right
    if path.isEmpty || name.isEmpty then none else some (path, name)
  | _ => none

def splitLastDot (s : List Char) : List Char × List Char :=
  let last := (s.reverse.takeWhile (· != '.')).reverse
  if s.contains '.' then (s.take (s.length - last.length - 1), last) else ([], s)

end Action

def ResolveError.message : ResolveError → String
  | unreadable action => "Could not parse route controller from string: `" ++ action ++ "`"
  | controllerNotFound path => "Could not find route controller class: `" ++ path ++ "`"
  | methodNotFound path method =>
    "Route controller class: `" ++ path ++ "` does not have a `" ++ method ++ "` method"
  | relativePath path =>
    "the 'package' argument is required to perform a relative import for " ++
      .ofList (Text.quoteChars (Action.splitLastDot path.toList).1)
  | unnamed kind => Value.missingAttribute kind "__qualname__"

namespace Action

/-! ## Resolving -/

def findInModules (modules : Modules) (path : List Char) : Except ResolveError Controller :=
  let (moduleName, className) := splitLastDot path
  let notFound : Except ResolveError Controller := .error (.controllerNotFound (.ofList path))
  if moduleName.isEmpty then notFound
  else if moduleName.head? = some '.' then .error (.relativePath (.ofList path))
  else match (modules.find? (.ofList moduleName)).bind (·.find? (.ofList className)) with
    | some (.controller c) => .ok c
    | _ => notFound

def ofRegistered (path name : String) (entry : Registered) : Except ResolveError Action :=
  if entry.offers name then
    match entry with
    | .controller c => .ok (.method c name)
    | .object r => .error (.unnamed r.kind)
  else .error (.methodNotFound path name)

def ofText (modules : Modules) (registry : Option Registry) (text : String) :
    Except ResolveError Action :=
  match split? text.toList with
  | none => .error (.unreadable text)
  | some (path, name) =>
    match registry.bind (·.find? (.ofList path)) with
    | some entry => ofRegistered (.ofList path) (.ofList name) entry
    | none => do
      let c ← findInModules modules path
      ofRegistered (.ofList path) (.ofList name) (.controller c)

def resolve (modules : Modules) (registry : Option Registry) : Target → Except ResolveError Action
  | .handler h => .ok (.direct h)
  | .value (.text s) => ofText modules registry s
  | .value v => .ok (.other v)

/-! ## Dispatching -/

structure Call where
  handler : String
  arguments : Arguments
deriving Repr

inductive DispatchError where
  | notCallable (shown : String)
  | noMethod (kind name : String)
  | call (error : CallError)
deriving DecidableEq, Repr

/-- The text for arguments that do not fit names a signature in full, and is left out. -/
def DispatchError.message? : DispatchError → Option String
  | notCallable shown => "Route target is not callable: " ++ shown
  | noMethod kind name => Value.missingAttribute kind name
  | call .arguments => none
  | call (.raised failure) => failure.text

structure Dispatched where
  call : Option Call
  outcome : Except DispatchError Outcome

def dispatchMethod (c : Controller) (name : String) (params : Params) (request : Request) :
    Except DispatchError Outcome :=
  match c.receiver? with
  | none => .error (.call .arguments)
  | some r =>
    match r.method? name with
    | none => .error (.noMethod r.kind name)
    | some f => (f.call (f.arguments params request)).mapError .call

def dispatch (action : Action) (params : Params) (request : Request) : Dispatched :=
  match action with
  | direct h =>
    let args := h.callable.arguments params request
    { call := if h.callable.signature.admits args.count then some ⟨h.label, args⟩ else none
      outcome := (h.callable.call args).mapError .call }
  | method c name => ⟨none, dispatchMethod c name params request⟩
  | other v => ⟨none, .error (.notCallable v.quoted)⟩

/-! ## Text -/

def kindName : Action → String
  | direct _ => "DirectHandler"
  | method _ _ => "ResolvedMethod"
  | other v => v.kindName

def shown : Action → String
  | direct h => "DirectHandler(" ++ h.shown ++ ")"
  | method c name => "ResolvedMethod(" ++ c.name ++ "@" ++ name ++ ")"
  | other v => v.quoted

end Action

end HttpRouting
