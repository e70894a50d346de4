import HttpRouting.Config.Settings
import HttpRouting.Http.Environ
import HttpRouting.Table

/-!
# Routers

Routes are registered first and compiled on first use; from then on the table
and its routes are frozen.  A change of the base path drops the table and thaws
the routes.  A failed build changes nothing but the numbers of the tags to come.
-/

namespace HttpRouting

structure Router where
  settings : Settings
  modules : Modules
  registry : Option Registry
  basePath : String
  routes : List Route := []
  compiler : Template.Compiler := {}
  table : Option Table := none

inductive RouterError where
  | tableFrozen
  | resolve (error : ResolveError)
  | route (error : RouteError)
  | table (error : TableError)
  | engine (error : EngineError)
  | noNamedRoute (name : String)
  | failedConstraint (route param value regex : String)
  | dispatch (error : Action.DispatchError)
  | environ (error : Http.EnvironError)
  | unsizedBody (error : Response.UnsizedBody)
  | basePathNotText (kind : String)
  /-- Bytes have slashes to take off, but not the slashes of a text. -/
  | basePathBytes
deriving DecidableEq, Repr

/-- What an operation answers, the router after it, and what else became known meanwhile. -/
structure Reply (α : Type) where
  result : Except RouterError α
  router : Router
  warnings : List Warning := []
  call : Option Action.Call := none

namespace Reply

variable {α β : Type}

def ofChange (r : Router) (changed : Except RouterError Router) : Reply Unit :=
  match changed with
  | .ok next => ⟨.ok (), next, [], none⟩
  | .error error => ⟨.error error, r, [], none⟩

def forget (reply : Reply α) : Reply Unit := { reply with result := reply.result.map fun _ => () }

def andThen (reply : Reply α) (next : α → Router → Reply β) : Reply β :=
  match reply.result with
  | .error error => { reply with result := .error error }
  | .ok answer =>
    let later := next answer reply.router
    { later with warnings := reply.warnings ++ later.warnings, call := reply.call.or later.call }

end Reply

namespace Router

/-! ## Making a router -/

def make (settings : Settings) (modules : Modules) (registry : Option Registry) :
    Except RouterError Router :=
  match settings.basePath with
  | .text path =>
    .ok {
      settings := settings
      modules := modules
      registry := registry
      basePath := Path.normalizeBase path }
  | .bytes _ => .error .basePathBytes
  | v => .error (.basePathNotText v.kindName)

def frozen (r : Router) : Bool := r.table.isSome

/-- Normalizes and sets the base path; a compiled table is dropped. -/
def setBasePath (r : Router) (path : String) : Router :=
  let r := { r with basePath := Path.normalizeBase path }
  if r.frozen then { r with table := none, routes := r.routes.map Route.thaw } else r

/-! ## Registering -/

def map (r : Router) (methods : List String) (uri : String) (target : Target) :
    Except RouterError Router :=
  if r.frozen then .error .tableFrozen
  else do
    let action ← (Action.resolve r.modules r.registry target).mapError .resolve
    return { r with routes := r.routes ++ [.make methods uri action] }

def changeRoute (r : Router) (place : Nat) (change : Route → Except RouteError Route) :
    Except RouterError Router :=
  match r.routes[place]? with
  | none => .ok r
  | some route => do
    let route ← (change route).mapError .route
    return { r with routes := r.routes.set place route }

def nameRoute (r : Router) (place : Nat) (name : Option String) : Except RouterError Router :=
  r.changeRoute place (·.rename name)

def constrainRoute (r : Router) (place : Nat) (c : Constraint) : Except RouterError Router :=
  r.changeRoute place (·.constrain c)

def freezeRoute (r : Router) (place : Nat) : Router :=
  { r with routes := r.routes.modify place Route.freeze }

def thawRoute (r : Router) (place : Nat) : Router :=
  { r with routes := r.routes.modify place Route.thaw }

def has (r : Router) (name : Option String) : Bool := r.routes.any fun route => route.name == name

/-! ## Compiling -/

def build (r : Router) : Reply Table :=
  match r.table with
  | some table => ⟨.ok table, r, [], none⟩
  | none =>
    match Table.build r.routes r.basePath r.compiler with
    | (.error error, compiler) => ⟨.error (.table error), { r with compiler := compiler }, [], none⟩
    | (.ok table, compiler) =>
      let r := { r with
        compiler := compiler
        table := some table
        routes := r.routes.map Route.freeze }
      ⟨.ok table, r, table.warnings, none⟩

/-! ## Using the table -/

def find (r : Router) (method path : String) : Reply (Option Found) :=
  r.build.andThen fun table r => ⟨(table.find method path).mapError .engine, r, [], none⟩

def named? (r : Router) (name : String) : Option Route :=
  r.routes.reverse.find? fun route => route.name == some name

def checkConstraints (constraints : Pairs String) (name : String) :
    List (String × Value) → Except RouterError Unit
  | [] => .ok ()
  | (param, value) :: rest =>
    match (constraints.find? param).filter fun regex => !regex.isEmpty && !value.isNull with
    | none => checkConstraints constraints name rest
    | some regex => do
      if ← (Engine.matchesType regex value.plain).mapError .engine then
        checkConstraints constraints name rest
      else throw (.failedConstraint name param value.plain regex)

def generate (table : Table) (name : String) (params : Pairs Value) : Except RouterError String :=
  match table.generate name params with
  | .ok url => .ok url
  | .error (.pattern _) => .error (.noNamedRoute name)
  | .error error => .error (.engine error)

def url (r : Router) (name : String) (params : Pairs Value) : Reply String :=
  r.build.andThen fun table r =>
    let constraints := ((r.named? name).map Route.constraints).getD ∅
    let result := do
      checkConstraints constraints name params.entries
      generate table name params
    ⟨result, r, [], none⟩

/-! ## Answering requests -/

def valueBody : Value → List UInt8
  | .null => []
  | .bytes content => content
  | v => Text.encodeUtf8 v.plain.toList

def wrap (r : Router) : Outcome → Response
  | .response response => response
  | .value v =>
    { body := .bytes (valueBody v), headers := ⟨[("Content-Type", r.settings.contentType)]⟩ }

def notFound (r : Router) : Response := .plain r.settings.notFoundBody 404 ∅

def respond (r : Router) (request : Request) : Reply Response :=
  (r.find request.method request.path).andThen fun found r =>
    match found.bind fun found => (r.routes[found.route]?).map (·, found.params) with
    | none => ⟨.ok r.notFound, r, [], none⟩
    | some (route, params) =>
      let dispatched := route.action.dispatch params request
      ⟨(dispatched.outcome.map r.wrap).mapError .dispatch, r, [], dispatched.call⟩

def serve (r : Router) (environ : Http.Environ) : Reply Response.Sent :=
  match environ.request with
  | .error error => ⟨.error (.environ error), r, [], none⟩
  | .ok request =>
    (r.respond request).andThen fun response r =>
      ⟨response.send.mapError .unsizedBody, r, [], none⟩

end Router

namespace RouterError

/-- The text of an error, unless it is one of a handler that is not told. -/
def message? : RouterError → Option String
  | tableFrozen => "Routes can not be added once the router has been used"
  | resolve error => error.message
  | route error => error.message
  | table error => error.message
  | engine error => error.message
  | noNamedRoute name => "No named route `" ++ name ++ "` could be generated"
  | failedConstraint name param value regex =>
    "Value `" ++ value ++ "` for param `" ++ param ++ "` of route `" ++ name ++
      "` fails constraint `" ++ regex ++ "`"
  | dispatch error => error.message?
  | environ error => error.message
  | unsizedBody error => error.message
  | basePathNotText kind => Value.missingAttribute kind "rstrip"
  | basePathBytes => "a bytes-like object is required, not 'str'"

end RouterError

end HttpRouting
