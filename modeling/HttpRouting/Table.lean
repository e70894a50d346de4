import HttpRouting.Engine
import HttpRouting.Route
import HttpRouting.Template
import HttpRouting.Warning

/-!
# Compiled route tables

A table is a snapshot of some routes, ready for matching.  Every route is
registered with the engine twice, in the form with a slash at the end, which
carries the name, and in the form without, so that both spellings of a path
find it.  A route is known by its place in the list.
-/

namespace HttpRouting

structure Table where
  basePath : String
  routes : List Route
  engine : Engine Nat

inductive TableError where
  | invalidRoute (uri : String) (cause : PatternError)
  | engine (error : EngineError)
deriving DecidableEq, Repr

def TableError.reason : TableError → String
  | invalidRoute _ cause => cause.message
  | engine error => error.message

def TableError.message : TableError → String
  | invalidRoute uri cause =>
    "Route `" ++ uri ++ "` could not be compiled: " ++ cause.message
  | engine error => error.message

structure Found where
  route : Nat
  params : Params
deriving DecidableEq, Repr

namespace Table

def blame (uri : String) : EngineError → TableError
  | .pattern cause => .invalidRoute uri cause
  | error => .engine error

def addForms (engine : Engine Nat) (place : Nat) (route : Route) (compiled : Template.Compiled) :
    Except EngineError (Engine Nat) := do
  let engine ← (engine.addTypes compiled.types).map route.methods compiled.canonical place route.name
  engine.map route.methods compiled.bare place none

/-- Registers routes from a place on.  The tags that were handed out stay so even in failure. -/
def addRoutes (place : Nat) :
    List Route → Engine Nat → Template.Compiler → Except TableError (Engine Nat) × Template.Compiler
  | [], engine, compiler => (.ok engine, compiler)
  | route :: rest, engine, compiler =>
    let (compiled, compiler) := compiler.compile route.uri route.constraints
    match addForms engine place route compiled with
    | .ok engine => addRoutes (place + 1) rest engine compiler
    | .error error => (.error (blame route.uri error), compiler)

def build (routes : List Route) (basePath : String) (compiler : Template.Compiler) :
    Except TableError Table × Template.Compiler :=
  let (engine, compiler) := addRoutes 0 routes { basePath := basePath } compiler
  (engine.map fun engine => ⟨basePath, routes, engine⟩, compiler)

def find (t : Table) (method path : String) : Except EngineError (Option Found) :=
  (t.engine.lookup path method).map fun hit => hit.map fun hit => ⟨hit.target, ⟨hit.params⟩⟩

def generate (t : Table) (name : String) (params : Pairs Value) : Except EngineError String :=
  t.engine.generate name params

/-! ## Shared names -/

def names (routes : List Route) : List String :=
  routes.filterMap fun route => route.name.filter fun name => !name.isEmpty

def warnings (t : Table) : List Warning :=
  ((names t.routes).eraseDups.filter fun name => 1 < (names t.routes).count name).map fun name =>
    .sharedName name ((names t.routes).count name)

end Table

end HttpRouting
