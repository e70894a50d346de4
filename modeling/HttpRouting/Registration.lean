import HttpRouting.Group

/-!
# Registrations

A registration is a route with the names and constraints that it is given at
once.  Declarations are trees of registrations, in which a group gives its
path to all that it holds.  Read from top to bottom, a tree registers the same
routes as the list of its registrations with the paths joined.
-/

namespace HttpRouting

/-! ## Single registrations -/

inductive Adjustment where
  | name (name : Option String)
  | constraint (c : Constraint)

structure Registration where
  methods : List String
  uri : String
  target : Target
  adjustments : List Adjustment := []

namespace Router

def adjustRoute (r : Router) (place : Nat) : Adjustment → Except RouterError Router
  | .name name => r.nameRoute place name
  | .constraint c => r.constrainRoute place c

/-- Adjusts the route at a place; what succeeds before a failure stays. -/
def adjustAll (place : Nat) : List Adjustment → Router → Reply Unit
  | [], r => .ofChange r (.ok r)
  | a :: rest, r => (Reply.ofChange r (r.adjustRoute place a)).andThen fun _ r => adjustAll place rest r

def register (r : Router) (registration : Registration) : Reply Unit :=
  (Reply.ofChange r (r.map registration.methods registration.uri registration.target)).andThen
    fun _ next => adjustAll r.routes.length registration.adjustments next

def registerAll : List Registration → Router → Reply Unit
  | [], r => .ofChange r (.ok r)
  | registration :: rest, r => (r.register registration).andThen fun _ r => registerAll rest r

end Router

/-! ## Declarations -/

inductive Declaration where
  | route (registration : Registration)
  | group (path : String) (body : List Declaration)

namespace Group

def place (group : Option Group) (registration : Registration) : Registration :=
  match group with
  | none => registration
  | some g => { registration with uri := g.uri registration.uri }

def within (group : Option Group) (path : String) : Group :=
  match group with
  | none => make path
  | some g => g.nested path

end Group

namespace Declaration

mutual

def run (group : Option Group) : Declaration → Router → Reply Unit
  | route registration, r => r.register (Group.place group registration)
  | .group path body, r => runAll (some (Group.within group path)) body r

def runAll (group : Option Group) : List Declaration → Router → Reply Unit
  | [], r => .ofChange r (.ok r)
  | d :: rest, r => (d.run group r).andThen fun _ r => runAll group rest r

end

/-- Paths without slashes around them, joined by single slashes; empty ones are left out. -/
def joinPaths (paths : List String) : String :=
  "/".intercalate ((paths.map Path.trimSlashes).filter fun path => !path.isEmpty)

mutual

/-- The registrations in a declaration, under the paths of the groups around it. -/
def flatten (paths : List String) : Declaration → List Registration
  | route registration =>
    [{ registration with uri := joinPaths (paths ++ [registration.uri]) }]
  | .group path body => flattenAll (paths ++ [path]) body

def flattenAll (paths : List String) : List Declaration → List Registration
  | [] => []
  | d :: rest => d.flatten paths ++ flattenAll paths rest

end

end Declaration

end HttpRouting
