import HttpRouting.Action

/-!
# Routes

A route has methods, a URI template and an action, which never change, and a
name and constraints on its parameters, which may be given until the route is
frozen.
-/

namespace HttpRouting

structure Route where
  methods : List String
  uri : String
  action : Action
  name : Option String := none
  constraints : Pairs String := ∅
  frozen : Bool := false

inductive Constraint where
  | table (constraints : Pairs String)
  | single (param regex : Option String)
deriving DecidableEq, Repr

inductive RouteError where
  | frozen (uri : String)
  | named (uri name : String)
  | noConstraint
  | noConstraintFor (param : String)
deriving DecidableEq, Repr

def RouteError.message : RouteError → String
  | frozen uri => "Route `" ++ uri ++ "` can not be changed once the router has been used"
  | named uri name => "Route `" ++ uri ++ "` is already named `" ++ name ++ "`"
  | noConstraint => "No constraint given"
  | noConstraintFor param => "No constraint given for param `" ++ param ++ "`"

namespace Route

/-- A route with its methods in upper case and once each, and its URI without slashes at the ends. -/
def make (methods : List String) (uri : String) (action : Action) : Route where
  methods := (methods.map Text.upper).eraseDups
  uri := Path.trimSlashes uri
  action := action

/-- Names the route; a name that has been given stays. -/
def rename (r : Route) (name : Option String) : Except RouteError Route :=
  if r.frozen then .error (.frozen r.uri)
  else match r.name with
    | some given => .error (.named r.uri given)
    | none => .ok { r with name := name }

def constrain (r : Route) (c : Constraint) : Except RouteError Route :=
  if r.frozen then .error (.frozen r.uri)
  else match c with
    | .table constraints => .ok { r with constraints := r.constraints.merge constraints }
    | .single none _ => .error .noConstraint
    | .single (some param) none => .error (.noConstraintFor param)
    | .single (some param) (some regex) =>
      .ok { r with constraints := r.constraints.insert param regex }

def freeze (r : Route) : Route := { r with frozen := true }

def thaw (r : Route) : Route := { r with frozen := false }

def shown (r : Route) : String :=
  "Route(" ++ "|".intercalate r.methods ++ " " ++ Text.quote r.uri ++ ", name=" ++
    (r.name.map Text.quote).getD "None" ++ ")"

end Route

end HttpRouting
