import HttpRouting.Registration

/-!
# Operations on routers

All that can be done to a router, as data.  A run is a list of operations,
performed one after the other whether they succeed or not; the reachable
routers are those that runs from a new router lead to.
-/

namespace HttpRouting

inductive Operation where
  | map (methods : List String) (uri : String) (target : Target)
  | adjust (place : Nat) (adjustment : Adjustment)
  | setBasePath (path : String)
  | build
  | find (method path : String)
  | url (name : String) (params : Pairs Value)
  | respond (request : Request)
  | serve (environ : Http.Environ)

namespace Operation

def perform (operation : Operation) (r : Router) : Reply Unit :=
  match operation with
  | map methods uri target => .ofChange r (r.map methods uri target)
  | adjust place adjustment => .ofChange r (r.adjustRoute place adjustment)
  | setBasePath path => .ofChange r (.ok (r.setBasePath path))
  | build => r.build.forget
  | find method path => (r.find method path).forget
  | url name params => (r.url name params).forget
  | respond request => (r.respond request).forget
  | serve environ => (r.serve environ).forget

end Operation

namespace Router

def after (r : Router) (run : List Operation) : Router :=
  run.foldl (fun r operation => (operation.perform r).router) r

inductive Reachable : Router → Prop
  | new {settings : Settings} {modules : Modules} {registry : Option Registry} {r : Router} :
      make settings modules registry = .ok r → Reachable r
  | perform {r : Router} (operation : Operation) :
      Reachable r → Reachable (operation.perform r).router

theorem Reachable.after {r : Router} (h : Reachable r) (run : List Operation) :
    Reachable (r.after run) := by
  induction run generalizing r with
  | nil => exact h
  | cons operation rest ih => exact ih (h.perform operation)

end Router

end HttpRouting
