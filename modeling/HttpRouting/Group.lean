import HttpRouting.Router

/-!
# Groups

A group registers routes with a router under a common path.  A group within a
group has the paths of both.
-/

namespace HttpRouting

structure Group where
  path : String
deriving DecidableEq, Repr

namespace Group

def make (path : String) : Group := ⟨Path.trimSlashes path⟩

def uri (g : Group) (uri : String) : String := g.path ++ "/" ++ Path.trimSlashes uri

def nested (g : Group) (path : String) : Group := make (g.uri path)

def map (g : Group) (r : Router) (methods : List String) (uri : String) (target : Target) :
    Except RouterError Router :=
  r.map methods (g.uri uri) target

end Group

end HttpRouting
