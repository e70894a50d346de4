import HttpRouting.Handler

/-!
# Controllers

A controller offers handlers by name.  It makes a receiver afresh for every
call, and the handler is looked up once more on the receiver, which may have
callables of its own and may lack some that the controller offers.
Controllers are found in a registry by name, or in modules by dotted path.
-/

namespace HttpRouting

structure Receiver where
  kind : String
  methods : Pairs Callable

structure Controller where
  name : String
  offered : List String
  /-- What is made for a call, unless making it needs arguments. -/
  receiver? : Option Receiver

namespace Receiver

def method? (r : Receiver) (name : String) : Option Callable := r.methods.find? name

def hasMethod (r : Receiver) (name : String) : Bool := r.methods.contains name

end Receiver

def Controller.offers (c : Controller) (name : String) : Bool := c.offered.contains name

/-! ## Where controllers are found -/

/-- What a registered name may stand for; only a controller is meant to. -/
inductive Registered where
  | controller (c : Controller)
  | object (r : Receiver)

def Registered.offers : Registered → String → Bool
  | controller c, name => c.offers name
  | object r, name => r.hasMethod name

structure Registry where
  entries : Pairs Registered := ∅

namespace Registry

def ofList (entries : List (String × Registered)) : Registry := ⟨.ofList entries⟩

def insert (r : Registry) (name : String) (entry : Registered) : Registry :=
  ⟨r.entries.insert name entry⟩

/-- Registers what is given; a name without an entry is not taken up. -/
def register (r : Registry) (name : String) (entry : Option Registered) : Registry :=
  (entry.map (r.insert name)).getD r

def contains (r : Registry) (name : String) : Bool := r.entries.contains name

def find? (r : Registry) (name : String) : Option Registered := r.entries.find? name

end Registry

inductive Member where
  | controller (c : Controller)
  | other

abbrev Modules := Pairs (Pairs Member)

end HttpRouting
