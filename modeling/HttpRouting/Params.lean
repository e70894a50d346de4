import HttpRouting.Pairs
import HttpRouting.Text.Quoted

/-!
# Captured parameters

The parameters of a matched route are a read-only map.  They are read by key,
or by attribute, where a parameter that was not captured reads as nothing; the
names of the map's own operations, and those under which it is described, do
not reach a parameter as attributes.
-/

namespace HttpRouting

structure Params where
  values : Pairs String
deriving DecidableEq, Repr

/-- Parameters are never changed, and a reserved name that is no operation has no value. -/
inductive ParamsError where
  | readOnly
  | noItemAssignment
  | noAttribute (name : String)
deriving DecidableEq, Repr

inductive Attribute where
  | value (v : Option String)
  | operation
  | all (values : Pairs String)
  | description
  | nothing
deriving DecidableEq, Repr

namespace Params

def item? (p : Params) (key : String) : Option String := p.values.find? key

def contains (p : Params) (key : String) : Bool := p.values.contains key

def size (p : Params) : Nat := p.values.size

/-- The map operations that hide parameters of the same name. -/
def operations : List String := ["get", "items", "keys", "values"]

def reservedOperations : List String :=
  ["__class__", "__class_getitem__", "__contains__", "__delattr__", "__dir__", "__eq__",
    "__format__", "__ge__", "__getattr__", "__getattribute__", "__getitem__", "__getstate__",
    "__gt__", "__init__", "__init_subclass__", "__iter__", "__le__", "__len__", "__lt__", "__ne__",
    "__new__", "__reduce__", "__reduce_ex__", "__repr__", "__setattr__", "__sizeof__", "__str__",
    "__subclasshook__"]

def descriptions : List String :=
  ["__abstractmethods__", "__doc__", "__module__", "__slots__", "_abc_impl"]

def reservedNothing : List String := ["__hash__", "__reversed__"]

def isReserved (name : String) : Bool := "__".toList.isPrefixOf name.toList

def readAttribute (p : Params) (name : String) : Except ParamsError Attribute :=
  if operations.contains name || reservedOperations.contains name then .ok .operation
  else if descriptions.contains name then .ok .description
  else if reservedNothing.contains name then .ok .nothing
  else if name = "_values" then .ok (.all p.values)
  else if isReserved name then .error (.noAttribute name)
  else .ok (.value (p.item? name))

/-! ## Comparison and text -/

def sameBindings (p q : Pairs String) : Bool :=
  p.size == q.size && p.entries.all fun entry => q.find? entry.1 == some entry.2

def quotedEntry (entry : String × String) : List Char :=
  Text.quoteChars entry.1.toList ++ ':' :: ' ' :: Text.quoteChars entry.2.toList

def quoted (p : Params) : String :=
  "RouteParams(" ++
    .ofList ('{' :: [',', ' '].intercalate (p.values.entries.map quotedEntry) ++ ['}', ')'])

end Params

def ParamsError.message : ParamsError → String
  | readOnly => "RouteParams is read-only"
  | noItemAssignment => "RouteParams does not support item assignment"
  | noAttribute name => name

end HttpRouting
