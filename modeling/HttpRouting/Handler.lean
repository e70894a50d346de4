import HttpRouting.Http.Request
import HttpRouting.Http.Response
import HttpRouting.Params

/-!
# Handlers

A handler is called with the captured parameters and the request, or with as
many of the two as its signature takes.  A call that the signature does not
admit fails before the handler runs.
-/

namespace HttpRouting

/-! ## Signatures -/

inductive ParameterKind where
  | positionalOnly
  | positional
  | variadic
  | keywordOnly
  | variadicKeyword
deriving DecidableEq, Repr

structure Parameter where
  kind : ParameterKind
  hasDefault : Bool := false
deriving DecidableEq, Repr

def ParameterKind.isPositional : ParameterKind → Bool
  | positionalOnly | positional => true
  | _ => false

abbrev Signature := List Parameter

namespace Signature

def positionals (s : Signature) : List Parameter := s.filter (·.kind.isPositional)

def isVariadic (s : Signature) : Bool := s.any (·.kind == .variadic)

/-- The number of positional arguments that are accepted; none when it is unbounded. -/
def arity (s : Signature) : Option Nat := if s.isVariadic then none else some s.positionals.length

def admits (s : Signature) (count : Nat) : Bool :=
  (s.isVariadic || count ≤ s.positionals.length) &&
    (s.positionals.drop count).all (·.hasDefault) &&
    s.all fun p => p.kind != .keywordOnly || p.hasDefault

end Signature

/-! ## Calls -/

structure Arguments where
  count : Nat
  params : Option Params
  request : Option Request
deriving Repr

def Arguments.take (count : Nat) (params : Params) (request : Request) : Arguments where
  count := min count 2
  params := if 1 ≤ count then some params else none
  request := if 2 ≤ count then some request else none

inductive Outcome where
  | response (r : Response)
  | value (v : Value)

structure Raised where
  kind : String
  text : Option String
deriving DecidableEq, Repr

structure Callable where
  signature : Signature
  /-- Whether the signature can be read; if not, both arguments are passed. -/
  readable : Bool := true
  body : Arguments → Except Raised Outcome

inductive CallError where
  | arguments
  | raised (failure : Raised)
deriving DecidableEq, Repr

namespace Callable

def arity (f : Callable) : Option Nat := if f.readable then f.signature.arity else none

def arguments (f : Callable) (params : Params) (request : Request) : Arguments :=
  .take (f.arity.getD 2) params request

def call (f : Callable) (args : Arguments) : Except CallError Outcome :=
  if f.signature.admits args.count then (f.body args).mapError .raised else .error .arguments

end Callable

/-- A callable with a label; `shown` is its form in messages. -/
structure Handler where
  label : String
  shown : String
  callable : Callable

end HttpRouting
