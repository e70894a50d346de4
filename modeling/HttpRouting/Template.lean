import HttpRouting.Pairs
import HttpRouting.Path
import HttpRouting.Text.Blank

/-!
# URI templates

A template is text with tokens such as `{name}` and `{name?}`, where blanks
may stand inside the braces.  Compiling a template writes a bracketed pattern
in which a token with a constraint gets a tag of its own, and binds the tag to
the constraint.
-/

namespace HttpRouting.Template

/-! ## Scanning -/

structure Token where
  name : String
  optional : Bool
deriving DecidableEq, Repr

def isNameChar (c : Char) : Bool := c.isAlphanum || c == '_'

def tokenEnd? (s : List Char) : Option (Bool × List Char) :=
  let (optional, rest) := match s with
    | '?' :: rest => (true, rest)
    | rest => (false, rest)
  match rest.dropWhile Text.isBlank with
  | '}' :: rest => some (optional, rest)
  | _ => none

def token? : List Char → Option (Token × List Char)
  | '{' :: rest =>
    let inner := rest.dropWhile Text.isBlank
    let name := inner.takeWhile isNameChar
    if name.isEmpty then none
    else (tokenEnd? (inner.dropWhile isNameChar)).map fun (optional, rest) =>
      (⟨.ofList name, optional⟩, rest)
  | _ => none

theorem tokenEnd?_length {s rest : List Char} {optional : Bool}
    (h : tokenEnd? s = some (optional, rest)) : rest.length < s.length := by
  have blanks (t : List Char) : (t.dropWhile Text.isBlank).length ≤ t.length :=
    (List.dropWhile_suffix _).length_le
  unfold tokenEnd? at h
  split at h
  next o t ht =>
    split at h
    next u hu =>
      have := congrArg List.length hu
      have := blanks t
      simp only [Option.some.injEq, Prod.mk.injEq] at h
      split at ht <;> grind
    next => simp at h

theorem token?_length {s rest : List Char} {token : Token}
    (h : token? s = some (token, rest)) : rest.length < s.length := by
  unfold token? at h
  split at h
  next t =>
    dsimp only at h
    split at h
    next => simp at h
    next =>
      obtain ⟨⟨optional, u⟩, hu, heq⟩ := Option.map_eq_some_iff.1 h
      have := tokenEnd?_length hu
      have := (List.dropWhile_suffix (l := t.dropWhile Text.isBlank) isNameChar).length_le
      have := (List.dropWhile_suffix (l := t) Text.isBlank).length_le
      simp only [Prod.mk.injEq] at heq
      obtain ⟨-, rfl⟩ := heq
      simp only [List.length_cons]
      omega
  next => simp at h

inductive Piece where
  | literal (c : Char)
  | token (t : Token)
deriving DecidableEq, Repr

/-- Reads a template from left to right; what is no token is literal. -/
def scan (s : List Char) : List Piece :=
  match _h : token? s with
  | some (t, rest) => .token t :: scan rest
  | none =>
    match s with
    | [] => []
    | c :: rest => .literal c :: scan rest
termination_by s.length
decreasing_by
  · exact token?_length _h
  · simp

/-! ## Compiling -/

/-- A parameter of a compiled template; only a constrained one has a tag. -/
structure Param where
  name : String
  optional : Bool
  tag : Option String
deriving DecidableEq, Repr

def Param.block (p : Param) : List Char :=
  '[' :: (p.tag.getD "").toList ++ ':' :: p.name.toList ++
    if p.optional then [']', '?'] else [']']

structure Compiled where
  pattern : String
  params : List Param
  types : Pairs String
deriving DecidableEq, Repr

namespace Compiled

def paramNames (c : Compiled) : List String := c.params.map Param.name

def tags (c : Compiled) : List String := c.params.filterMap Param.tag

def bare (c : Compiled) : String := Path.removeTrailingSlash c.pattern

/-- The pattern with one slash at its end, unless it is empty. -/
def canonical (c : Compiled) : String := if c.bare.isEmpty then c.bare else c.bare ++ "/"

end Compiled

/-- Hands out tags: a stem followed by the numbers from one on. -/
structure Compiler where
  stem : String := "sp"
  next : Nat := 1
deriving DecidableEq, Repr

namespace Compiler

def tag (c : Compiler) : String := c.stem ++ toString c.next

def constraint? (constraints : Pairs String) (t : Token) : Option String :=
  (constraints.find? t.name).filter fun regex => !regex.isEmpty

inductive Part where
  | literal (c : Char)
  | param (p : Param) (regex : String)
deriving DecidableEq, Repr

namespace Part

def text : Part → List Char
  | literal c => [c]
  | param p _ => p.block

def param? : Part → Option Param
  | literal _ => none
  | param p _ => some p

def binding? : Part → Option (String × String)
  | literal _ => none
  | param p regex => p.tag.map (·, regex)

end Part

def tagPieces (constraints : Pairs String) : List Piece → Compiler → List Part × Compiler
  | [], compiler => ([], compiler)
  | .literal c :: rest, compiler =>
    let (parts, last) := tagPieces constraints rest compiler
    (.literal c :: parts, last)
  | .token t :: rest, compiler =>
    match constraint? constraints t with
    | none =>
      let (parts, last) := tagPieces constraints rest compiler
      (.param ⟨t.name, t.optional, none⟩ "" :: parts, last)
    | some regex =>
      let (parts, last) := tagPieces constraints rest { compiler with next := compiler.next + 1 }
      (.param ⟨t.name, t.optional, some compiler.tag⟩ regex :: parts, last)

def compile (compiler : Compiler) (template : String) (constraints : Pairs String) :
    Compiled × Compiler :=
  let (parts, last) := tagPieces constraints (scan template.toList) compiler
  (⟨.ofList (Path.trimLeft (parts.flatMap Part.text)), parts.filterMap Part.param?,
    .ofList (parts.filterMap Part.binding?)⟩, last)

end Compiler

/-! ## Compiling one after another -/

structure Source where
  template : String
  constraints : Pairs String

/-- Compiles templates in their order; each leaves its compiler to the next. -/
def Compiler.compileAll : List Source → Compiler → List Compiled × Compiler
  | [], compiler => ([], compiler)
  | source :: rest, compiler =>
    let (compiled, compiler) := compiler.compile source.template source.constraints
    let (later, last) := compileAll rest compiler
    (compiled :: later, last)

end HttpRouting.Template
