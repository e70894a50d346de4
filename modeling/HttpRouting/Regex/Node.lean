/-!
# Regular expressions

The tree of a regular expression.  Sequences and alternatives are binary; a
repetition is greedy, lazy or possessive; flags are in force for the body of
a `flagged` node.  Code points are natural numbers, since an escape may name
one that is no character.
-/

namespace HttpRouting.Regex

/-! ## Flags -/

structure Flags where
  ignoreCase : Bool := false
  multiline : Bool := false
  dotAll : Bool := false
  verbose : Bool := false
  ascii : Bool := false
  unicode : Bool := false
  /-- Forbids repetitions. -/
  template : Bool := false
deriving DecidableEq, Repr, Inhabited

namespace Flags

def none : Flags := {}

def ofLetter? : Char → Option Flags
  | 'i' => some { ignoreCase := true }
  | 'm' => some { multiline := true }
  | 's' => some { dotAll := true }
  | 'x' => some { verbose := true }
  | 'a' => some { ascii := true }
  | 'u' => some { unicode := true }
  | 't' => some { template := true }
  | _ => Option.none

def union (f g : Flags) : Flags where
  ignoreCase := f.ignoreCase || g.ignoreCase
  multiline := f.multiline || g.multiline
  dotAll := f.dotAll || g.dotAll
  verbose := f.verbose || g.verbose
  ascii := f.ascii || g.ascii
  unicode := f.unicode || g.unicode
  template := f.template || g.template

def inter (f g : Flags) : Flags where
  ignoreCase := f.ignoreCase && g.ignoreCase
  multiline := f.multiline && g.multiline
  dotAll := f.dotAll && g.dotAll
  verbose := f.verbose && g.verbose
  ascii := f.ascii && g.ascii
  unicode := f.unicode && g.unicode
  template := f.template && g.template

def diff (f g : Flags) : Flags where
  ignoreCase := f.ignoreCase && !g.ignoreCase
  multiline := f.multiline && !g.multiline
  dotAll := f.dotAll && !g.dotAll
  verbose := f.verbose && !g.verbose
  ascii := f.ascii && !g.ascii
  unicode := f.unicode && !g.unicode
  template := f.template && !g.template

def choosesAlphabet (f : Flags) : Bool := f.ascii || f.unicode

/-- The flags inside a scope; a choice of alphabet replaces the one outside. -/
def within (f on off : Flags) : Flags :=
  let outer := if on.choosesAlphabet then { f with ascii := false, unicode := false } else f
  (outer.union on).diff off

end Flags

/-! ## Trees -/

inductive ClassItem where
  | code (n : Nat)
  | range (low high : Nat)
  | digit (negated : Bool)
  | space (negated : Bool)
  | word (negated : Bool)
deriving DecidableEq, Repr

inductive Anchor where
  | start
  | finish
  | textStart
  | textFinish
  | boundary
  | noBoundary
deriving DecidableEq, Repr

inductive Greed where
  | greedy
  | lazy
  | possessive
deriving DecidableEq, Repr

/-- A look-ahead, or a look-behind at a body whose least and greatest widths are given. -/
inductive Direction where
  | ahead
  | behind (least greatest : Nat)
deriving DecidableEq, Repr

inductive Node where
  | empty
  | chars (negated : Bool) (items : List ClassItem)
  | any
  | anchor (a : Anchor)
  | seq (first second : Node)
  | alt (first second : Node)
  | loop (greed : Greed) (least : Nat) (most : Option Nat) (body : Node)
  | group (index : Nat) (body : Node)
  | flagged (on off : Flags) (body : Node)
  | atomic (body : Node)
  | look (direction : Direction) (negated : Bool) (body : Node)
  | backreference (index : Nat)
  | conditional (index : Nat) (present absent : Node)
deriving DecidableEq, Repr

namespace Node

def literal (code : Nat) : Node := chars false [.code code]

def ofList : List Node → Node
  | [] => empty
  | [n] => n
  | n :: rest => seq n (ofList rest)

def ofAlternatives : List (List Node) → Node
  | [] => empty
  | [branch] => ofList branch
  | branch :: rest => alt (ofList branch) (ofAlternatives rest)

/-! ## Widths -/

/-- The least and the greatest number of characters; both stop growing at a limit. -/
structure Width where
  least : Nat
  greatest : Nat
deriving DecidableEq, Repr

namespace Width

/-- The width that stands for every greater one. -/
def limit : Nat := 0xffffffff

def clamp (least greatest : Nat) : Width := ⟨min least (limit - 1), min greatest limit⟩

def zero : Width := ⟨0, 0⟩

def one : Width := ⟨1, 1⟩

def plus (v w : Width) : Width := clamp (v.least + w.least) (v.greatest + w.greatest)

def either (v w : Width) : Width := ⟨min v.least w.least, max v.greatest w.greatest⟩

def times (w : Width) (least : Nat) (most : Option Nat) : Width :=
  clamp (w.least * least) (w.greatest * most.getD limit)

end Width

def width (groups : List (Option Width)) : Node → Width
  | empty => .zero
  | chars _ _ => .one
  | any => .one
  | anchor _ => .zero
  | seq first second => (first.width groups).plus (second.width groups)
  | alt first second => (first.width groups).either (second.width groups)
  | loop _ least most body => (body.width groups).times least most
  | group _ body => body.width groups
  | flagged _ _ body => body.width groups
  | atomic body => body.width groups
  | look _ _ _ => .zero
  | backreference index => (groups[index]?.join).getD .zero
  | conditional _ present absent => (present.width groups).either (absent.width groups)

end Node

end HttpRouting.Regex
