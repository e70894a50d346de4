import HttpRouting.Regex.Expression

/-!
# Plain expressions

A plain expression is made of characters, classes, unnamed groups,
alternatives and repetitions that are tried again.  It has no anchors, no
look-around, no references to groups, no named or atomic groups, no possessive
repetitions and no flags.
-/

namespace HttpRouting.Regex

def Node.isPlain : Node → Bool
  | empty | chars _ _ | any => true
  | seq first second | alt first second => first.isPlain && second.isPlain
  | loop greed _ _ body => greed != .possessive && body.isPlain
  | group _ body => body.isPlain
  | _ => false

namespace Expression

def isPlain (e : Expression) : Bool := e.flags == {} && e.names.isEmpty && e.node.isPlain

def readPlain? (text : List Char) : Option Expression :=
  match read text with
  | .ok e => if e.isPlain then some e else none
  | .error _ => none

/-- Whether a text reads as a plain expression. -/
def IsPlainText (text : String) : Prop := (readPlain? text.toList).isSome

instance (text : String) : Decidable (IsPlainText text) := inferInstanceAs (Decidable (_ = true))

/-- The texts that an expression matches as a whole. -/
def Accepts (text : String) (subject : List Char) : Prop :=
  ∃ e, read text.toList = .ok e ∧ e.matchesAll subject = .ok true

end Expression

end HttpRouting.Regex
