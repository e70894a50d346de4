import HttpRouting.Template

/-!
# The grammar of templates

A template alternates between literal text and spellings of tokens.  The
grammar says which texts spell a token and what a division of a template into
literals and spellings is, without saying how one is found.
-/

namespace HttpRouting.Template

/-! ## Spellings -/

def IsBlankText (s : List Char) : Prop := ∀ c ∈ s, Text.isBlank c = true

def IsName (s : List Char) : Prop := s ≠ [] ∧ ∀ c ∈ s, isNameChar c = true

/-- The texts that spell a token: blanks may stand after the opening and before the closing brace. -/
inductive Token.Spelled : Token → List Char → Prop
  | intro {left name right : List Char} {optional : Bool} :
      IsBlankText left → IsName name → IsBlankText right →
      Spelled ⟨.ofList name, optional⟩
        ('{' :: left ++ name ++ (if optional then ['?'] else []) ++ right ++ ['}'])

def IsTokenFree (s : List Char) : Prop :=
  ∀ before spelling after token, s = before ++ spelling ++ after → ¬ Token.Spelled token spelling

/-! ## Divisions -/

structure Section where
  literal : List Char
  spelling : List Char
  token : Token
deriving DecidableEq, Repr

def Section.text (s : Section) : List Char := s.literal ++ s.spelling

/-- A template as sections and the literal text behind the last token. -/
structure Division where
  sections : List Section
  last : List Char
deriving DecidableEq, Repr

namespace Division

def text (d : Division) : List Char := d.sections.flatMap Section.text ++ d.last

/-- Every token is spelled as written and no literal holds a further one. -/
def IsProper (d : Division) : Prop :=
  (∀ s ∈ d.sections, IsTokenFree s.literal ∧ s.token.Spelled s.spelling) ∧ IsTokenFree d.last

def pieces (d : Division) : List Piece :=
  (d.sections.flatMap fun s => s.literal.map .literal ++ [.token s.token]) ++ d.last.map .literal

end Division

end HttpRouting.Template
