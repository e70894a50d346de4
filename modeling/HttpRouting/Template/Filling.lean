import HttpRouting.Template

/-!
# Filling templates

A template is filled by replacing each token by a text.  A token without a
text disappears together with the slash or the dot directly before it.
-/

namespace HttpRouting.Template

/-- Whether a piece is a slash or a dot, which disappears with the token behind it. -/
def Piece.isLead : Piece → Bool
  | literal c => c == '/' || c == '.'
  | token _ => false

def fill (texts : String → Option (List Char)) : List Piece → List Char
  | [] => []
  | .token t :: rest => (texts t.name).getD [] ++ fill texts rest
  | .literal c :: .token t :: rest =>
    match texts t.name with
    | some text => c :: text ++ fill texts rest
    | none => (if Piece.isLead (.literal c) then [] else [c]) ++ fill texts rest
  | .literal c :: rest => c :: fill texts rest

def tokens (pieces : List Piece) : List Token :=
  pieces.filterMap fun
    | .literal _ => none
    | .token t => some t

/-- A text with one slash behind it, unless there is none before the slash. -/
def withFinalSlash (uri text : List Char) : List Char := if uri.isEmpty then text else text ++ ['/']

end HttpRouting.Template
