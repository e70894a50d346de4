/-!
# Runs of character names

Neighbouring code points often have names that begin alike.  A run lists such
names by what they end in.
-/

namespace HttpRouting.Text.CharacterName

structure Run where
  first : Nat
  stem : String
  /-- What they end in, between commas; nothing for a code point without such a name. -/
  endings : String
deriving DecidableEq, Repr

namespace Run

def find? (run : Run) (name : List Char) : Option Nat :=
  match run.stem.toList.isPrefixOf? name with
  | none | some [] => none
  | some ending => ((run.endings.splitOn ",").idxOf? (.ofList ending)).map (run.first + ·)

end Run

end HttpRouting.Text.CharacterName
