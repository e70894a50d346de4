import HttpRouting.Pairs
import HttpRouting.Text.Case

/-!
# Header lookup

Headers keep the spelling and the order in which they were set and are looked
up without regard to case; the first that fits counts.
-/

namespace HttpRouting.Http

def headerOf? {α : Type} (name : String) : List (String × α) → Option α
  | [] => none
  | entry :: rest =>
    if Text.lower entry.1 = Text.lower name then some entry.2 else headerOf? name rest

def findHeader? {α : Type} (headers : Pairs α) (name : String) : Option α :=
  headerOf? name headers.entries

end HttpRouting.Http
