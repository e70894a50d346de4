import HttpRouting.Text.Quoted

/-!
# Warnings

Warnings do not stop anything; they are reported beside a result.
-/

namespace HttpRouting

inductive Warning where
  | sharedName (name : String) (count : Nat)
  | unknownFormat (path : String)
  | missingFile (path : String)
deriving DecidableEq, Repr

def Warning.message : Warning → String
  | sharedName name count =>
    "Route name " ++ Text.quote name ++ " is used by " ++ toString count ++
      " routes; the last one registered wins"
  | unknownFormat path => "Unknown config format: " ++ path
  | missingFile path => "Config file not found: " ++ path

end HttpRouting
