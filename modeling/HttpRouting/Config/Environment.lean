import HttpRouting.Config.Settings
import HttpRouting.Text.Case

/-!
# Settings in the environment

Variables whose names begin with a stem override settings: the rest of the
name, in lower case, is the name of the setting.
-/

namespace HttpRouting.Environment

def defaultStem : String := "SIGNPOST_"

def override? (stem : String) (binding : String × String) : Option (String × String) :=
  (stem.toList.isPrefixOf? binding.1.toList).map fun rest =>
    (.ofList (Text.lowerChars rest), binding.2)

/-- The overrides in the order of the variables; of several with one name the last counts. -/
def overrides (stem : String) (bindings : Pairs String) : Pairs String :=
  .ofList (bindings.entries.filterMap (override? stem))

def settings (stem : String) (bindings : Pairs String) : Settings :=
  .ofPairs ((overrides stem bindings).map .text)

end HttpRouting.Environment
