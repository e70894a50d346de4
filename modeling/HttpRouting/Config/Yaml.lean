import HttpRouting.Config.Yaml.Meaning

/-!
# YAML documents

The value of a stream that holds one document at the most; an empty stream
is null.  The scalars are those of version 1.1, in which `yes` is a truth
value and `010` is eight.
-/

namespace HttpRouting.Yaml

def Document.ofText (text : List Char) : Found Document :=
  if text.all isAllowed then ofTokens (.ofText text) else failure

def read (text : List Char) : Except Error Value := do
  (← (Document.ofText text).mapError .flaw).value

end HttpRouting.Yaml
