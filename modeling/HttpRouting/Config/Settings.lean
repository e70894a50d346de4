import HttpRouting.Pairs
import HttpRouting.Value

/-!
# Settings

The three settings of a router, each with a default.  They are taken from
tables by name; other names are ignored, and values are not checked.
-/

namespace HttpRouting

structure Settings where
  basePath : Value := .text "/"
  notFoundBody : Value := .text "Resource not found"
  contentType : Value := .text "text/html"
deriving Repr, Inhabited

namespace Settings

def set (s : Settings) (name : String) (value : Value) : Settings :=
  if name = "base_path" then { s with basePath := value }
  else if name = "not_found_body" then { s with notFoundBody := value }
  else if name = "content_type" then { s with contentType := value }
  else s

def setAll (s : Settings) (entries : List (String × Value)) : Settings :=
  entries.foldl (fun s entry => s.set entry.1 entry.2) s

def ofPairs (p : Pairs Value) : Settings := setAll {} p.entries

def merge (s : Settings) (overrides : Pairs Value) : Settings := s.setAll overrides.entries

/-- A document that is neither a table nor empty holds no settings. -/
inductive DocumentError where
  | notTable (kind : String)
deriving DecidableEq, Repr

def DocumentError.message : DocumentError → String
  | notTable kind => Value.missingAttribute kind "items"

def textKeyed? : Value × Value → Option (String × Value)
  | (.text key, value) => some (key, value)
  | _ => none

def ofDocument (v : Value) : Except DocumentError Settings :=
  if !v.isPresent then .ok {}
  else match v with
    | .table entries => .ok (setAll {} (entries.filterMap textKeyed?))
    | v => .error (.notTable v.kindName)

end Settings

end HttpRouting
