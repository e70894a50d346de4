import HttpRouting.Config.Environment
import HttpRouting.Config.Json
import HttpRouting.Config.Yaml
import HttpRouting.Http.Query
import HttpRouting.Warning

/-!
# Settings in files

Settings come from defaults, then from a file whose ending tells its format,
then from environment variables, where the later win.  A file that is missing
or has another ending is left out with a warning.
-/

namespace HttpRouting

structure Files where
  texts : Pairs String
deriving DecidableEq, Repr

inductive FileError where
  | missing (path : String)
  | directory (path : String)
  | notDirectory (path : String)
  | nameTooLong (path : String)
  | nullCharacter
  | json (error : Json.Error)
  | yaml (error : Yaml.Error)
  | document (error : Settings.DocumentError)
deriving DecidableEq, Repr

def FileError.message : FileError → String
  | missing path => "No such file or directory: " ++ Text.quote path
  | directory path => "Is a directory: " ++ Text.quote path
  | notDirectory path => "Not a directory: " ++ Text.quote path
  | nameTooLong path => "File name too long: " ++ Text.quote path
  | nullCharacter => "embedded null byte"
  | json error => error.message
  | yaml error => error.message
  | document error => error.message

namespace Files

/-! ## Paths -/

abbrev Location := List String

def splitPath (path : String) : List String := (Http.splitOn '/' path.toList).map String.ofList

/-- Relative paths begin in a directory for passing files whose own name is not known. -/
def workingDirectory : Location := ["tmp", ""]

def locationOf (path : String) : Location :=
  let names := (splitPath path).filter fun name => name != "" && name != "."
  if path.toList.head? = some '/' then names else workingDirectory ++ names

def systemDirectories : List String :=
  ["bin", "boot", "dev", "etc", "home", "lib", "media", "mnt", "opt", "proc", "root", "run", "sbin",
    "srv", "sys", "tmp", "usr", "var"]

inductive Entry where
  | file (text : String)
  | directory
deriving DecidableEq, Repr

def nullDevice : Location := ["dev", "null"]

def isDirectory (files : Files) (location : Location) : Bool :=
  location.isPrefixOf workingDirectory ||
    location matches [_] && location.all systemDirectories.contains ||
    files.texts.entries.any fun entry => location.isPrefixOf (locationOf entry.1)

def entry? (files : Files) (location : Location) : Option Entry :=
  match files.texts.entries.find? fun entry => locationOf entry.1 == location with
  | some entry => some (.file entry.2)
  | none =>
    if location == nullDevice then some (.file "")
    else if files.isDirectory location then some .directory
    else none

/-! ## Finding files -/

def greatestNameLength : Nat := 255

def tooLongPath : Nat := 4096

def follow (files : Files) (path : String) (location : Location) : List String → Except FileError Entry
  | [] =>
    match files.entry? location with
    | some entry => .ok entry
    | none => .error (.missing path)
  | name :: rest =>
    match files.entry? location with
    | none => .error (.missing path)
    | some (.file _) => .error (.notDirectory path)
    | some .directory =>
      if name == "" || name == "." then files.follow path location rest
      else if name == ".." then files.follow path location.dropLast rest
      else if greatestNameLength < name.utf8ByteSize then .error (.nameTooLong path)
      else files.follow path (location ++ [name]) rest

def lookUp (files : Files) (path : String) (names : List String) : Except FileError Entry :=
  if tooLongPath ≤ path.utf8ByteSize then .error (.nameTooLong path)
  else files.follow path (if path.toList.head? = some '/' then [] else workingDirectory) names

def locate (files : Files) (path : String) : Except FileError String :=
  if path.contains '\x00' then .error .nullCharacter
  else if path.isEmpty then .error (.missing path)
  else match files.lookUp path (splitPath path) with
    | .ok (.file text) => .ok text
    | .ok .directory => .error (.directory path)
    | .error error => .error error

/-- Whether a path names a file or a directory; slashes and dots that name nothing make no difference. -/
def contains (files : Files) (path : String) : Except FileError Bool :=
  if path.contains '\x00' then .ok false
  else match files.lookUp path ((splitPath path).filter fun name => name != "" && name != ".") with
    | .ok _ => .ok true
    | .error (.nameTooLong path) => .error (.nameTooLong path)
    | .error _ => .ok false

/-! ## Reading files -/

def normalizeLineEnds : List Char → List Char
  | [] => []
  | '\r' :: '\n' :: rest => '\n' :: normalizeLineEnds rest
  | '\r' :: rest => '\n' :: normalizeLineEnds rest
  | c :: rest => c :: normalizeLineEnds rest

def read (files : Files) (path : String) : Except FileError (List Char) :=
  (files.locate path).map fun text => normalizeLineEnds text.toList

end Files

namespace Settings

def ofJson (files : Files) (path : String) : Except FileError Settings := do
  let document ← (Json.read (← files.read path)).mapError .json
  (ofDocument document).mapError .document

def ofYaml (files : Files) (path : String) : Except FileError Settings := do
  let document ← (Yaml.read (← files.read path)).mapError .yaml
  (ofDocument document).mapError .document

def hasEnding (path : String) (ending : String) : Bool :=
  ending.toList.isSuffixOf path.toList

def ofFile (files : Files) (path : String) : Except FileError Settings × List Warning :=
  if path.isEmpty then (.ok {}, [])
  else match files.contains path with
    | .error error => (.error error, [])
    | .ok false => (.ok {}, [.missingFile path])
    | .ok true =>
      if hasEnding path ".json" then (ofJson files path, [])
      else if hasEnding path ".yaml" || hasEnding path ".yml" then (ofYaml files path, [])
      else (.ok {}, [.unknownFormat path])

def load (files : Files) (path : Option String) (stem : String) (bindings : Pairs String) :
    Except FileError Settings × List Warning :=
  let (settings, warnings) := ofFile files (path.getD "")
  (settings.map (·.merge ((Environment.overrides stem bindings).map .text)), warnings)

end Settings

end HttpRouting
