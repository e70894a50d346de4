import HttpRouting.Http.Request
import HttpRouting.Text.Integer
import HttpRouting.Text.Quoted

/-!
# Server environments

A server passes a request as a map of variables and a stream of input bytes.
Variables that begin with `HTTP_` are headers, as are a non-empty content type
and content length.  The content length bounds how much input is read.
-/

namespace HttpRouting.Http

structure Environ where
  bindings : Pairs String
  /-- The input bytes, if the server provides a stream. -/
  input : Option (List UInt8)
deriving DecidableEq, Repr

inductive EnvironError where
  | noInput
  | lengthTooLarge
deriving DecidableEq, Repr

def inputVariable : String := "wsgi.input"

def EnvironError.message : EnvironError → String
  | noInput => Text.quote inputVariable
  | lengthTooLarge => "cannot fit 'int' into an index-sized integer"

namespace Environ

def headerStem : String := "HTTP_"

def headerName (key : List Char) : String :=
  .ofList (Text.titleChars (key.map fun c => if c == '_' then '-' else c))

def isContentVariable (key : String) : Bool := key == "CONTENT_TYPE" || key == "CONTENT_LENGTH"

def header? (entry : String × String) : Option (String × String) :=
  match headerStem.toList.isPrefixOf? entry.1.toList with
  | some rest => some (headerName rest, entry.2)
  | none =>
    if isContentVariable entry.1 && !entry.2.isEmpty then some (headerName entry.1.toList, entry.2)
    else none

def headers (e : Environ) : Pairs String := .ofList (e.bindings.entries.filterMap header?)

def contentLength (e : Environ) : Int :=
  ((e.bindings.find? "CONTENT_LENGTH").bind fun text =>
    (Text.readInteger 10 text.toList).toOption).getD 0

def greatestLength : Int := 0x7fffffffffffffff

def body (e : Environ) : Except EnvironError (List UInt8) :=
  if 0 < e.contentLength then
    match e.input with
    | none => .error .noInput
    | some bytes =>
      if greatestLength < e.contentLength then .error .lengthTooLarge
      else .ok (bytes.take e.contentLength.toNat)
  else .ok []

def get (e : Environ) (key default : String) : String := (e.bindings.find? key).getD default

def path (e : Environ) : String := e.get "SCRIPT_NAME" "" ++ e.get "PATH_INFO" ""

def request (e : Environ) : Except EnvironError Request := do
  let body ← e.body
  return .ofPath e.path (e.get "REQUEST_METHOD" "GET") e.headers
    (parseQuery (e.get "QUERY_STRING" "")) body

end Environ

end HttpRouting.Http
