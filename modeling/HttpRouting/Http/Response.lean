import HttpRouting.Http.Headers
import HttpRouting.Value

/-!
# Responses

A response has a status, headers and a body.  A body is meant to be text or
bytes, and text is encoded when it is given; settings and handlers may give
anything else, which stays as it is until it is read as text or sent.  Header
values are values for the same reason.
-/

namespace HttpRouting

structure Response where
  body : Value := .bytes []
  status : Int := 200
  headers : Pairs Value := ∅
  isEncoded : body.isText = false := by rfl
deriving Repr

namespace Response

def make (body : Value) (status : Int) (headers : Pairs Value) : Response where
  body := body.encoded
  status := status
  headers := headers
  isEncoded := body.isText_encoded

def reasonPhrases : List (Int × String) :=
  [(200, "OK"), (201, "Created"), (202, "Accepted"), (204, "No Content"),
    (301, "Moved Permanently"), (302, "Found"), (304, "Not Modified"), (400, "Bad Request"),
    (401, "Unauthorized"), (403, "Forbidden"), (404, "Not Found"), (405, "Method Not Allowed"),
    (500, "Internal Server Error")]

def reasonPhrase (r : Response) : String := (reasonPhrases.lookup r.status).getD "Unknown"

def header (r : Response) (name : String) (default : Value) : Value :=
  (Http.findHeader? r.headers name).getD default

inductive ContentError where
  | encoding (error : Text.Utf8Error)
  | notBytes (kind : String)
deriving DecidableEq, Repr

def ContentError.message : ContentError → String
  | encoding error => error.message
  | notBytes kind => Value.missingAttribute kind "decode"

def content (r : Response) : Except ContentError String :=
  match r.body with
  | .bytes content => ((Text.decodeUtf8 content).map String.ofList).mapError .encoding
  | v => .error (.notBytes v.kindName)

/-- A plain-text response, whatever content type the headers give. -/
def plain (body : Value) (status : Int) (headers : Pairs Value) : Response :=
  make body status (headers.insert "Content-Type" (.text "text/plain"))

/-! ## What a server sends -/

def statusLine (r : Response) : String := toString r.status ++ " " ++ r.reasonPhrase

structure UnsizedBody where
  kind : String
deriving DecidableEq, Repr

def UnsizedBody.message (e : UnsizedBody) : String := "object of type '" ++ e.kind ++ "' has no len()"

def sentHeaders (r : Response) : Except UnsizedBody (Pairs Value) :=
  if (Http.findHeader? r.headers "Content-Length").isSome then .ok r.headers
  else
    match r.body.length? with
    | some length => .ok (r.headers.insert "Content-Length" (.text (toString length)))
    | none => .error ⟨r.body.kindName⟩

structure Sent where
  statusLine : String
  headers : Pairs Value
  body : Value
deriving Repr

def send (r : Response) : Except UnsizedBody Sent :=
  r.sentHeaders.map fun headers => ⟨r.statusLine, headers, r.body⟩

end Response

end HttpRouting
