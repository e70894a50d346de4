import HttpRouting.Http.Headers
import HttpRouting.Http.Query
import HttpRouting.Path

/-!
# Requests

A request has an upper-case method and a path that begins with one slash.
Only these two take part in routing; a question mark in the path belongs to
the path.
-/

namespace HttpRouting

structure Request where
  method : String
  path : String
  headers : Pairs String
  query : Pairs String
  body : List UInt8
deriving DecidableEq, Repr

namespace Request

def ofPath (path method : String) (headers query : Pairs String) (body : List UInt8) : Request where
  method := Text.upper method
  path := Path.addLeadingSlash path
  headers := headers
  query := query
  body := body

/-- A request for a raw target; fields given apart win over those of the target. -/
def ofTarget (target method : String) (headers query : Pairs String) (body : List UInt8) : Request :=
  let (path, fields) := Http.splitQuery target
  ofPath path method headers (fields.merge query) body

def header (r : Request) (name : String) (default : String) : String :=
  (Http.findHeader? r.headers name).getD default

def contentType (r : Request) : String := r.header "Content-Type" ""

end Request

end HttpRouting
