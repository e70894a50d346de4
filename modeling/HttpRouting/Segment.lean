import HttpRouting.Http.Query
import HttpRouting.Params
import HttpRouting.Path
import HttpRouting.Template

/-!
# Segments

Many templates are segments between slashes, each literal text or one token
alone.  A path fits such a template when it has the same segments, where a
token takes any segment that is not empty and an optional one at the end may
be missing.  This reading needs no expressions, and it agrees with the table
on the templates that it covers.
-/

namespace HttpRouting

inductive Segment where
  | literal (text : List Char)
  | token (t : Template.Token)
deriving DecidableEq, Repr

namespace Segment

/-- A segment that is one token, or has no opening brace. -/
def ofText? (s : List Char) : Option Segment :=
  match Template.token? s with
  | some (t, []) => some (.token t)
  | _ => if s.isEmpty || s.contains '{' then none else some (.literal s)

def ofTemplate? (template : List Char) : Option (List Segment) :=
  if template.isEmpty then some [] else (Http.splitOn '/' template).mapM ofText?

def isOptional : Segment → Bool
  | literal _ => false
  | token t => t.optional

def name? : Segment → Option String
  | literal _ => none
  | token t => some t.name

/-- At most the last segment is optional, unless it is also the first, and no name occurs twice. -/
def IsRegular (segments : List Segment) : Prop :=
  (∀ s ∈ segments.dropLast, s.isOptional = false) ∧
    (segments.length = 1 → ∀ s ∈ segments, s.isOptional = false) ∧
    (segments.filterMap name?).Nodup

instance (segments : List Segment) : Decidable (IsRegular segments) :=
  inferInstanceAs (Decidable (_ ∧ _ ∧ _))

/-! ## Matching -/

def matchAll? : List Segment → List (List Char) → Option (List (String × String))
  | [], [] => some []
  | [.token t], [] => if t.optional then some [] else none
  | .literal text :: rest, part :: parts =>
    if part = text then matchAll? rest parts else none
  | .token t :: rest, part :: parts =>
    if part.isEmpty then none else (matchAll? rest parts).map ((t.name, .ofList part) :: ·)
  | _, _ => none

def dropFinalSlash (s : List Char) : List Char := if s.getLast? = some '/' then s.dropLast else s

/-- The parameters of a text below the base path; one slash at its end makes no difference. -/
def match? (segments : List Segment) (rest : List Char) : Option (List (String × String)) :=
  if segments.isEmpty then (if rest.isEmpty then some [] else none)
  else (matchAll? segments (Http.splitOn '/' rest)).or
    (matchAll? segments (Http.splitOn '/' (dropFinalSlash rest)))

end Segment

end HttpRouting
