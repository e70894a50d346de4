import HttpRouting.Regex.CharClass

/-!
# Places in a subject

A cursor stands between the characters that have been matched and those that
have not, and remembers where groups began and ended.  The two marks of a
group are set one by one, so a group that has begun again keeps its former end
until it ends again.
-/

namespace HttpRouting.Regex

structure Cursor where
  /-- The characters before the cursor, nearest first. -/
  before : List Char
  after : List Char
  /-- The latest start of each group, latest first. -/
  starts : List (Nat × Nat) := []
  stops : List (Nat × Nat) := []
deriving DecidableEq, Repr

namespace Cursor

def atStart (subject : List Char) : Cursor := ⟨[], subject, [], []⟩

def index (c : Cursor) : Nat := c.before.length

def subject (c : Cursor) : List Char := c.before.reverse ++ c.after

/-! ## Moving -/

def advance? (c : Cursor) (accepted : Char → Bool) : Option Cursor :=
  match c.after with
  | [] => none
  | x :: rest =>
    if accepted x then some { c with before := x :: c.before, after := rest } else none

def back? (c : Cursor) : Nat → Option Cursor
  | 0 => some c
  | n + 1 =>
    match c.before with
    | [] => none
    | x :: rest => { c with before := rest, after := x :: c.after }.back? n

def advanceOver? (c : Cursor) (same : Char → Char → Bool) : List Char → Option Cursor
  | [] => some c
  | x :: rest => (c.advance? (same x)).bind fun c => c.advanceOver? same rest

/-! ## Groups -/

def openGroup (c : Cursor) (group : Nat) : Cursor :=
  { c with starts := (group, c.index) :: c.starts }

def closeGroup (c : Cursor) (group : Nat) : Cursor :=
  { c with stops := (group, c.index) :: c.stops }

def withMarksOf (c marked : Cursor) : Cursor :=
  { c with starts := marked.starts, stops := marked.stops }

def group? (c : Cursor) (group : Nat) : Option (List Char) :=
  (c.starts.lookup group).bind fun start =>
    (c.stops.lookup group).bind fun stop =>
      if start ≤ stop then some ((c.subject.drop start).take (stop - start)) else none

/-! ## Anchors -/

def isWordBefore (ascii : Bool) (c : Cursor) : Bool := c.before.head?.any (isWord ascii)

def isWordAfter (ascii : Bool) (c : Cursor) : Bool := c.after.head?.any (isWord ascii)

/-- A word boundary and its opposite hold nowhere in an empty subject. -/
def satisfies (flags : Flags) (c : Cursor) : Anchor → Bool
  | .start => c.before.isEmpty || flags.multiline && c.before.head? == some '\n'
  | .finish =>
    c.after.isEmpty || c.after == ['\n'] || flags.multiline && c.after.head? == some '\n'
  | .textStart => c.before.isEmpty
  | .textFinish => c.after.isEmpty
  | .boundary =>
    !(c.before.isEmpty && c.after.isEmpty) &&
      c.isWordBefore flags.ascii != c.isWordAfter flags.ascii
  | .noBoundary =>
    !(c.before.isEmpty && c.after.isEmpty) &&
      c.isWordBefore flags.ascii == c.isWordAfter flags.ascii

end Cursor

end HttpRouting.Regex
