import HttpRouting.Regex.Cursor

/-!
# Trails

A trail is what a trial to match leaves behind, also when it fails: the place
at which its latest step began, and the marks of the groups that were set.
Marks are numbered, the start and the end of each group in turn, and are valid
up to the last one that has been set.
-/

namespace HttpRouting.Regex

structure Trail where
  place : Cursor
  marks : List (Option Nat)
deriving DecidableEq, Repr

namespace Trail

def begin (c : Cursor) : Trail := ⟨c, []⟩

def arrive (t : Trail) (c : Cursor) : Trail := { t with place := c }

/-! ## Marks -/

def startMark (group : Nat) : Nat := 2 * (group - 1)

def endMark (group : Nat) : Nat := 2 * (group - 1) + 1

/-- Sets a mark; those that are skipped become valid and empty. -/
def setMark (t : Trail) (mark : Nat) (c : Cursor) : Trail :=
  let marks := t.marks ++ List.replicate (mark + 1 - t.marks.length) none
  { t with marks := marks.set mark (some c.index) }

def mark? (t : Trail) (mark : Nat) : Option Nat := t.marks[mark]?.join

def group? (t : Trail) (subject : List Char) (group : Nat) : Option (List Char) :=
  (t.mark? (startMark group)).bind fun start =>
    (t.mark? (endMark group)).bind fun stop =>
      if start ≤ stop then some ((subject.drop start).take (stop - start)) else none

/-- Goes back to an earlier trail: with its marks, or with those of them that are still numbered. -/
def retreat (t earlier : Trail) (withMarks : Bool) : Trail :=
  { t with marks := if withMarks then earlier.marks else t.marks.take earlier.marks.length }

def groups (t : Trail) : List Nat := (List.range ((t.marks.length + 1) / 2)).map (· + 1)

def toCursor (t : Trail) : Cursor :=
  let marked (mark : Nat → Nat) : List (Nat × Nat) :=
    t.groups.filterMap fun group => (t.mark? (mark group)).map (group, ·)
  { t.place with starts := marked startMark, stops := marked endMark }

def isCrossed (t : Trail) : Bool :=
  t.groups.any fun group =>
    match t.mark? (startMark group), t.mark? (endMark group) with
    | some start, some stop => stop < start
    | _, _ => false

end Trail

end HttpRouting.Regex
