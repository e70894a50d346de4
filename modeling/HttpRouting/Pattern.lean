import HttpRouting.Pairs

/-!
# Bracketed patterns

A pattern is text with blocks such as `[type:param]` and `[:param]?`.  A block
takes the slash or the dot directly before it with it, so that both are absent
when an optional block is left out.  Text that is no block is literal.
-/

namespace HttpRouting.Pattern

structure Block where
  lead : Option Char
  type : String
  param : String
  optional : Bool
deriving DecidableEq, Repr

def isLead (c : Char) : Bool := c == '/' || c == '.'

def isBlockChar (c : Char) : Bool := c != ':' && c != ']'

def blockEnd? : List Char → Option (Bool × List Char)
  | ']' :: '?' :: rest => some (true, rest)
  | ']' :: rest => some (false, rest)
  | _ => none

def bracket? (lead : Option Char) : List Char → Option (Block × List Char)
  | '[' :: rest =>
    match rest.dropWhile isBlockChar with
    | ':' :: inner =>
      let param := inner.takeWhile isBlockChar
      if param.isEmpty then none
      else (blockEnd? (inner.dropWhile isBlockChar)).map fun (optional, rest') =>
        (⟨lead, .ofList (rest.takeWhile isBlockChar), .ofList param, optional⟩, rest')
    | _ => none
  | _ => none

def block? : List Char → Option (Block × List Char)
  | [] => none
  | c :: rest => if isLead c then bracket? (some c) rest else bracket? none (c :: rest)

theorem blockEnd?_length {s rest : List Char} {optional : Bool}
    (h : blockEnd? s = some (optional, rest)) : rest.length < s.length := by
  unfold blockEnd? at h
  split at h <;> grind

theorem bracket?_length {lead : Option Char} {s rest : List Char} {block : Block}
    (h : bracket? lead s = some (block, rest)) : rest.length < s.length := by
  unfold bracket? at h
  split at h
  next t =>
    split at h
    next inner hinner =>
      dsimp only at h
      split at h
      next => simp at h
      next =>
        obtain ⟨⟨optional, u⟩, hu, heq⟩ := Option.map_eq_some_iff.1 h
        have := blockEnd?_length hu
        have := (List.dropWhile_suffix (l := inner) isBlockChar).length_le
        have := (List.dropWhile_suffix (l := t) isBlockChar).length_le
        have := congrArg List.length hinner
        simp only [Prod.mk.injEq] at heq
        obtain ⟨-, rfl⟩ := heq
        simp only [List.length_cons] at *
        omega
    next => simp at h
  next => simp at h

theorem block?_length {s rest : List Char} {block : Block}
    (h : block? s = some (block, rest)) : rest.length < s.length := by
  unfold block? at h
  split at h
  next => simp at h
  next c t =>
    split at h
    next => have := bracket?_length h; simp only [List.length_cons]; omega
    next => exact bracket?_length h

inductive Piece where
  | literal (c : Char)
  | block (b : Block)
deriving DecidableEq, Repr

/-- Reads a pattern from left to right; what is no block is literal. -/
def scan (s : List Char) : List Piece :=
  match _h : block? s with
  | some (b, rest) => .block b :: scan rest
  | none =>
    match s with
    | [] => []
    | c :: rest => .literal c :: scan rest
termination_by s.length
decreasing_by
  · exact block?_length _h
  · simp

def blocks (pieces : List Piece) : List Block :=
  pieces.filterMap fun
    | .literal _ => none
    | .block b => some b

end HttpRouting.Pattern
