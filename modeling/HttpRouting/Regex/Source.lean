import HttpRouting.Regex.Error
import HttpRouting.Regex.Node
import HttpRouting.Text.Integer

/-!
# The text of a regular expression while it is read

The text is read token by token, where a backslash and the character after it
are one token.  A backslash at the very end is noticed as soon as it comes
next, before anything is decided about the token before it.
-/

namespace HttpRouting.Regex

structure Source where
  rest : List Char
  index : Nat := 0
  flags : Flags := {}
  /-- The named groups in the order of their openings. -/
  names : List (List Char × Nat) := []
  /-- The width of each group that is closed; the whole expression is group zero. -/
  widths : List (Option Node.Width) := [none]
  /-- How many groups there were when the outermost look-behind in progress began. -/
  outsideLookBehind : Option Nat := none
  conditions : List (Nat × Nat) := []
deriving Repr

/-- The failure to read, with the index at which it is reported. -/
inductive Stop where
  | fault (fault : Fault) (index : Nat)
  | boundTooLarge
  | boundTooLong (digits : Nat)
  | codeTooLarge
  | tooDeep
deriving DecidableEq, Repr

abbrev Reader := StateT Source (Except Stop)

abbrev Token := List Char

namespace Source

def peek (s : Source) : Option Token :=
  match s.rest with
  | [] => none
  | '\\' :: c :: _ => some ['\\', c]
  | c :: _ => some [c]

def moveTo (s : Source) (rest : List Char) (count : Nat) : Except Stop Source :=
  if rest = ['\\'] then .error (.fault .danglingBackslash (s.index + count))
  else .ok { s with rest := rest, index := s.index + count }

def advance (s : Source) : Except Stop Source :=
  match s.rest with
  | [] => .ok s
  | '\\' :: _ :: rest => s.moveTo rest 2
  | _ :: rest => s.moveTo rest 1

def groupCount (s : Source) : Nat := s.widths.length

def isClosed (s : Source) (index : Nat) : Bool := (s.widths[index]?.join).isSome

end Source

namespace Reader

def peek : Reader (Option Token) := return (← get).peek

def index : Reader Nat := return (← get).index

def fail {α : Type} (fault : Fault) (back : Nat) : Reader α := do
  throw (.fault fault ((← index) - back))

def next : Reader (Option Token) := do
  let s ← get
  set (← s.advance)
  return s.peek

def accept (c : Char) : Reader Bool := do
  if (← peek) = some [c] then
    let _ ← next
    return true
  else return false

def takeWhile (isMember : Char → Bool) : Nat → Reader (List Char)
  | 0 => return []
  | count + 1 => do
    match ← peek with
    | some [c] =>
      if isMember c then
        let _ ← next
        return c :: (← takeWhile isMember count)
      else return []
    | _ => return []

def remaining : Reader Nat := return (← get).rest.length

def collectUntil (close : Char) (what : String) : Nat → List Char → Reader (List Char)
  | 0, _ => throw .tooDeep
  | fuel + 1, name => do
    match ← next with
    | none =>
      if name.isEmpty then fail (.missingName what) 0
      else fail (.unterminatedName close) name.length
    | some token =>
      if token = [close] then
        if name.isEmpty then fail (.missingName what) 1 else return name
      else collectUntil close what fuel (name ++ token)

def nameUntil (close : Char) (what : String) : Reader (List Char) := do
  collectUntil close what ((← remaining) + 1) []

end Reader

end HttpRouting.Regex
