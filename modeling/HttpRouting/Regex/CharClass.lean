import HttpRouting.Regex.Node
import HttpRouting.Text.Blank
import HttpRouting.Text.Case
import HttpRouting.Text.Digit
import HttpRouting.Text.Letter

/-!
# Character classes

`accepts` decides whether one character belongs to a class under the flags in
force.  When case is ignored the character is folded to lower case and
compared with the folded members, where lower-case characters with one upper
case count as equal.  A class none of whose members has case is compared as it
stands.
-/

namespace HttpRouting.Regex

/-! ## Alphabets -/

def isAsciiSpace (c : Char) : Bool := " \t\n\r\x0b\x0c".toList.contains c

def isAsciiWord (c : Char) : Bool := c.isAlphanum || c == '_'

def isDigit (ascii : Bool) (c : Char) : Bool := if ascii then c.isDigit else Text.isDigit c

def isSpace (ascii : Bool) (c : Char) : Bool := if ascii then isAsciiSpace c else Text.isBlank c

def isWord (ascii : Bool) (c : Char) : Bool := if ascii then isAsciiWord c else Text.isWordChar c

def fold (ascii : Bool) (code : Nat) : Nat :=
  if ascii then (if 0x41 ≤ code && code ≤ 0x5a then code + 0x20 else code) else Text.foldCode code

def foldChar (ascii : Bool) (c : Char) : Nat := fold ascii c.toNat

def hasCase (ascii : Bool) (code : Nat) : Bool :=
  if ascii then 0x41 ≤ code && code ≤ 0x5a || 0x61 ≤ code && code ≤ 0x7a else Text.hasCase code

def twins (ascii : Bool) (code : Nat) : List Nat :=
  if ascii then [code] else code :: (Text.caseTwins.lookup code).getD []

def meets (low high : Nat) (run : Text.CaseRun) : Bool :=
  let steps := (max low run.first - run.first + run.step - 1) / run.step
  run.first + steps * run.step ≤ min high run.last

def hasCaseBetween (ascii : Bool) (low high : Nat) : Bool :=
  if ascii then low ≤ 0x5a && 0x41 ≤ high || low ≤ 0x7a && 0x61 ≤ high
  else
    Text.lowerRuns.any (meets low high) || Text.upperRuns.any (meets low high) ||
      Text.upperExpansions.any fun entry => low ≤ entry.1 && entry.1 ≤ high

def unfoldRun (code : Nat) (run : Text.CaseRun) : List Nat :=
  let source := (Int.ofNat code - run.shift).toNat
  if run.contains source && Text.foldCode source == code then [source] else []

def unfold (ascii : Bool) (code : Nat) : List Nat :=
  (if fold ascii code == code then [code] else []) ++
    if ascii then (if 0x61 ≤ code && code ≤ 0x7a then [code - 0x20] else [])
    else Text.lowerRuns.flatMap (unfoldRun code)

/-! ## Members -/

/-- The last code point that a class maps one by one; beyond it ranges are compared as a whole. -/
def lastMapped : Nat := 0xffff

namespace ClassItem

def contains (ascii : Bool) (c : Char) : ClassItem → Bool
  | code n => c.toNat == n
  | range low high => low ≤ c.toNat && c.toNat ≤ high
  | digit negated => negated != isDigit ascii c
  | space negated => negated != isSpace ascii c
  | word negated => negated != isWord ascii c

def isCased (ascii : Bool) : ClassItem → Bool
  | code n => lastMapped < n || Regex.hasCase ascii n
  | range low high => lastMapped < high || hasCaseBetween ascii low high
  | _ => false

def containsFolded (ascii : Bool) (folded : Nat) : ClassItem → Bool
  | code n =>
    if lastMapped < n then folded == n else (twins ascii (fold ascii n)).contains folded
  | range low high =>
    ((twins ascii folded).flatMap (unfold ascii)).any
        (fun code => low ≤ code && code ≤ min high lastMapped) ||
      lastMapped < high &&
        (low ≤ folded && folded ≤ high ||
          low ≤ Text.firstUpperCode folded && Text.firstUpperCode folded ≤ high)
  | item => item.contains ascii (Char.ofNat folded)

end ClassItem

/-! ## Classes -/

def isMember (flags : Flags) (items : List ClassItem) (c : Char) : Bool :=
  if !flags.ignoreCase then items.any (·.contains flags.ascii c)
  else match items with
    | [.code n] =>
      if hasCase flags.ascii n then
        (twins flags.ascii (fold flags.ascii n)).contains (foldChar flags.ascii c)
      else c.toNat == n
    | _ =>
      if items.any (·.isCased flags.ascii) then
        items.any (·.containsFolded flags.ascii (foldChar flags.ascii c))
      else items.any (·.contains flags.ascii c)

def accepts (flags : Flags) (negated : Bool) (items : List ClassItem) (c : Char) : Bool :=
  negated != isMember flags items c

end HttpRouting.Regex
