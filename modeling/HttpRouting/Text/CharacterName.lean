import HttpRouting.Text.CharacterName.Aliases
import HttpRouting.Text.CharacterName.AncientScripts
import HttpRouting.Text.CharacterName.EasternScripts
import HttpRouting.Text.CharacterName.Hieroglyphs
import HttpRouting.Text.CharacterName.Notations
import HttpRouting.Text.CharacterName.Pictures
import HttpRouting.Text.CharacterName.SouthernScripts
import HttpRouting.Text.CharacterName.Symbols
import HttpRouting.Text.CharacterName.WesternScripts
import HttpRouting.Text.Integer

/-!
# Characters by name

Characters are found by the names that the Unicode standard gives them.  The
names of ideographs end in their code points and those of Hangul syllables are
spelled from the names of their parts; all others are listed, and found
whatever their case.
-/

namespace HttpRouting.Text.CharacterName

/-! ## Ideographs -/

def ideographRanges : List (Nat × Nat) :=
  [
    (0x3400, 0x4dbf), (0x4e00, 0x9fff), (0x20000, 0x2a6df), (0x2a700, 0x2b738), (0x2b740, 0x2b81d),
    (0x2b820, 0x2cea1), (0x2ceb0, 0x2ebe0), (0x30000, 0x3134a)]

def ideograph? (digits : List Char) : Option Nat :=
  if digits.any Char.isLower || digits.length != 4 && digits.length != 5 then none
  else
    ((digits.mapM (digitIn? 16)).map fun values => values.foldl (16 * · + ·) 0).filter fun code =>
      ideographRanges.any fun range => range.1 ≤ code && code ≤ range.2

/-! ## Syllables -/

def syllableParts : List (List String) :=
  [["G", "GG", "N", "D", "DD", "R", "M", "B", "BB", "S", "SS", "", "J", "JJ", "C", "K", "T", "P", "H"],
    ["A", "AE", "YA", "YAE", "EO", "E", "YEO", "YE", "O", "WA", "WAE", "OE", "YO", "U", "WEO", "WE",
      "WI", "YU", "EU", "YI", "I"],
    ["", "G", "GG", "GS", "N", "NJ", "NH", "D", "L", "LG", "LM", "LB", "LS", "LT", "LP", "LH", "M",
      "B", "BS", "S", "SS", "NG", "J", "C", "K", "T", "P", "H"]]

def longestPart? (parts : List String) (s : List Char) : Option (Nat × List Char) :=
  parts.zipIdx.foldl (fun best (part, place) =>
    match part.toList.isPrefixOf? s with
    | none => best
    | some rest => if best.all fun b => rest.length < b.2.length then some (place, rest) else best)
    none

/-- The place of a syllable among all those that can be spelled, in order. -/
def spell? : List (List String) → Nat → List Char → Option Nat
  | [], place, rest => if rest.isEmpty then some place else none
  | parts :: further, place, s =>
    (longestPart? parts s).bind fun (i, rest) => spell? further (place * parts.length + i) rest

def firstSyllable : Nat := 0xac00

def syllable? (spelled : List Char) : Option Nat :=
  (spell? syllableParts 0 spelled).map (firstSyllable + ·)

/-! ## Listed names -/

def tables : List (List Run) :=
  [westernScripts, southernScripts, symbols, easternScripts, ancientScripts, hieroglyphs, notations,
    pictures, aliases]

def listed? (name : List Char) : Option Nat :=
  let name := name.map Char.toUpper
  tables.findSome? fun runs => runs.findSome? (·.find? name)

end CharacterName

def codeNamed? (name : List Char) : Option Nat :=
  match "HANGUL SYLLABLE ".toList.isPrefixOf? name, "CJK UNIFIED IDEOGRAPH-".toList.isPrefixOf? name with
  | some spelled, _ => CharacterName.syllable? spelled
  | none, some digits => CharacterName.ideograph? digits
  | none, none => CharacterName.listed? name

end HttpRouting.Text
