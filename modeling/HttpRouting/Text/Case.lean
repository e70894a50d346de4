import HttpRouting.Text.CaseTable

/-!
# Case mapping

Upper, lower and title case of text by the full mappings of the Unicode
standard, where one character may become several and a capital sigma at the
end of a word becomes a final sigma.  `foldChar` and `raiseChar` are the
one-to-one mappings, for comparisons that ignore case.
-/

namespace HttpRouting.Text

/-! ## One character to one -/

def shiftBy (runs : List CaseRun) (code : Nat) : Nat :=
  match runs.find? (·.contains code) with
  | some run => run.apply code
  | none => code

def foldCode (code : Nat) : Nat := shiftBy lowerRuns code

def raiseCode (code : Nat) : Nat := shiftBy upperRuns code

def foldChar (c : Char) : Char := Char.ofNat (foldCode c.toNat)

def firstUpperCode (code : Nat) : Nat :=
  match upperExpansions.lookup code with
  | some (first :: _) => first
  | _ => raiseCode code

def raiseChar (c : Char) : Char := Char.ofNat (raiseCode c.toNat)

def hasCase (code : Nat) : Bool :=
  foldCode code != code || raiseCode code != code || (upperExpansions.lookup code).isSome

/-! ## One character to several -/

def ofCodes (codes : List Nat) : List Char := codes.map Char.ofNat

def upperChar (c : Char) : List Char :=
  match upperExpansions.lookup c.toNat with
  | some codes => ofCodes codes
  | none => [raiseChar c]

def titleChar (c : Char) : List Char :=
  match titleExceptions.lookup c.toNat with
  | some codes => ofCodes codes
  | none => [raiseChar c]

def isCased (c : Char) : Bool := inRanges casedRanges c

def isCaseIgnorable (c : Char) : Bool := inRanges caseIgnorableRanges c

def nextToCased (s : List Char) : Bool :=
  match s.dropWhile isCaseIgnorable with
  | [] => false
  | c :: _ => isCased c

/-- Lower case of a character between the text before it, nearest first, and the text after it. -/
def lowerCharWithin (before : List Char) (c : Char) (after : List Char) : List Char :=
  if c == 'Σ' then
    if nextToCased before && !nextToCased after then ['ς'] else ['σ']
  else if c == 'İ' then ['i', '\u0307']
  else [foldChar c]

/-! ## Text -/

def upperChars (s : List Char) : List Char := s.flatMap upperChar

def lowerCharsAfter (before : List Char) : List Char → List Char
  | [] => []
  | c :: after => lowerCharWithin before c after ++ lowerCharsAfter (c :: before) after

def lowerChars (s : List Char) : List Char := lowerCharsAfter [] s

def titleCharsAfter (before : List Char) : List Char → List Char
  | [] => []
  | c :: after =>
    (if before.head?.any isCased then lowerCharWithin before c after else titleChar c) ++
      titleCharsAfter (c :: before) after

def titleChars (s : List Char) : List Char := titleCharsAfter [] s

def upper (s : String) : String := .ofList (upperChars s.toList)

def lower (s : String) : String := .ofList (lowerChars s.toList)

def title (s : String) : String := .ofList (titleChars s.toList)

end HttpRouting.Text
