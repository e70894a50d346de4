/-!
# UTF-8

Bytes are decoded character by character.  Where they are not well formed, the
faulty bytes are those up to the first that no well-formed sequence continues
with; the strict reader reports them and the lenient one replaces them by one
replacement character.
-/

namespace HttpRouting.Text

inductive Utf8Fault where
  | invalidStart
  | invalidContinuation
  | unexpectedEnd
deriving DecidableEq, Repr

/-- The outcome at the start of some bytes; `more` counts the bytes after the first that belong to it. -/
inductive Utf8Step where
  | char (c : Char) (more : Nat)
  | fault (cause : Utf8Fault) (more : Nat)

def isContinuation (b : UInt8) : Bool := 0x80 ≤ b && b < 0xc0

def extend (code : Nat) (b : UInt8) : Nat := code * 0x40 + (b.toNat - 0x80)

def secondBounds (first : UInt8) : UInt8 × UInt8 :=
  if first == 0xe0 then (0xa0, 0xbf)
  else if first == 0xed then (0x80, 0x9f)
  else if first == 0xf0 then (0x90, 0xbf)
  else if first == 0xf4 then (0x80, 0x8f)
  else (0x80, 0xbf)

def continueChar (code : Nat) (more : Nat) : Nat → List UInt8 → Utf8Step
  | 0, _ => .char (Char.ofNat code) more
  | _ + 1, [] => .fault .unexpectedEnd more
  | count + 1, b :: rest =>
    if isContinuation b then continueChar (extend code b) (more + 1) count rest
    else .fault .invalidContinuation more

/-- Reads the second byte of a sequence of `count + 2` bytes, and the others after it. -/
def secondByte (first : UInt8) (code count : Nat) : List UInt8 → Utf8Step
  | [] => .fault .unexpectedEnd 0
  | b :: rest =>
    if (secondBounds first).1 ≤ b && b ≤ (secondBounds first).2 then
      continueChar (extend code b) 1 count rest
    else .fault .invalidContinuation 0

def decodeStep (first : UInt8) (rest : List UInt8) : Utf8Step :=
  if first < 0x80 then .char (Char.ofNat first.toNat) 0
  else if first < 0xc2 then .fault .invalidStart 0
  else if first < 0xe0 then secondByte first (first.toNat - 0xc0) 0 rest
  else if first < 0xf0 then secondByte first (first.toNat - 0xe0) 1 rest
  else if first < 0xf5 then secondByte first (first.toNat - 0xf0) 2 rest
  else .fault .invalidStart 0

/-! ## Strict decoding -/

structure Utf8Error where
  cause : Utf8Fault
  start : Nat
  bytes : List UInt8
deriving DecidableEq, Repr

def Utf8Fault.message : Utf8Fault → String
  | invalidStart => "invalid start byte"
  | invalidContinuation => "invalid continuation byte"
  | unexpectedEnd => "unexpected end of data"

def hexByte (b : UInt8) : String :=
  .ofList [Nat.digitChar (b.toNat / 16), Nat.digitChar (b.toNat % 16)]

def Utf8Error.message (e : Utf8Error) : String :=
  let place := match e.bytes with
    | [b] => "byte 0x" ++ hexByte b ++ " in position " ++ toString e.start
    | bytes =>
      "bytes in position " ++ toString e.start ++ "-" ++ toString (e.start + bytes.length - 1)
  "'utf-8' codec can't decode " ++ place ++ ": " ++ e.cause.message

def decodeUtf8At (start : Nat) (bytes : List UInt8) : Except Utf8Error (List Char) :=
  match bytes with
  | [] => .ok []
  | b :: rest =>
    match decodeStep b rest with
    | .char c more => (decodeUtf8At (start + more + 1) (rest.drop more)).map (c :: ·)
    | .fault cause more => .error ⟨cause, start, b :: rest.take more⟩
termination_by bytes.length
decreasing_by simp only [List.length_drop, List.length_cons]; omega

def decodeUtf8 (bytes : List UInt8) : Except Utf8Error (List Char) := decodeUtf8At 0 bytes

/-! ## Lenient decoding -/

def replacementChar : Char := '\ufffd'

def decodeUtf8Lossy (bytes : List UInt8) : List Char :=
  match bytes with
  | [] => []
  | b :: rest =>
    match decodeStep b rest with
    | .char c more => c :: decodeUtf8Lossy (rest.drop more)
    | .fault _ more => replacementChar :: decodeUtf8Lossy (rest.drop more)
termination_by bytes.length
decreasing_by all_goals simp only [List.length_drop, List.length_cons]; omega

/-! ## Encoding -/

def encodeUtf8 (s : List Char) : List UInt8 := s.flatMap String.utf8EncodeChar

end HttpRouting.Text
