import HttpRouting.Decimal.Shortest

/-!
# Decimal notation of floating-point numbers

A number is written with the fewest digits that read back as it, in positional
notation from `0.0001` up to `10 ^ 16` and with an exponent of at least two
digits elsewhere.  Reading rounds to the nearest floating-point number.
-/

namespace HttpRouting.Decimal

/-! ## Writing -/

def trimZeros (digits : List Char) : List Char :=
  (digits.reverse.dropWhile (· == '0')).reverse

def positional (digits : List Char) (point : Int) : List Char :=
  if point ≤ 0 then
    "0.".toList ++ List.replicate (-point).toNat '0' ++ digits
  else if point ≥ digits.length then
    digits ++ List.replicate (point.toNat - digits.length) '0' ++ ".0".toList
  else digits.take point.toNat ++ '.' :: digits.drop point.toNat

def exponentText (exponent : Int) : List Char :=
  let digits := Nat.toDigits 10 exponent.natAbs
  'e' :: (if exponent < 0 then '-' else '+') :: (if digits.length < 2 then '0' :: digits else digits)

def scientific (digits : List Char) (exponent : Int) : List Char :=
  match digits with
  | [] => exponentText exponent
  | [d] => d :: exponentText exponent
  | d :: rest => d :: '.' :: rest ++ exponentText exponent

def text (d : Decimal) : List Char :=
  let digits := Nat.toDigits 10 d.digits
  let point := digits.length + d.exponent
  if -4 < point && point ≤ 16 then positional (trimZeros digits) point
  else scientific (trimZeros digits) (point - 1)

def finiteText (exponent fraction : Nat) : List Char :=
  if exponent == 0 && fraction == 0 then "0.0".toList
  else if exponent == 0 then (shortest (.ofBinary fraction (-1074) false)).text
  else
    (shortest (.ofBinary (fraction + Nat.pow 2 52) (Int.ofNat exponent - 1075)
      (fraction == 0 && 1 < exponent))).text

def floatText (x : Float) : String :=
  let bits := x.toBits.toNat
  let exponent := bits / Nat.pow 2 52 % Nat.pow 2 11
  let fraction := bits % Nat.pow 2 52
  let sign := if bits / Nat.pow 2 63 == 1 then ['-'] else []
  if exponent == 2047 then
    if fraction == 0 then .ofList (sign ++ "inf".toList) else "nan"
  else .ofList (sign ++ finiteText exponent fraction)

/-! ## Whole numbers -/

def whole? (x : Float) : Option Int :=
  let bits := x.toBits.toNat
  let exponent := bits / Nat.pow 2 52 % Nat.pow 2 11
  let fraction := bits % Nat.pow 2 52
  let sign : Int := if bits / Nat.pow 2 63 == 1 then -1 else 1
  if exponent == 2047 then none
  else
    let mantissa := if exponent == 0 then fraction else fraction + Nat.pow 2 52
    let scaled := mantissa * Nat.pow 2 (exponent - 1075)
    let unit := Nat.pow 2 (1075 - max exponent 1)
    if scaled % unit == 0 then some (sign * Int.ofNat (scaled / unit)) else none

/-! ## Reading -/

def digitsValue (digits : List Char) : Nat :=
  digits.foldl (fun n c => 10 * n + (c.toNat - '0'.toNat)) 0

/-- The nearest number to `digits · 10 ^ exponent`, which is infinite or zero when far out of range. -/
def toFloat (digits : Nat) (exponent : Int) : Float :=
  let magnitude := (Nat.toDigits 10 digits).length + exponent
  if digits == 0 || magnitude < -400 then 0.0
  else if magnitude > 400 then 1.0 / 0.0
  else Float.ofScientific digits (exponent < 0) exponent.natAbs

def readExponent? : List Char → Option Int
  | [] => some 0
  | mark :: rest =>
    if mark != 'e' && mark != 'E' then none
    else
      let (negative, digits) := match rest with
        | '-' :: digits => (true, digits)
        | '+' :: digits => (false, digits)
        | digits => (false, digits)
      if digits.isEmpty || !digits.all Char.isDigit then none
      else some (if negative then -Int.ofNat (digitsValue digits) else digitsValue digits)

def readUnsigned? (s : List Char) : Option Float :=
  let whole := s.takeWhile Char.isDigit
  let (fraction, rest) := match s.dropWhile Char.isDigit with
    | '.' :: rest => (rest.takeWhile Char.isDigit, rest.dropWhile Char.isDigit)
    | rest => ([], rest)
  if whole.isEmpty && fraction.isEmpty then none
  else (readExponent? rest).map fun exponent =>
    toFloat (digitsValue (whole ++ fraction)) (exponent - fraction.length)

def readMagnitude? (s : List Char) : Option Float :=
  let lowered := s.map Char.toLower
  if lowered == "inf".toList || lowered == "infinity".toList then some (1.0 / 0.0)
  else if lowered == "nan".toList then some (0.0 / 0.0)
  else readUnsigned? s

def readFloat? : List Char → Option Float
  | '-' :: rest => (readMagnitude? rest).map (- ·)
  | '+' :: rest => readMagnitude? rest
  | s => readMagnitude? s

end HttpRouting.Decimal
