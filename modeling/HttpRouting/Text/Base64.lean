/-!
# Base 64

Bytes are written as characters that stand for six bits each, four of them for
three bytes.  A last group that is not full is filled up with equals signs.
Characters outside the alphabet are skipped, and what follows a complete
filling is left out.
-/

namespace HttpRouting.Text.Base64

def sextet? (c : Char) : Option Nat :=
  if 'A' ≤ c && c ≤ 'Z' then some (c.toNat - 'A'.toNat)
  else if 'a' ≤ c && c ≤ 'z' then some (c.toNat - 'a'.toNat + 26)
  else if c.isDigit then some (c.toNat - '0'.toNat + 52)
  else if c == '+' then some 62
  else if c == '/' then some 63
  else none

def complete (count left sextet : Nat) : List UInt8 × Nat :=
  if count == 0 then ([], sextet)
  else
    let bits := 64 * left + sextet
    let unit := Nat.pow 4 (3 - count)
    ([UInt8.ofNat (bits / unit)], bits % unit)

def decodeFrom? (count filling left : Nat) : List Char → Option (List UInt8)
  | [] => if count == 0 then some [] else none
  | c :: rest =>
    if c == '=' then
      if count < 2 then decodeFrom? count filling left rest
      else if 4 ≤ count + filling + 1 then some []
      else decodeFrom? count (filling + 1) left rest
    else match sextet? c with
      | none => decodeFrom? count filling left rest
      | some sextet =>
        let (bytes, left) := complete count left sextet
        (decodeFrom? ((count + 1) % 4) 0 left rest).map (bytes ++ ·)

def decode? (s : List Char) : Option (List UInt8) := decodeFrom? 0 0 0 s

end HttpRouting.Text.Base64
