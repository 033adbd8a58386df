import ProtocolGateway.Text.Utf8

/-! Octets as pairs of hexadecimal digits, the high half first. -/

namespace ProtocolGateway.Text.Hex

def digitValue? (c : Char) : Option Nat :=
  if '0' ≤ c ∧ c ≤ '9' then some (c.toNat - 48)
  else if 'a' ≤ c ∧ c ≤ 'f' then some (c.toNat - 87)
  else if 'A' ≤ c ∧ c ≤ 'F' then some (c.toNat - 55)
  else none

def lowerDigit (n : Nat) : Char := if n < 10 then Char.ofNat (48 + n) else Char.ofNat (87 + n)

def upperDigit (n : Nat) : Char := if n < 10 then Char.ofNat (48 + n) else Char.ofNat (55 + n)

def encode (bytes : Octets) : String :=
  String.ofList (bytes.flatMap fun b => [lowerDigit (b.toNat / 16), lowerDigit (b.toNat % 16)])

def decodeChars : List Char → Option Octets
  | [] => some []
  | [_] => none
  | hi :: lo :: rest => do
    let h ← digitValue? hi
    let l ← digitValue? lo
    let tail ← decodeChars rest
    pure ((16 * h + l).toUInt8 :: tail)

def decode (s : String) : Option Octets := decodeChars s.toList

def ofNat (n : Nat) : String := String.ofList (Nat.toDigits 16 n)

/-- Exactly `width` digits, the higher ones dropped. -/
def padded : (width : Nat) → (n : Nat) → List Char
  | 0, _ => []
  | w + 1, n => padded w (n / 16) ++ [lowerDigit (n % 16)]

end ProtocolGateway.Text.Hex
