import ProtocolGateway.Text.Hex

/-!
Percent escapes. Encoding is by class of octet: everything past ASCII is always escaped. Decoding
leaves a percent sign alone when two hexadecimal digits do not follow it.
-/

namespace ProtocolGateway.Web.Percent

def escapeOctet (b : UInt8) : List Char :=
  ['%', Text.Hex.upperDigit (b.toNat / 16), Text.Hex.upperDigit (b.toNat % 16)]

def encodeChar (escaped : Char → Bool) (c : Char) : List Char :=
  if c.toNat ≥ 0x80 || escaped c then (Text.Utf8.encodeChar c).flatMap escapeOctet else [c]

def encode (escaped : Char → Bool) (cs : List Char) : List Char := cs.flatMap (encodeChar escaped)

def isControl (c : Char) : Bool := c.toNat < 0x20 || c.toNat = 0x7F

/-- What a path escapes besides the octets past ASCII. -/
def isEscapedInPath (c : Char) : Bool :=
  isControl c || c == ' ' || c == '"' || c == '<' || c == '>' || c == Char.ofNat 0x60 || c == '#' ||
    c == '?' || c == '{' || c == '}'

def octetDigit? (b : UInt8) : Option Nat := Text.Hex.digitValue? (Char.ofNat b.toNat)

def decode : Octets → Octets
  | [] => []
  | b :: rest =>
    if b = 0x25 then
      match rest with
      | h :: l :: tail =>
        match octetDigit? h, octetDigit? l with
        | some hi, some lo => (16 * hi + lo).toUInt8 :: decode tail
        | _, _ => b :: decode (h :: l :: tail)
      | short => b :: decode short
    else b :: decode rest

end ProtocolGateway.Web.Percent
