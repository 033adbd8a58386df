/-!
UTF-8 as an octet machine. `encode` writes each character in its shortest form; `decode` accepts
exactly the well-formed octet strings, and `decodeLossy` puts one replacement character in place
of every longest malformed start.
-/

namespace ProtocolGateway

abbrev Octets := List UInt8

namespace Text.Utf8

def encodeChar (c : Char) : Octets :=
  let n := c.toNat
  if n < 0x80 then [n.toUInt8]
  else if n < 0x800 then [(0xC0 + n / 64).toUInt8, (0x80 + n % 64).toUInt8]
  else if n < 0x10000 then
    [(0xE0 + n / 4096).toUInt8, (0x80 + n / 64 % 64).toUInt8, (0x80 + n % 64).toUInt8]
  else
    [(0xF0 + n / 262144).toUInt8, (0x80 + n / 4096 % 64).toUInt8, (0x80 + n / 64 % 64).toUInt8,
      (0x80 + n % 64).toUInt8]

def encodeChars (cs : List Char) : Octets := cs.flatMap encodeChar

def encode (s : String) : Octets := encodeChars s.toList

/-- Where a reader stands between two octets. -/
inductive Place where
  /-- Between characters. -/
  | clear
  /-- Inside a character: `value` collects its bits, `left` more octets follow, and the next one
  lies in `lo ..= hi`. -/
  | inside (value left lo hi : Nat)
  deriving DecidableEq, Repr

inductive Start where
  | char (c : Char)
  | lead (value left lo hi : Nat)
  | malformed
  deriving DecidableEq, Repr

/-- The narrowed second octets keep out overlong forms, surrogates and everything past U+10FFFF. -/
def start (b : UInt8) : Start :=
  let n := b.toNat
  if n < 0x80 then .char (Char.ofNat n)
  else if n < 0xC2 then .malformed
  else if n < 0xE0 then .lead (n - 0xC0) 1 0x80 0xBF
  else if n = 0xE0 then .lead 0 2 0xA0 0xBF
  else if n = 0xED then .lead 0xD 2 0x80 0x9F
  else if n < 0xF0 then .lead (n - 0xE0) 2 0x80 0xBF
  else if n = 0xF0 then .lead 0 3 0x90 0xBF
  else if n < 0xF4 then .lead (n - 0xF0) 3 0x80 0xBF
  else if n = 0xF4 then .lead 4 3 0x80 0x8F
  else .malformed

def decodeFrom : Place → Octets → Option (List Char)
  | .clear, [] => some []
  | .inside .., [] => none
  | .clear, b :: rest =>
    match start b with
    | .char c => (decodeFrom .clear rest).map (c :: ·)
    | .lead value left lo hi => decodeFrom (.inside value left lo hi) rest
    | .malformed => none
  | .inside value left lo hi, b :: rest =>
    let n := b.toNat
    if lo ≤ n ∧ n ≤ hi then
      let value := value * 64 + n % 64
      match left with
      | 0 | 1 => (decodeFrom .clear rest).map (Char.ofNat value :: ·)
      | left + 1 => decodeFrom (.inside value left 0x80 0xBF) rest
    else none

def decodeChars (bytes : Octets) : Option (List Char) := decodeFrom .clear bytes

def decode (bytes : Octets) : Option String := (decodeChars bytes).map String.ofList

def replacement : Char := '\uFFFD'

/-- Reads on from a place; an octet that breaks a character off is read again as a start. -/
def lossyFrom : Place → Octets → List Char
  | .clear, [] => []
  | .inside .., [] => [replacement]
  | .clear, b :: rest =>
    match start b with
    | .char c => c :: lossyFrom .clear rest
    | .lead value left lo hi => lossyFrom (.inside value left lo hi) rest
    | .malformed => replacement :: lossyFrom .clear rest
  | .inside value left lo hi, b :: rest =>
    let n := b.toNat
    if lo ≤ n ∧ n ≤ hi then
      let value := value * 64 + n % 64
      match left with
      | 0 | 1 => Char.ofNat value :: lossyFrom .clear rest
      | left + 1 => lossyFrom (.inside value left 0x80 0xBF) rest
    else
      replacement :: match start b with
        | .char c => c :: lossyFrom .clear rest
        | .lead value left lo hi => lossyFrom (.inside value left lo hi) rest
        | .malformed => replacement :: lossyFrom .clear rest

def decodeLossy (bytes : Octets) : String := String.ofList (lossyFrom .clear bytes)

end Text.Utf8

end ProtocolGateway
