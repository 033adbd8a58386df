import ProtocolGateway.ProtocolError
import ProtocolGateway.Text.Utf8

/-!
Character sets in which a payload can be read and written. In every one of them reading and writing
undo each other wherever they succeed.
-/

namespace ProtocolGateway

inductive Charset where
  | utf8 | usAscii | iso88591 | utf16be | utf16le
  deriving DecidableEq, Repr

namespace Charset

def all : List Charset := [.utf8, .usAscii, .iso88591, .utf16be, .utf16le]

def name : Charset → String
  | .utf8 => "UTF-8"
  | .usAscii => "US-ASCII"
  | .iso88591 => "ISO-8859-1"
  | .utf16be => "UTF-16BE"
  | .utf16le => "UTF-16LE"

def ofName? (s : String) : Option Charset := all.find? fun c => c.name == s

/-! Sixteen-bit units -/

def unitsOf (c : Char) : List Nat :=
  let n := c.toNat
  if n < 0x10000 then [n]
  else [0xD800 + (n - 0x10000) / 1024, 0xDC00 + (n - 0x10000) % 1024]

def units (cs : List Char) : List Nat := cs.flatMap unitsOf

def ofUnits : List Nat → Option (List Char)
  | [] => some []
  | hi :: rest =>
    if 0xDC00 ≤ hi ∧ hi ≤ 0xDFFF then none
    else if 0xD800 ≤ hi ∧ hi ≤ 0xDBFF then
      match rest with
      | lo :: more =>
        if 0xDC00 ≤ lo ∧ lo ≤ 0xDFFF then
          (ofUnits more).map (Char.ofNat (0x10000 + (hi - 0xD800) * 1024 + (lo - 0xDC00)) :: ·)
        else none
      | [] => none
    else (ofUnits rest).map (Char.ofNat hi :: ·)

/-- Two octets per unit, the high one first. -/
def unitOctets (u : Nat) : Octets := [(u / 256).toUInt8, (u % 256).toUInt8]

def swapped : Octets → Octets
  | a :: b :: rest => b :: a :: swapped rest
  | short => short

def pairUp : Octets → Option (List Nat)
  | [] => some []
  | [_] => none
  | a :: b :: rest => (pairUp rest).map ((a.toNat * 256 + b.toNat) :: ·)

def encodeBigEndian (cs : List Char) : Octets := (units cs).flatMap unitOctets

def decodeBigEndian (bytes : Octets) : Option (List Char) := (pairUp bytes).bind ofUnits

/-! Reading and writing -/

def encodeNarrow (bound : Nat) (cs : List Char) : Option Octets :=
  cs.mapM fun c => if c.toNat < bound then some c.toNat.toUInt8 else none

def decodeNarrow (bound : Nat) (bytes : Octets) : Option (List Char) :=
  bytes.mapM fun b => if b.toNat < bound then some (Char.ofNat b.toNat) else none

def encodeChars (charset : Charset) (cs : List Char) : Option Octets :=
  match charset with
  | .utf8 => some (Text.Utf8.encodeChars cs)
  | .usAscii => encodeNarrow 128 cs
  | .iso88591 => encodeNarrow 256 cs
  | .utf16be => some (encodeBigEndian cs)
  | .utf16le => some (swapped (encodeBigEndian cs))

def decodeChars (charset : Charset) (bytes : Octets) : Option (List Char) :=
  match charset with
  | .utf8 => Text.Utf8.decodeChars bytes
  | .usAscii => decodeNarrow 128 bytes
  | .iso88591 => decodeNarrow 256 bytes
  | .utf16be => decodeBigEndian bytes
  | .utf16le => decodeBigEndian (swapped bytes)

def encode (charset : Charset) (text : String) : Except ProtocolError Octets :=
  match charset.encodeChars text.toList with
  | some bytes => .ok bytes
  | none => .error (.charset charset.name)

def decode (charset : Charset) (bytes : Octets) : Except ProtocolError String :=
  match charset.decodeChars bytes with
  | some cs => .ok (String.ofList cs)
  | none => .error (.charset charset.name)

end Charset

end ProtocolGateway
