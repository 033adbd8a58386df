import ProtocolGateway.Web.Percent
import ProtocolGateway.Text.Ascii

/-!
Query parameters in form encoding: pairs between ampersands, a plus for a space, percent escapes
for everything else but letters, digits and four marks.
-/

namespace ProtocolGateway.Web.Form

def isKept (c : Char) : Bool :=
  Text.Ascii.isLetter c || Text.Ascii.isDigit c || c == '*' || c == '-' || c == '.' || c == '_'

def encodeOctet (b : UInt8) : List Char :=
  let c := Char.ofNat b.toNat
  if b.toNat < 0x80 && isKept c then [c] else if c = ' ' then ['+'] else Percent.escapeOctet b

def encodeText (s : String) : List Char := (Text.Utf8.encode s).flatMap encodeOctet

def encodePair (pair : String × String) : List Char :=
  encodeText pair.1 ++ '=' :: encodeText pair.2

def encodePairs : List (String × String) → List Char
  | [] => []
  | [pair] => encodePair pair
  | pair :: rest => encodePair pair ++ '&' :: encodePairs rest

def encode (pairs : List (String × String)) : String := String.ofList (encodePairs pairs)

def split (separator : UInt8) : Octets → List Octets
  | [] => [[]]
  | b :: rest =>
    if b = separator then [] :: split separator rest
    else match split separator rest with
      | piece :: more => (b :: piece) :: more
      | [] => [[b]]

def decodeText (bytes : Octets) : String :=
  Text.Utf8.decodeLossy (Percent.decode (bytes.map fun b => if b = 0x2B then 0x20 else b))

/-- The name ends at the first equals sign; a piece without one has an empty value. -/
def decodePair (piece : Octets) : String × String :=
  (decodeText (piece.takeWhile (· ≠ 0x3D)), decodeText ((piece.dropWhile (· ≠ 0x3D)).drop 1))

def decodeOctets (query : Octets) : List (String × String) :=
  ((split 0x26 query).filter (!·.isEmpty)).map decodePair

def decode (query : String) : List (String × String) := decodeOctets (Text.Utf8.encode query)

end ProtocolGateway.Web.Form
