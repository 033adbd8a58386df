import ProtocolGateway.Data.Datum
import ProtocolGateway.Text.Hex
import ProtocolGateway.Decimal.Shortest

/-!
JSON as written: no blanks, members in the order given, doubles in their shortest form, and null in
place of a number that is not finite.
-/

namespace ProtocolGateway.Json

def writtenChar (c : Char) : List Char :=
  if c = '"' then ['\\', '"']
  else if c = '\\' then ['\\', '\\']
  else if c.toNat = 8 then ['\\', 'b']
  else if c = '\t' then ['\\', 't']
  else if c = '\n' then ['\\', 'n']
  else if c.toNat = 12 then ['\\', 'f']
  else if c = '\r' then ['\\', 'r']
  else if c.toNat < 32 then ['\\', 'u'] ++ Text.Hex.padded 4 c.toNat
  else [c]

def writtenText (s : String) : List Char := '"' :: s.toList.flatMap writtenChar ++ ['"']

def writtenFloat (x : Binary64) : List Char :=
  if x.isFinite then (Decimal.jsonText x).toList else ['n', 'u', 'l', 'l']

def writtenOctets (bytes : Octets) : List Char :=
  '[' :: ((bytes.map fun b => (toString b.toNat).toList).intersperse [',']).flatten ++ [']']

mutual
def written : Datum → List Char
  | .null | .illegible | .refused => ['n', 'u', 'l', 'l']
  | .bool b => (toString b).toList
  | .int i => (toString i).toList
  | .float x => writtenFloat x
  | .text s => writtenText s
  | .octets bytes => writtenOctets bytes
  | .list items => writtenList items
  | .map members => writtenMap members

def writtenList (items : List Datum) : List Char := '[' :: writtenItems items ++ [']']

def writtenItems : List Datum → List Char
  | [] => []
  | [d] => written d
  | d :: e :: rest => written d ++ ',' :: writtenItems (e :: rest)

def writtenMap (members : List (Datum × Datum)) : List Char := '{' :: writtenMembers members ++ ['}']

def writtenMembers : List (Datum × Datum) → List Char
  | [] => []
  | [(k, v)] => written k ++ ':' :: written v
  | (k, v) :: e :: rest => written k ++ ':' :: written v ++ ',' :: writtenMembers (e :: rest)
end

def text (d : Datum) : String := String.ofList (written d)

end ProtocolGateway.Json
