import ProtocolGateway.Decimal.Binary64
import ProtocolGateway.Text.Utf8

/-!
The values that documents are made of, whatever format they are written in.
-/

namespace ProtocolGateway

/-- A document's value. `refused` stands for an item that a format rejects when it is read but
steps over when nobody reads it: a number out of range, an escape that spells no character, a nesting
too deep. -/
inductive Datum where
  | null
  | bool (b : Bool)
  | int (i : Int)
  | float (x : Binary64)
  | text (s : String)
  | octets (bytes : Octets)
  /-- A text whose octets spell no characters. -/
  | illegible
  | list (items : List Datum)
  | map (members : List (Datum × Datum))
  | refused
  deriving Repr, Inhabited

namespace Datum

def isNull : Datum → Bool
  | .null => true
  | _ => false

def ofMembers (members : List (String × Datum)) : Datum :=
  .map (members.map fun (k, v) => (.text k, v))

def ofOption : Option Datum → Datum
  | some d => d
  | none => .null

/-- Adds a member; one of the same key is overwritten, and keys stay in rising order. -/
def putMember (key : String) (value : Datum) : List (String × Datum) → List (String × Datum)
  | [] => [(key, value)]
  | (k, v) :: rest =>
    if key < k then (key, value) :: (k, v) :: rest
    else if key = k then (key, value) :: rest
    else (k, v) :: putMember key value rest

end Datum

end ProtocolGateway
