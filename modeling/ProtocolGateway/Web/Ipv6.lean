import ProtocolGateway.Web.Ipv4

/-!
IPv6 addresses: eight pieces of sixteen bits, one run of zeros left out in the written form, the
last two pieces possibly written as an IPv4 address.
-/

namespace ProtocolGateway.Web.Ipv6

/-- Eight pieces, each below 2 ^ 16. -/
abbrev Address := List Nat

def piece (cs : List Char) : Nat × List Char :=
  let digits := (cs.take 4).takeWhile fun c => (Text.Hex.digitValue? c).isSome
  (Text.Runs.hexNat digits, cs.drop digits.length)

/-- What has been read: the pieces in reverse, and where the left-out run goes. -/
structure Reading where
  pieces : List Nat
  gap : Option Nat

def Reading.finish (r : Reading) : Option Address :=
  let ps := r.pieces.reverse
  match r.gap with
  | none => if ps.length = 8 then some ps else none
  | some place =>
    if ps.length ≤ 8 then some (ps.take place ++ List.replicate (8 - ps.length) 0 ++ ps.drop place) else none

/-- Reads pieces until the text ends. A gap stands for at least one piece, which is counted at once. -/
def read : (fuel : Nat) → List Char → Reading → Option Reading
  | _, [], r => some r
  | 0, _ :: _, _ => none
  | fuel + 1, c :: rest, r =>
    if r.pieces.length = 8 then none
    else if c = ':' then
      if r.gap.isSome then none
      else read fuel rest ⟨0 :: r.pieces, some (r.pieces.length + 1)⟩
    else
      let (value, after) := piece (c :: rest)
      match after with
      | [] => some { r with pieces := value :: r.pieces }
      | '.' :: _ =>
        if r.pieces.length > 6 then none
        else do
          let a ← Ipv4.ofPlain? (c :: rest)
          some { r with pieces := a % 0x10000 :: a / 0x10000 :: r.pieces }
      | ':' :: tail =>
        if tail.isEmpty then none else read fuel tail { r with pieces := value :: r.pieces }
      | _ => none

def parse? (cs : List Char) : Option Address :=
  match cs with
  | ':' :: ':' :: rest => (read (rest.length + 1) rest ⟨[0], some 1⟩).bind (·.finish)
  | ':' :: _ | [] | [_] => none
  | _ => (read (cs.length + 1) cs ⟨[], none⟩).bind (·.finish)

def longestRun : (index : Nat) → List Nat → Nat × Nat
  | _, [] => (0, 1)
  | index, p :: rest =>
    let here := ((p :: rest).takeWhile (· = 0)).length
    let later := longestRun (index + 1) rest
    if here > 1 ∧ here ≥ later.2 then (index, here) else later

def joined (pieces : List Nat) : String := ":".intercalate (pieces.map Text.Hex.ofNat)

def text (a : Address) : String :=
  let (start, length) := longestRun 0 a
  if length < 2 then joined a
  else joined (a.take start) ++ "::" ++ joined (a.drop (start + length))

end ProtocolGateway.Web.Ipv6
