import ProtocolGateway.Text.Hex
import ProtocolGateway.Text.Ascii
import ProtocolGateway.Text.Runs

/-!
IPv4 addresses. A host may write them in one to four parts, each decimal, octal or hexadecimal, the
last part filling the octets that are left; a socket address writes four plain decimals.
-/

namespace ProtocolGateway.Web.Ipv4

/-- The address as a number below 2 ^ 32. -/
abbrev Address := Nat

def text (a : Address) : String :=
  ".".intercalate [toString (a / 0x1000000 % 256), toString (a / 0x10000 % 256), toString (a / 0x100 % 256),
    toString (a % 256)]

def dotted (cs : List Char) : List (List Char) := Text.Runs.pieces (· == '.') cs

def isOctal (c : Char) : Bool := '0' ≤ c && c ≤ '7'

/-- A part of an address: `0x` makes it hexadecimal, a leading zero octal. Digits may be missing
after either mark. `none` when it is no number. -/
def number? (part : List Char) : Option Nat :=
  match part with
  | [] => none
  | '0' :: 'x' :: digits | '0' :: 'X' :: digits =>
    if digits.all (fun c => (Text.Hex.digitValue? c).isSome) then some (Text.Runs.hexNat digits) else none
  | ['0'] => some 0
  | '0' :: digits =>
    if digits.all isOctal then some (digits.foldl (fun n c => 8 * n + (c.toNat - 48)) 0) else none
  | digits => if digits.all Text.Ascii.isDigit then some (Text.Ascii.natOf digits) else none

def parts (host : List Char) : List (List Char) :=
  let all := dotted host
  if all.length > 1 ∧ all.getLast? = some [] then all.dropLast else all

def endsInNumber (host : List Char) : Bool :=
  match (parts host).getLast? with
  | some last => (!last.isEmpty && last.all Text.Ascii.isDigit) || (number? last).isSome
  | none => false

/-- Adds the leading parts, one octet each, to the last part. -/
def combine : (place : Nat) → List Nat → Nat → Option Address
  | place, [], last => if last < Nat.pow 256 (place + 1) then some last else none
  | 0, _ :: _, _ => none
  | place + 1, n :: more, last =>
    if n > 255 then none else (combine place more last).map (n * Nat.pow 256 (place + 1) + ·)

def ofHost? (host : List Char) : Option Address := do
  let numbers ← (parts host).mapM number?
  let last ← numbers.getLast?
  combine 3 numbers.dropLast last

def plainOctet? (part : List Char) : Option Nat :=
  if part.isEmpty || part.length > 3 || !part.all Text.Ascii.isDigit then none
  else if part.length > 1 ∧ part.head? = some '0' then none
  else
    let n := Text.Ascii.natOf part
    if n < 256 then some n else none

def ofPlain? (cs : List Char) : Option Address := do
  let [a, b, c, d] ← (dotted cs).mapM plainOctet? | none
  some (a * 0x1000000 + b * 0x10000 + c * 0x100 + d)

end ProtocolGateway.Web.Ipv4
