import ProtocolGateway.Data.Datum
import ProtocolGateway.Text.Ascii

/-!
JSON numbers. A whole number stays one while it fits 64 bits, signed or not. Everything else is a
double: the leading digits that fit 64 bits, the rest dropped, scaled by one power of ten. That is
not always the nearest double, and a number past the largest one is refused.
-/

namespace ProtocolGateway.Json

structure Numeral where
  negative : Bool
  whole : List Char
  fraction : Option (List Char)
  exponent : Option (Bool × List Char)
  deriving Repr, DecidableEq

def takeDigits (significand : Nat) : List Char → Nat × List Char
  | [] => (significand, [])
  | c :: rest =>
    let next := 10 * significand + (c.toNat - 48)
    if next > Word.max64 then (significand, c :: rest) else takeDigits next rest

def powerOfTen (n : Nat) : Binary64 := Binary64.ofRatio false (Nat.pow 10 n) 1

/-- Scales a significand by `10 ^ exp` in steps the power table allows. -/
def scale (x : Binary64) (exp : Int) : (fuel : Nat) → Option Binary64
  | 0 => some x
  | fuel + 1 =>
    if exp.natAbs ≤ 308 then
      if exp ≥ 0 then
        let y := x.mul (powerOfTen exp.toNat)
        if y.isInfinite then none else some y
      else some (x.div (powerOfTen exp.natAbs))
    else if x.isZero then some x
    else if exp ≥ 0 then none
    else scale (x.div (powerOfTen 308)) (exp + 308) fuel

def clampExponent (n : Int) : Int := max (-2147483648) (min 2147483647 n)

def toBinary64 (negative : Bool) (significand : Nat) (exp : Int) : Option Binary64 :=
  (scale (Binary64.ofRatio false significand 1) (clampExponent exp) 8).map fun x =>
    if negative then x.negate else x

def exponentValue? (digits : List Char) : Option Nat :=
  let n := Text.Ascii.natOf digits
  if n > 2147483647 then none else some n

def withExponent (n : Numeral) (significand : Nat) (exp : Int) : Option Binary64 :=
  match n.exponent with
  | none => toBinary64 n.negative significand exp
  | some (minus, digits) =>
    match exponentValue? digits with
    | some e => toBinary64 n.negative significand (if minus then exp - e else exp + e)
    | none =>
      if significand ≠ 0 ∧ !minus then none
      else some (Binary64.ofMagnitude n.negative 0)

def Numeral.value? (n : Numeral) : Option Datum :=
  let (significand, excess) := takeDigits 0 n.whole
  match n.fraction with
  | some digits =>
    let (significand, dropped) := takeDigits significand digits
    let exp := (excess.length : Int) - ((digits.length - dropped.length : Nat) : Int)
    (withExponent n significand exp).map .float
  | none =>
    if n.exponent.isSome ∨ !excess.isEmpty then (withExponent n significand excess.length).map .float
    else if !n.negative then some (.int significand)
    else if significand = 0 ∨ significand > 0x8000000000000000 then
      some (.float ((Binary64.ofRatio false significand 1).negate))
    else some (.int (-significand))

end ProtocolGateway.Json
