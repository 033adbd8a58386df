/-!
Double-precision numbers as their 64 bits, with every operation defined by one rule: take the exact
rational result and round it to the nearest double, a tie to the even significand.
-/

namespace ProtocolGateway

/-- An IEEE-754 double by its bit pattern: one sign bit, eleven exponent bits, 52 fraction bits. -/
structure Binary64 where
  bits : UInt64
  deriving DecidableEq, Repr, Inhabited

namespace Binary64

def signBit : Nat := 0x8000000000000000

def infinityBits : Nat := 0x7FF0000000000000

/-- The leading bit of a significand, 2 ^ 52. It is not stored. -/
def hiddenBit : Nat := 0x10000000000000

def magnitude (x : Binary64) : Nat := x.bits.toNat % signBit

def isNegative (x : Binary64) : Bool := x.bits.toNat ≥ signBit

def isFinite (x : Binary64) : Bool := x.magnitude < infinityBits

def isNaN (x : Binary64) : Bool := x.magnitude > infinityBits

def isInfinite (x : Binary64) : Bool := x.magnitude == infinityBits

def isZero (x : Binary64) : Bool := x.magnitude == 0

def ofMagnitude (neg : Bool) (magnitude : Nat) : Binary64 :=
  ⟨((if neg then signBit else 0) + magnitude).toUInt64⟩

def zero : Binary64 := ⟨0⟩

def infinity (neg : Bool) : Binary64 := ofMagnitude neg infinityBits

def nan : Binary64 := ⟨0x7FF8000000000000⟩

def negate (x : Binary64) : Binary64 := ofMagnitude (!x.isNegative) x.magnitude

/-- A finite magnitude is `significand * 2 ^ (exponent - 1074)`. -/
def significand (x : Binary64) : Nat :=
  let fraction := x.magnitude % hiddenBit
  if x.magnitude / hiddenBit = 0 then fraction else fraction + hiddenBit

def exponent (x : Binary64) : Nat := x.magnitude / hiddenBit - 1

def numerator (x : Binary64) : Nat := x.significand * Nat.pow 2 (x.exponent - 1074)

def denominator (x : Binary64) : Nat := Nat.pow 2 (1074 - x.exponent)

def roundedQuotient (num den : Nat) : Nat :=
  let q := num / den
  let twice := 2 * (num % den)
  if twice < den then q else if twice > den then q + 1 else q + q % 2

/-- The magnitude nearest to `num / den`. The bits of a magnitude count its grid points from zero,
so a carry out of the significand lands on the next exponent by itself. -/
def nearestMagnitude (num den : Nat) : Nat :=
  if num = 0 then 0
  else
    -- `top` is the position of the leading bit: 2 ^ top ≤ num / den < 2 ^ (top + 1), plus 2000.
    let guess := num.log2 + 2000 - den.log2
    let top := if num * Nat.pow 2 2000 < den * Nat.pow 2 guess then guess - 1 else guess
    -- The grid step is 2 ^ (step - 1074).
    let step := top + 1074 - 52 - 2000
    let scaled :=
      if step ≥ 1074 then roundedQuotient num (den * Nat.pow 2 (step - 1074))
      else roundedQuotient (num * Nat.pow 2 (1074 - step)) den
    min (step * hiddenBit + scaled) infinityBits

def ofRatio (neg : Bool) (num den : Nat) : Binary64 := ofMagnitude neg (nearestMagnitude num den)

def ofInt (i : Int) : Binary64 := ofRatio (i < 0) i.natAbs 1

/-- The double nearest to `digits * 10 ^ exp`. Exponents far outside the range of doubles are
settled without computing the power. -/
def ofDecimal (neg : Bool) (digits : Nat) (exp : Int) : Binary64 :=
  if digits = 0 then ofMagnitude neg 0
  else if exp > 400 then infinity neg
  else if exp + (digits.log2 : Int) < -1200 ∧ exp < -1200 then ofMagnitude neg 0
  else if exp ≥ 0 then ofRatio neg (digits * Nat.pow 10 exp.toNat) 1
  else ofRatio neg digits (Nat.pow 10 (-exp).toNat)

def mul (x y : Binary64) : Binary64 :=
  ofRatio (x.isNegative != y.isNegative) (x.numerator * y.numerator)
    (x.denominator * y.denominator)

def div (x y : Binary64) : Binary64 :=
  ofRatio (x.isNegative != y.isNegative) (x.numerator * y.denominator)
    (x.denominator * y.numerator)

/-- Widens a single-precision pattern. Every single is a double, so nothing is rounded. -/
def ofSingle (bits : UInt32) : Binary64 :=
  let n := bits.toNat
  let neg : Bool := n ≥ 0x80000000
  let exp := n / 0x800000 % 256
  let fraction := n % 0x800000
  if exp = 255 then
    if fraction = 0 then infinity neg else ofMagnitude neg (infinityBits + fraction * 0x20000000)
  else if exp = 0 then ofRatio neg fraction (Nat.pow 2 149)
  else ofRatio neg ((fraction + 0x800000) * Nat.pow 2 exp) (Nat.pow 2 150)

end Binary64

end ProtocolGateway
