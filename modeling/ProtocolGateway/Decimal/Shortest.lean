import ProtocolGateway.Decimal.Binary64

/-!
The shortest decimal of a double: the fewest digits that round back to it and, of those, the
nearest. Two texts are written from it: the JSON one, and the positional one of the metrics.
-/

namespace ProtocolGateway.Decimal

/-- `digits * 10 ^ exp`. -/
structure Scientific where
  digits : Nat
  exp : Int
  deriving DecidableEq, Repr

def Scientific.toBinary64 (d : Scientific) : Binary64 := Binary64.ofDecimal false d.digits d.exp

/-- The greatest `k` at most `bound` with `10 ^ k * den ≤ num`. -/
def decimalTop (num den : Nat) : (bound : Nat) → Nat
  | 0 => 0
  | k + 1 => if Nat.pow 10 (k + 1) * den ≤ num then k + 1 else decimalTop num den k

def leadingExponent (num den : Nat) : Int :=
  if den ≤ num then (decimalTop num den 309 : Int)
  else
    -- num / den < 1: scale by 10 ^ 330 first.
    (decimalTop (num * Nat.pow 10 330) den 330 : Int) - 330

def neighbours (num den : Nat) (exp : Int) : Nat × Nat :=
  let below := if exp ≥ 0 then num / (den * Nat.pow 10 exp.toNat) else num * Nat.pow 10 (-exp).toNat / den
  (below, below + 1)

def nearerBelow (num den : Nat) (exp : Int) (below : Nat) : Bool :=
  -- Compares 2 * num / den with (2 * below + 1) * 10 ^ exp.
  if exp ≥ 0 then 2 * num ≤ (2 * below + 1) * Nat.pow 10 exp.toNat * den
  else 2 * num * Nat.pow 10 (-exp).toNat ≤ (2 * below + 1) * den

/-- Tries grids from coarse to fine; the first with a neighbour that reads back wins. -/
def searchGrids (x : Binary64) (num den : Nat) (top : Int) : (left : Nat) → (count : Nat) → Scientific
  | 0, count => ⟨(neighbours num den (top - count)).1, top - count⟩
  | left + 1, count =>
    let exp := top - count
    let (below, above) := neighbours num den exp
    let lowFits := Scientific.toBinary64 ⟨below, exp⟩ == x
    let highFits := Scientific.toBinary64 ⟨above, exp⟩ == x
    match lowFits, highFits with
    | true, true => ⟨if nearerBelow num den exp below then below else above, exp⟩
    | true, false => ⟨below, exp⟩
    | false, true => ⟨above, exp⟩
    | false, false => searchGrids x num den top left (count + 1)

def shortest (x : Binary64) : Scientific :=
  let x := Binary64.ofMagnitude false x.magnitude
  if x.isZero then ⟨0, 0⟩
  else searchGrids x x.numerator x.denominator (leadingExponent x.numerator x.denominator) 17 0

def Scientific.trimmed (d : Scientific) : (fuel : Nat) → Scientific
  | 0 => d
  | fuel + 1 =>
    if d.digits ≠ 0 ∧ d.digits % 10 = 0 then Scientific.trimmed ⟨d.digits / 10, d.exp + 1⟩ fuel else d

def zeros (n : Nat) : List Char := List.replicate n '0'

/-- Every digit before and after the point, the point only where a fraction follows. -/
def positional (x : Binary64) : String :=
  let d := (shortest x).trimmed 400
  let text := Nat.toDigits 10 d.digits
  let body :=
    if d.exp ≥ 0 then text ++ (if d.digits = 0 then [] else zeros d.exp.toNat)
    else
      let places := (-d.exp).toNat
      if text.length > places then
        text.take (text.length - places) ++ '.' :: text.drop (text.length - places)
      else '0' :: '.' :: zeros (places - text.length) ++ text
  String.ofList (if x.isNegative then '-' :: body else body)

/-- The JSON text of a finite double: positional while the point falls within sixteen digits or
at most five zeros follow it, else with an exponent; a whole number keeps one zero after the point. -/
def jsonText (x : Binary64) : String :=
  let d := (shortest x).trimmed 400
  let text := Nat.toDigits 10 d.digits
  let point := (text.length : Int) + d.exp
  let body :=
    if d.digits = 0 then ['0', '.', '0']
    else if d.exp ≥ 0 ∧ point ≤ 16 then text ++ zeros d.exp.toNat ++ ['.', '0']
    else if 0 < point ∧ point ≤ 16 then text.take point.toNat ++ '.' :: text.drop point.toNat
    else if -5 < point ∧ point ≤ 0 then '0' :: '.' :: zeros (-point).toNat ++ text
    else
      let e := point - 1
      let mantissa := match text with
        | [d] => [d]
        | d :: rest => d :: '.' :: rest
        | [] => []
      mantissa ++ 'e' :: (toString e).toList
  String.ofList (if x.isNegative then '-' :: body else body)

end ProtocolGateway.Decimal
