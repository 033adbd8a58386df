import ProtocolGateway.Text.Ascii

/-!
Punycode: a label of any characters as letters, digits and hyphens. The plain characters come
first, then the places of all others as numbers in a base whose digits adapt to the text.
-/

namespace ProtocolGateway.Web.Punycode

def base : Nat := 36
def low : Nat := 1
def high : Nat := 26

/-- Shrinks a delta into a bias; the quotient drops below the bound after few steps. -/
def biasSteps : (fuel k delta : Nat) → Nat
  | 0, k, _ => k
  | fuel + 1, k, delta =>
    if delta > (base - low) * high / 2 then biasSteps fuel (k + base) (delta / (base - low))
    else k + (base - low + 1) * delta / (delta + 38)

def adapt (delta points : Nat) (first : Bool) : Nat :=
  let scaled := if first then delta / 700 else delta / 2
  biasSteps 40 0 (scaled + scaled / points)

def threshold (k bias : Nat) : Nat :=
  if k ≤ bias then low else if k ≥ bias + high then high else k - bias

def digitChar (n : Nat) : Char := if n < 26 then Char.ofNat (97 + n) else Char.ofNat (22 + n)

def digitValue? (c : Char) : Option Nat :=
  if Text.Ascii.isDigit c then some (c.toNat - 48 + 26)
  else if 'a' ≤ c ∧ c ≤ 'z' then some (c.toNat - 97)
  else if 'A' ≤ c ∧ c ≤ 'Z' then some (c.toNat - 65)
  else none

def encodeDelta (bias : Nat) : (fuel k delta : Nat) → List Char
  | 0, _, _ => []
  | fuel + 1, k, delta =>
    let t := threshold k bias
    if delta < t then [digitChar delta]
    else digitChar (t + (delta - t) % (base - t)) ::
      encodeDelta bias fuel (k + base) ((delta - t) / (base - t))

structure Progress where
  delta : Nat
  bias : Nat
  handled : Nat
  output : List Char

def encodePass (n plain : Nat) : List Nat → Progress → Progress
  | [], p => p
  | c :: rest, p =>
    if c < n then encodePass n plain rest { p with delta := p.delta + 1 }
    else if c = n then
      encodePass n plain rest
        ⟨0, adapt p.delta (p.handled + 1) (p.handled == plain), p.handled + 1,
          p.output ++ encodeDelta p.bias 40 base p.delta⟩
    else encodePass n plain rest p

def encodeRounds (input : List Nat) (plain : Nat) : (fuel n : Nat) → Progress → Progress
  | 0, _, p => p
  | fuel + 1, n, p =>
    if p.handled ≥ input.length then p
    else
      let next := (input.filter (· ≥ n)).foldl min 0x110000
      let p := { p with delta := p.delta + (next - n) * (p.handled + 1) }
      let p := encodePass next plain input p
      encodeRounds input plain fuel (next + 1) { p with delta := p.delta + 1 }

def encode (label : List Char) : List Char :=
  let plain := label.filter (·.toNat < 128)
  let head := if plain.isEmpty then [] else plain ++ ['-']
  let start : Progress := ⟨0, 72, plain.length, head⟩
  (encodeRounds (label.map (·.toNat)) plain.length (label.length + 1) 128 start).output

def decodeDelta (bias : Nat) : List Char → (k weight value : Nat) → Option (Nat × List Char)
  | [], _, _, _ => none
  | c :: rest, k, weight, value => do
    let digit ← digitValue? c
    let value := value + digit * weight
    if value > Word.max32 then none
    else
      let t := threshold k bias
      if digit < t then some (value, rest)
      else if weight * (base - t) > Word.max32 then none
      else decodeDelta bias rest (k + base) (weight * (base - t)) value

/-- Inserts character after character; `i` is the place and `n` the code point reached. -/
def decodeInsertions : (fuel : Nat) → List Char → (i n bias : Nat) → List Char → Option (List Char)
  | _, [], _, _, _, done => some done
  | 0, _ :: _, _, _, _, _ => none
  | fuel + 1, c :: cs, i, n, bias, done => do
    let (delta, rest) ← decodeDelta bias (c :: cs) base 1 0
    let size := done.length + 1
    let first : Bool := i == 0
    let i := i + delta
    let n := n + i / size
    let place := i % size
    if n ≥ 0x110000 ∨ (0xD800 ≤ n ∧ n < 0xE000) then none
    else
      decodeInsertions fuel rest (place + 1) n (adapt delta size first)
        (done.take place ++ Char.ofNat n :: done.drop place)

/-- What follows the last hyphen are the deltas; a hyphen in front belongs to them. -/
def splitPlain (cs : List Char) : List Char × List Char :=
  let tail := cs.reverse.takeWhile (· ≠ '-')
  if tail.length = cs.length then ([], cs)
  else
    let plain := cs.take (cs.length - tail.length - 1)
    if plain.isEmpty then ([], cs) else (plain, tail.reverse)

def decode? (cs : List Char) : Option (List Char) :=
  let (plain, deltas) := splitPlain cs
  if plain.any (·.toNat ≥ 128) then none
  else decodeInsertions (deltas.length + 1) deltas 0 128 72 plain

end ProtocolGateway.Web.Punycode
