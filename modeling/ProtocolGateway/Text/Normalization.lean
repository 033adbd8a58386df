import ProtocolGateway.Text.Composition

/-!
Composed normal form: every character is decomposed, marks are put into the order of their
combining classes, and what composes is composed again. Hangul syllables follow by arithmetic.
-/

namespace ProtocolGateway.Text.Normalization

def hangulBase : Nat := 0xAC00
def hangulLead : Nat := 0x1100
def hangulVowel : Nat := 0x1161
def hangulTail : Nat := 0x11A7

def decomposeHangul (n : Nat) : List Nat :=
  let index := n - hangulBase
  let lead := hangulLead + index / 588
  let vowel := hangulVowel + index % 588 / 28
  if index % 28 = 0 then [lead, vowel] else [lead, vowel, hangulTail + index % 28]

/-- Full decomposition; no chain of decompositions is as long as the fuel given below. -/
def decompose : (fuel : Nat) → Nat → List Nat
  | 0, n => [n]
  | fuel + 1, n =>
    if n < 0xC0 then [n]
    else if hangulBase ≤ n ∧ n < hangulBase + 11172 then decomposeHangul n
    else match decomposition? n with
      | some d => d.parts.flatMap (decompose fuel)
      | none => [n]

/-- Puts a mark in front of every mark of a higher class at the end of the text so far, which is
held in reverse. -/
def placeMark (cls n : Nat) : List Nat → List Nat
  | [] => [n]
  | last :: before =>
    let lastClass := combiningClass last
    if lastClass > cls ∧ cls ≠ 0 then last :: placeMark cls n before else n :: last :: before

def reorder (ns : List Nat) : List Nat :=
  (ns.foldl (fun done n => placeMark (combiningClass n) n done) []).reverse

def composeHangul? (first second : Nat) : Option Nat :=
  if hangulLead ≤ first ∧ first < hangulLead + 19 ∧ hangulVowel ≤ second ∧ second < hangulVowel + 21
  then some (hangulBase + ((first - hangulLead) * 21 + (second - hangulVowel)) * 28)
  else if hangulBase ≤ first ∧ first < hangulBase + 11172 ∧ (first - hangulBase) % 28 = 0 ∧
      hangulTail < second ∧ second < hangulTail + 28
  then some (first + (second - hangulTail))
  else none

def composePair? (first second : Nat) : Option Nat :=
  match composeHangul? first second with
  | some n => some n
  | none => composite? first second

/-- Composes onto `starter`. `between` holds, in reverse, what stands after it already; the next
character reaches the starter only past lower classes. -/
def composeOnto (starter : Nat) (between : List Nat) : List Nat → List Nat
  | [] => starter :: between.reverse
  | n :: rest =>
    let cls := combiningClass n
    let blocked := match between with
      | [] => false
      | last :: _ => combiningClass last ≥ cls
    match (if blocked then none else composePair? starter n) with
    | some joined => composeOnto joined between rest
    | none =>
      if cls = 0 then starter :: between.reverse ++ composeOnto n [] rest
      else composeOnto starter (n :: between) rest

def compose : List Nat → List Nat
  | [] => []
  | n :: rest => if combiningClass n = 0 then composeOnto n [] rest else n :: compose rest

def composed (cs : List Char) : List Char :=
  (compose (reorder (cs.flatMap fun c => decompose 8 c.toNat))).map Char.ofNat

end ProtocolGateway.Text.Normalization
