import ProtocolGateway.Json.Number
import ProtocolGateway.Text.Hex

/-!
JSON text as a tree. Reading is in two steps, so that a member nobody asks for is held to the
grammar alone: its numbers may be out of range, its escapes may pair wrongly, and it may nest as
deep as it likes.
-/

namespace ProtocolGateway.Json

/-- A text as written; `none` when its escapes or octets spell no characters. -/
abbrev Spelling := Option String

inductive Tree where
  | null
  | bool (b : Bool)
  | number (n : Numeral)
  | text (s : Spelling)
  | array (items : List Tree)
  | object (members : List (Spelling × Tree))
  deriving Repr, Inhabited

/-! Texts -/

inductive Part where
  | octet (b : UInt8)
  | unit (n : Nat)

def escaped? (b : UInt8) : Option UInt8 :=
  match b.toNat with
  | 34 => some 34
  | 92 => some 92
  | 47 => some 47
  | 98 => some 8
  | 102 => some 12
  | 110 => some 10
  | 114 => some 13
  | 116 => some 9
  | _ => none

def hexOctet? (b : UInt8) : Option Nat := Text.Hex.digitValue? (Char.ofNat b.toNat)

def readParts : Octets → List Part → Option (List Part × Octets)
  | [], _ => none
  | b :: rest, done =>
    if b = 34 then some (done.reverse, rest)
    else if b = 92 then
      match rest with
      | e :: more =>
        if e = 117 then
          match more with
          | a :: b :: c :: d :: tail =>
            match hexOctet? a, hexOctet? b, hexOctet? c, hexOctet? d with
            | some w, some x, some y, some z =>
              readParts tail (.unit (((w * 16 + x) * 16 + y) * 16 + z) :: done)
            | _, _, _, _ => none
          | _ => none
        else match escaped? e with
          | some plain => readParts more (.octet plain :: done)
          | none => none
      | [] => none
    else if b.toNat < 32 then none
    else readParts rest (.octet b :: done)

/-- The octets of the parts; units beyond the basic plane must come in pairs. -/
def spell : List Part → Option Octets
  | [] => some []
  | .octet b :: rest => (spell rest).map (b :: ·)
  | .unit hi :: rest =>
    if 0xDC00 ≤ hi ∧ hi ≤ 0xDFFF then none
    else if 0xD800 ≤ hi ∧ hi ≤ 0xDBFF then
      match rest with
      | .unit lo :: more =>
        if 0xDC00 ≤ lo ∧ lo ≤ 0xDFFF then
          let n := 0x10000 + (hi - 0xD800) * 1024 + (lo - 0xDC00)
          (spell more).map (Text.Utf8.encodeChar (Char.ofNat n) ++ ·)
        else none
      | _ => none
    else (spell rest).map (Text.Utf8.encodeChar (Char.ofNat hi) ++ ·)

def spelling (parts : List Part) : Spelling := (spell parts).bind Text.Utf8.decode

def readText (cs : Octets) : Option (Spelling × Octets) :=
  (readParts cs []).map fun (parts, rest) => (spelling parts, rest)

/-! Numbers -/

def isDigit (b : UInt8) : Bool := 48 ≤ b.toNat && b.toNat ≤ 57

def digitRun (cs : Octets) : List Char × Octets :=
  let run := cs.takeWhile isDigit
  (run.map fun b => Char.ofNat b.toNat, cs.drop run.length)

def readFraction (cs : Octets) : Option (Option (List Char) × Octets) :=
  match cs with
  | 46 :: rest =>
    let (digits, rest) := digitRun rest
    if digits.isEmpty then none else some (some digits, rest)
  | _ => some (none, cs)

def readExponent (cs : Octets) : Option (Option (Bool × List Char) × Octets) :=
  match cs with
  | 101 :: rest | 69 :: rest =>
    let (minus, rest) := match rest with
      | 43 :: more => (false, more)
      | 45 :: more => (true, more)
      | _ => (false, rest)
    let (digits, rest) := digitRun rest
    if digits.isEmpty then none else some (some (minus, digits), rest)
  | _ => some (none, cs)

def readNumber (negative : Bool) (cs : Octets) : Option (Numeral × Octets) := do
  let (whole, rest) := digitRun cs
  if whole.isEmpty || (whole.head? == some '0' && whole.length > 1) then none
  else
    let (fraction, rest) ← readFraction rest
    let (exponent, rest) ← readExponent rest
    some (⟨negative, whole, fraction, exponent⟩, rest)

/-! Trees -/

def isBlank (b : UInt8) : Bool := b = 32 || b = 10 || b = 13 || b = 9

def skipBlanks (cs : Octets) : Octets := cs.dropWhile isBlank

def readWord (word : String) (t : Tree) (cs : Octets) : Option (Tree × Octets) :=
  let octets := Text.Utf8.encode word
  if cs.take octets.length == octets then some (t, cs.drop octets.length) else none

mutual
/-- One value. The fuel is the length of the text, which every step shortens. -/
def readTree : (fuel : Nat) → Octets → Option (Tree × Octets)
  | 0, _ => none
  | fuel + 1, cs =>
    match skipBlanks cs with
    | [] => none
    | b :: rest =>
      if b = 123 then
        match skipBlanks rest with
        | 125 :: after => some (.object [], after)
        | inner => readMembers fuel inner []
      else if b = 91 then
        match skipBlanks rest with
        | 93 :: after => some (.array [], after)
        | inner => readItems fuel inner []
      else if b = 34 then (readText rest).map fun (s, after) => (.text s, after)
      else if b = 45 then (readNumber true rest).map fun (n, after) => (.number n, after)
      else if isDigit b then (readNumber false (b :: rest)).map fun (n, after) => (.number n, after)
      else if b = 110 then readWord "null" .null (b :: rest)
      else if b = 116 then readWord "true" (.bool true) (b :: rest)
      else if b = 102 then readWord "false" (.bool false) (b :: rest)
      else none

def readItems : (fuel : Nat) → Octets → List Tree → Option (Tree × Octets)
  | 0, _, _ => none
  | fuel + 1, cs, done => do
    let (item, rest) ← readTree fuel cs
    match skipBlanks rest with
    | 44 :: more => readItems fuel more (item :: done)
    | 93 :: after => some (.array (item :: done).reverse, after)
    | _ => none

def readMembers : (fuel : Nat) → Octets → List (Spelling × Tree) → Option (Tree × Octets)
  | 0, _, _ => none
  | fuel + 1, cs, done =>
    match skipBlanks cs with
    | 34 :: rest => do
      let (key, rest) ← readText rest
      match skipBlanks rest with
      | 58 :: more => do
        let (value, rest) ← readTree fuel more
        match skipBlanks rest with
        | 44 :: more => readMembers fuel more ((key, value) :: done)
        | 125 :: after => some (.object ((key, value) :: done).reverse, after)
        | _ => none
      | _ => none
    | _ => none
end

def parse (text : Octets) : Option Tree := do
  let (t, rest) ← readTree (2 * text.length + 2) text
  if (skipBlanks rest).isEmpty then some t else none

/-! Values -/

def maxDepth : Nat := 127

mutual
def Tree.datum (left : Nat) : Tree → Datum
  | .null => .null
  | .bool b => .bool b
  | .number n => (n.value?).getD .refused
  | .text (some s) => .text s
  | .text none => .refused
  | .array items => if left = 0 then .refused else .list (itemData (left - 1) items)
  | .object members => if left = 0 then .refused else .map (memberData (left - 1) members)

def itemData (left : Nat) : List Tree → List Datum
  | [] => []
  | t :: rest => t.datum left :: itemData left rest

def memberData (left : Nat) : List (Spelling × Tree) → List (Datum × Datum)
  | [] => []
  | (key, t) :: rest =>
    (match key with
      | some s => .text s
      | none => .refused, t.datum left) :: memberData left rest
end

def read (text : Octets) : Option Datum := (parse text).map (Tree.datum maxDepth)

end ProtocolGateway.Json
