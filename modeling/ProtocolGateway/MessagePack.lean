import ProtocolGateway.Data.Datum

/-!
Binary documents in the MessagePack format: every value starts with an octet that tells its type and,
for the short ones, its length or the value itself.
-/

namespace ProtocolGateway.MessagePack

/-- Values that may lie inside each other. -/
def maxDepth : Nat := 1023

def readOctets (n : Nat) (cs : Octets) : Option (Octets × Octets) :=
  let taken := cs.take n
  if taken.length < n then none else some (taken, cs.drop n)

def readNat (n : Nat) (cs : Octets) : Option (Nat × Octets) :=
  (readOctets n cs).map fun (digits, rest) =>
    (digits.foldl (fun value b => value * 256 + b.toNat) 0, rest)

def signed (n value : Nat) : Int :=
  let bound := Nat.pow 256 n
  if 2 * value ≥ bound then (value : Int) - bound else value

def readText (n : Nat) (cs : Octets) : Option (Datum × Octets) :=
  (readOctets n cs).map fun (bytes, rest) =>
    (match Text.Utf8.decode bytes with
      | some s => .text s
      | none => .illegible, rest)

/-- Octets of an application's own type, which no reader here knows. -/
def readExtension (n : Nat) (cs : Octets) : Option (Datum × Octets) :=
  (readOctets (n + 1) cs).map fun (_, rest) => (.refused, rest)

def readMany {α : Type} (item : Octets → Option (α × Octets)) :
    (n : Nat) → Octets → List α → Option (List α × Octets)
  | 0, cs, done => some (done.reverse, cs)
  | n + 1, cs, done =>
    match item cs with
    | some (x, rest) => readMany item n rest (x :: done)
    | none => none

def readPair (item : Octets → Option (Datum × Octets)) (cs : Octets) :
    Option ((Datum × Datum) × Octets) := do
  let (key, rest) ← item cs
  let (value, rest) ← item rest
  some ((key, value), rest)

/-- What kind of value a first octet announces, and how its length or content is given. -/
inductive Lead where
  | plain (d : Datum)
  | unsigned (width : Nat)
  | signed (width : Nat)
  | single
  | double
  | text (length : Nat)
  | list (length : Nat)
  | map (length : Nat)
  | extension (length : Nat)
  /-- A length of `width` octets comes first. -/
  | sized (width : Nat) (kind : Nat → Lead)
  | octets (length : Nat)
  | reserved

def lead (b : Nat) : Lead :=
  if b < 0x80 then .plain (.int b)
  else if b < 0x90 then .map (b - 0x80)
  else if b < 0xA0 then .list (b - 0x90)
  else if b < 0xC0 then .text (b - 0xA0)
  else if b ≥ 0xE0 then .plain (.int ((b : Int) - 256))
  else match b with
    | 0xC0 => .plain .null
    | 0xC2 => .plain (.bool false)
    | 0xC3 => .plain (.bool true)
    | 0xC4 => .sized 1 .octets
    | 0xC5 => .sized 2 .octets
    | 0xC6 => .sized 4 .octets
    | 0xC7 => .sized 1 .extension
    | 0xC8 => .sized 2 .extension
    | 0xC9 => .sized 4 .extension
    | 0xCA => .single
    | 0xCB => .double
    | 0xCC => .unsigned 1
    | 0xCD => .unsigned 2
    | 0xCE => .unsigned 4
    | 0xCF => .unsigned 8
    | 0xD0 => .signed 1
    | 0xD1 => .signed 2
    | 0xD2 => .signed 4
    | 0xD3 => .signed 8
    | 0xD4 => .extension 1
    | 0xD5 => .extension 2
    | 0xD6 => .extension 4
    | 0xD7 => .extension 8
    | 0xD8 => .extension 16
    | 0xD9 => .sized 1 .text
    | 0xDA => .sized 2 .text
    | 0xDB => .sized 4 .text
    | 0xDC => .sized 2 .list
    | 0xDD => .sized 4 .list
    | 0xDE => .sized 2 .map
    | 0xDF => .sized 4 .map
    | _ => .reserved

def Lead.measured (l : Lead) (cs : Octets) : Option (Lead × Octets) :=
  match l with
  | .sized width kind => (readNat width cs).map fun (n, rest) => (kind n, rest)
  | l => some (l, cs)

/-- The content of a value. The reader of items is given only where nesting may go on. -/
def readContent (item : Option (Octets → Option (Datum × Octets))) (l : Lead) (cs : Octets) :
    Option (Datum × Octets) :=
  match l with
  | .plain d => some (d, cs)
  | .unsigned width => (readNat width cs).map fun (n, rest) => (.int n, rest)
  | .signed width => (readNat width cs).map fun (n, rest) => (.int (MessagePack.signed width n), rest)
  | .single => (readNat 4 cs).map fun (n, rest) => (.float (.ofSingle n.toUInt32), rest)
  | .double => (readNat 8 cs).map fun (n, rest) => (.float ⟨n.toUInt64⟩, rest)
  | .text n => readText n cs
  | .octets n => (readOctets n cs).map fun (bytes, rest) => (.octets bytes, rest)
  | .list n => do
    let (items, rest) ← readMany (← item) n cs []
    some (.list items, rest)
  | .map n => do
    let (members, rest) ← readMany (readPair (← item)) n cs []
    some (.map members, rest)
  | .extension n => item.bind fun _ => readExtension n cs
  | .sized .. | .reserved => none

def readValue : (depth : Nat) → Octets → Option (Datum × Octets)
  | _, [] => none
  | 0, b :: rest => do
    let (l, rest) ← (lead b.toNat).measured rest
    readContent none l rest
  | depth + 1, b :: rest => do
    let (l, rest) ← (lead b.toNat).measured rest
    readContent (some (readValue depth)) l rest

/-- The value at the start of the octets; what comes after it is not looked at. -/
def read (bytes : Octets) : Option Datum := (readValue maxDepth bytes).map (·.1)

end ProtocolGateway.MessagePack
