import ProtocolGateway.Data.Reader
import ProtocolGateway.Toml.Scalar
import ProtocolGateway.Toml.Text

/-!
TOML documents. Tables can be opened once by a header, filled by dotted keys, or come about on the
way to others; which of these it was decides what may be added to them later.
-/

namespace ProtocolGateway.Toml

/-! Tables under construction -/

inductive Item where
  /-- A value that is complete, tables and lists written on one line among them. -/
  | value (d : Datum)
  /-- A table. It is implicit until a header opens it, and dotted when dotted keys made it. -/
  | table (implicit dotted : Bool) (entries : List (String × Item))
  /-- Tables that follow each other under one header. -/
  | tables (elements : List (List (String × Item)))

abbrev Items := List (String × Item)

namespace Items

def find? (es : Items) (key : String) : Option Item := (List.find? (·.1 == key) es).map (·.2)

def put (es : Items) (key : String) (item : Item) : Items :=
  if es.any (·.1 == key) then es.map fun e => if e.1 == key then (key, item) else e
  else es ++ [(key, item)]

def erase (es : Items) (key : String) : Items := es.filter (·.1 != key)

/-- Goes down a path, making tables where there are none, and changes what is at its end. `byDots`
tells a dotted key from a header: a dotted key does not enter tables that a header opened. -/
def change {α : Type} (byDots : Bool) (f : Bool → Items → Option (Items × α)) :
    (path : List String) → (isDotted : Bool) → Items → Option (Items × α)
  | [], isDotted, es => f isDotted es
  | key :: path, _, es =>
    match es.find? key with
    | none => do
      let (inner, a) ← change byDots f path byDots []
      some (es.put key (.table true byDots inner), a)
    | some (.value _) => none
    | some (.table implicit dotted inner) =>
      if byDots && !implicit then none
      else do
        let (inner, a) ← change byDots f path dotted inner
        some (es.put key (.table implicit dotted inner), a)
    | some (.tables elements) => do
      let (last, a) ← change byDots f path false (elements.getLast?.getD [])
      some (es.put key (.tables (elements.dropLast ++ [last])), a)

/-- Adds a value under a dotted key. Dotted keys add to what dotted keys made, and a plain key adds
to the table at hand; a key is given once. -/
def addValue (es : Items) (key : List String) (value : Datum) : Option Items :=
  match key.getLast? with
  | none => none
  | some last =>
    let path := key.dropLast
    (change true (fun isDotted inner =>
      if isDotted == path.isEmpty then none
      else if (inner.find? last).isSome then none
      else some (inner.put last (.value value), ())) path false es).map (·.1)

end Items

mutual
def Item.datum : Item → Datum
  | .value d => d
  | .table _ _ entries => .map (membersOf entries)
  | .tables elements => .list (dataOf elements)

def membersOf : List (String × Item) → List (Datum × Datum)
  | [] => []
  | (key, item) :: rest => (.text key, item.datum) :: membersOf rest

def dataOf : List (List (String × Item)) → List Datum
  | [] => []
  | t :: rest => .map (membersOf t) :: dataOf rest
end

/-! Values -/

abbrev ValueReader := List Char → Option (Datum × List Char)

def readItems (value : ValueReader) : (fuel : Nat) → List Char → List Datum → Option (Datum × List Char)
  | 0, _, _ => none
  | fuel + 1, cs, done =>
    match skipLines (cs.length + 1) cs with
    | ']' :: rest => some (.list done.reverse, rest)
    | cs => do
      let (item, rest) ← value cs
      match skipLines (rest.length + 1) rest with
      | ',' :: more => readItems value fuel more (item :: done)
      | ']' :: after => some (.list (item :: done).reverse, after)
      | _ => none

def readPair (value : ValueReader) (cs : List Char) : Option ((List String × Datum) × List Char) := do
  let (key, rest) ← readKey cs
  match rest with
  | '=' :: rest => do
    let (d, rest) ← value (skipBlanks rest)
    some ((key, d), rest)
  | _ => none

def readMembers (value : ValueReader) : (fuel : Nat) → List Char → Items → Option (Datum × List Char)
  | 0, _, _ => none
  | fuel + 1, cs, done => do
    let ((key, d), rest) ← readPair value cs
    let done ← done.addValue key d
    match skipBlanks rest with
    | ',' :: more => readMembers value fuel more done
    | '}' :: after => some (.map (membersOf done), after)
    | _ => none

def readValue : (depth : Nat) → ValueReader
  | depth, cs =>
    match cs with
    | [] => none
    | c :: rest =>
      if isQuote c then (readText cs).map fun (s, rest) => (.text s, rest)
      else if c = '[' then
        match depth with
        | 0 => none
        | depth + 1 => readItems (readValue depth) (rest.length + 1) rest []
      else if c = '{' then
        match depth with
        | 0 => none
        | depth + 1 =>
          match skipBlanks rest with
          | '}' :: after => some (.map [], after)
          | inner => readMembers (readValue depth) (inner.length + 1) inner []
      else readScalar cs

def maxDepth : Nat := 79

/-! Documents -/

structure Draft where
  root : Items
  current : Items
  path : List String
  isElement : Bool

namespace Draft

def start : Draft := ⟨[], [], [], false⟩

def close (d : Draft) : Option Items :=
  match d.path.getLast? with
  | none => some d.current
  | some last =>
    (Items.change false (fun _ es =>
      if d.isElement then
        match es.find? last with
        | none => some (es.put last (.tables [d.current]), ())
        | some (.tables elements) => some (es.put last (.tables (elements ++ [d.current])), ())
        | some _ => none
      else some (es.put last (.table false false d.current), ())) d.path.dropLast false d.root).map (·.1)

/-- Opens a table. One that came about on the way to others may be opened once. -/
def openTable (d : Draft) (path : List String) : Option Draft := do
  let root ← d.close
  let last ← path.getLast?
  let (root, entries) ← Items.change false (fun _ es =>
    match es.find? last with
    | none => some (es, [])
    | some (.table true false entries) => some (es.erase last, entries)
    | some _ => none) path.dropLast false root
  some ⟨root, entries, path, false⟩

def openElement (d : Draft) (path : List String) : Option Draft := do
  let root ← d.close
  some ⟨root, [], path, true⟩

def add (d : Draft) (key : List String) (value : Datum) : Option Draft :=
  (d.current.addValue key value).map fun current => { d with current := current }

end Draft

def readHeader (d : Draft) (cs : List Char) : Option (Draft × List Char) :=
  match cs with
  | '[' :: '[' :: rest => do
    let (path, rest) ← readKey rest
    match rest with
    | ']' :: ']' :: rest => (d.openElement path).map (·, rest)
    | _ => none
  | '[' :: rest => do
    let (path, rest) ← readKey rest
    match rest with
    | ']' :: rest => (d.openTable path).map (·, rest)
    | _ => none
  | _ => none

def readDocument : (fuel : Nat) → Draft → List Char → Option Draft
  | 0, _, _ => none
  | fuel + 1, d, cs =>
    match skipBlanks cs with
    | [] => some d
    | '[' :: rest => do
      let (d, rest) ← readHeader d ('[' :: rest)
      readDocument fuel d (← endLine? rest)
    | '#' :: rest => do readDocument fuel d (← endLine? ('#' :: rest))
    | c :: rest =>
      match afterLineEnd? (c :: rest) with
      | some rest => readDocument fuel d rest
      | none => do
        let ((key, value), rest) ← readPair (readValue maxDepth) (c :: rest)
        readDocument fuel (← d.add key value) (← endLine? rest)

def read (text : String) : Option Datum := do
  let cs := match text.toList with
    | c :: rest => if c.toNat = 0xFEFF then rest else c :: rest
    | [] => []
  let d ← readDocument (cs.length + 1) .start cs
  let root ← d.close
  some (.map (membersOf root))

/-- A list that is read as a record may go on, and a choice may hold an empty list or table. -/
def dialect : Dialect := ⟨false, false, true, fun
  | .list items => items.isEmpty
  | .map members => members.isEmpty
  | _ => false⟩

end ProtocolGateway.Toml
