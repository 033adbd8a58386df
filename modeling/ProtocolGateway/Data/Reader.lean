import ProtocolGateway.Data.Datum

/-!
Typed reading of a datum. What a type accepts is the same in every format but for the few points
that a `Dialect` names. A record may be given as a map of its fields or as a list of them in order.
-/

namespace ProtocolGateway

/-- Where formats differ in what they accept for a type. -/
structure Dialect where
  /-- A choice or a field may be given by its index. -/
  byIndex : Bool
  /-- Octets read as a list of numbers. -/
  octetsAsList : Bool
  /-- A list read as a record may go on after the last field. -/
  longRecords : Bool
  /-- What may stand beside the name of a choice that is written as a map of one member. -/
  choicePayload : Datum → Bool

abbrev Reader (α : Type) := Dialect → Datum → Option α

namespace Reader

variable {α : Type}

def bool : Reader Bool
  | _, .bool b => some b
  | _, _ => none

def int (lo hi : Int) : Reader Int
  | _, .int i => if lo ≤ i ∧ i ≤ hi then some i else none
  | _, _ => none

def nat (hi : Nat) : Reader Nat := fun d x => (int 0 hi d x).map Int.toNat

def float : Reader Binary64
  | _, .float x => some x
  | _, .int i => some (.ofInt i)
  | _, _ => none

/-- A text; octets will do when they are one. -/
def text : Reader String
  | _, .text s => some s
  | _, .octets bytes => Text.Utf8.decode bytes
  | _, _ => none

def list (item : Reader α) : Reader (List α)
  | d, .list items => items.mapM (item d)
  | d, .octets bytes =>
    if d.octetsAsList then (bytes.map fun b => Datum.int b.toNat).mapM (item d) else none
  | _, _ => none

/-- A map with texts for keys, in the order of its keys; of equal keys the last one counts. -/
def table (value : Reader α) : Reader (List (String × α))
  | d, .map members => do
    let entries ← members.mapM fun (k, v) => do
      let k ← text d k
      let v ← value d v
      some (k, v)
    some (sortedByKey entries)
  | _, _ => none
where
  put (k : String) (v : α) : List (String × α) → List (String × α)
    | [] => [(k, v)]
    | (k', v') :: rest =>
      if k < k' then (k, v) :: (k', v') :: rest
      else if k = k' then (k, v) :: rest
      else (k', v') :: put k v rest
  sortedByKey (entries : List (String × α)) : List (String × α) :=
    entries.foldl (fun done (k, v) => put k v done) []

def optional (value : Reader α) : Reader (Option α)
  | _, .null => some none
  | d, x => (value d x).map some

/-! Choices -/

def nameOf (d : Dialect) (names : List String) : Datum → Option String
  | .text s => some s
  | .octets bytes => some ((Text.Utf8.decode bytes).getD "")
  | .illegible => some ""
  | .int i => if d.byIndex ∧ 0 ≤ i then some (names.getD i.toNat "") else none
  | _ => none

/-- One of the names: alone, or as the one key of a map. -/
def choice (names : List String) : Reader String
  | d, .map [(key, payload)] =>
    (nameOf d names key).bind fun n => if names.contains n ∧ d.choicePayload payload then some n else none
  | d, x => (nameOf d names x).bind fun n => if names.contains n then some n else none

/-! Records -/

/-- A field as a document gives it. A list that ends early leaves fields `cutOff`. -/
inductive Slot where
  | given (x : Datum)
  | absent
  | cutOff

/-- The slot of one field among the members of a map; a field given twice is refused. -/
def slotAmong (members : List (String × Datum)) (name : String) : Option Slot :=
  match members.filter (·.1 == name) with
  | [] => some .absent
  | [(_, x)] => some (.given x)
  | _ => none

def slotsOfList : List String → List Datum → List Slot
  | [], _ => []
  | _ :: names, [] => .cutOff :: slotsOfList names []
  | _ :: names, x :: items => .given x :: slotsOfList names items

/-- The fields of a record in order. Members of other names are stepped over. -/
def slots (names : List String) : Reader (List Slot)
  | d, .map members => do
    let named ← members.mapM fun (k, v) => (nameOf d names k).map fun n => (n, v)
    names.mapM (slotAmong named)
  | d, .list items =>
    if items.length > names.length ∧ !d.longRecords then none else some (slotsOfList names items)
  | _, _ => none

def exactSlots (names : List String) : Reader (List Slot)
  | d, .map members =>
    if members.all fun (k, _) => ((nameOf d names k).map names.contains).getD false then
      slots names d (.map members)
    else none
  | d, x => slots names d x

def required (value : Reader α) (d : Dialect) : Slot → Option α
  | .given x => value d x
  | _ => none

/-- A field that may be left out of a map, though not of a list. -/
def optionalField (value : Reader α) (d : Dialect) : Slot → Option (Option α)
  | .given x => optional value d x
  | .absent => some none
  | .cutOff => none

def defaulted (value : Reader α) (fallback : α) (d : Dialect) : Slot → Option α
  | .given x => value d x
  | _ => some fallback

/-! Any value -/

mutual
/-- A value of plain data: keys are texts, octets are none, numbers that are not finite are null. -/
def plain : Datum → Option Datum
  | .float x => some (if x.isFinite then .float x else .null)
  | .octets _ | .illegible | .refused => none
  | .list items => (plainList items).map .list
  | .map members => (plainMap members []).map Datum.ofMembers
  | x => some x

def plainList : List Datum → Option (List Datum)
  | [] => some []
  | x :: rest => do
    let y ← plain x
    let ys ← plainList rest
    some (y :: ys)

def plainMap : List (Datum × Datum) → List (String × Datum) → Option (List (String × Datum))
  | [], done => some done
  | (.text k, x) :: rest, done => do
    let y ← plain x
    plainMap rest (Datum.putMember k y done)
  | _, _ => none
end

def any : Reader Datum := fun _ x => plain x

end Reader

end ProtocolGateway
