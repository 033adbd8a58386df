import ProtocolGateway.Text.Hex

/-!
Properties of code points as runs of one value each. A table is written as words: the distance
from the start of the run before in hexadecimal, then the token of the run's value.
-/

namespace ProtocolGateway.Text

structure Runs (α : Type) where
  starts : Array Nat
  values : Array α

namespace Runs

variable {α : Type}

def hexNat (digits : List Char) : Nat :=
  digits.foldl (fun n c => 16 * n + (Hex.digitValue? c).getD 0) 0

def isBlank (c : Char) : Bool := c == ' ' || c == '\n'

def pieces (cut : Char → Bool) : List Char → List (List Char)
  | [] => [[]]
  | c :: rest =>
    let tail := pieces cut rest
    if cut c then [] :: tail
    else match tail with
      | word :: more => (c :: word) :: more
      | [] => [[c]]

def words (text : String) : List (List Char) := (pieces isBlank text.toList).filter (!·.isEmpty)

def codePoints (text : List Char) : List Char :=
  ((pieces (· == '.') text).filter (!·.isEmpty)).map fun digits => Char.ofNat (hexNat digits)

def isHexDigit (c : Char) : Bool := ('0' ≤ c && c ≤ '9') || ('a' ≤ c && c ≤ 'f')

def tagged (value : List Char → α) (text : String) : Runs α :=
  let read := fun (last, starts, values) (word : List Char) =>
    let next := last + hexNat (word.takeWhile isHexDigit)
    (next, starts.push next, values.push (value (word.dropWhile isHexDigit)))
  let (_, starts, values) := (words text).foldl read (0, #[], #[])
  ⟨starts, values⟩

/-- Reads a table of bare distances: the first run is outside the property, the next inside. -/
def alternating (text : String) : Runs Bool :=
  let read := fun (last, inside, starts, values) (word : List Char) =>
    let next := last + hexNat word
    (next, !inside, starts.push next, values.push (!inside))
  let (_, _, starts, values) := (words text).foldl read (0, false, #[], #[])
  ⟨starts, values⟩

/-- How many of the starts below `hi` are at most `n`, given that `lo` of them are. -/
def countUpTo (starts : Array Nat) (n : Nat) : (fuel lo hi : Nat) → Nat
  | 0, lo, _ => lo
  | fuel + 1, lo, hi =>
    if lo ≥ hi then lo
    else
      let mid := (lo + hi) / 2
      if starts.getD mid 0 ≤ n then countUpTo starts n fuel (mid + 1) hi
      else countUpTo starts n fuel lo mid

def valueAt (table : Runs α) (n : Nat) (outside : α) : α :=
  match countUpTo table.starts n (table.starts.size + 1) 0 table.starts.size with
  | 0 => outside
  | k + 1 => table.values.getD k outside

def startingAt? (table : Runs α) (n : Nat) : Option α :=
  match countUpTo table.starts n (table.starts.size + 1) 0 table.starts.size with
  | 0 => none
  | k + 1 => if table.starts.getD k 0 = n then table.values[k]? else none

def entries (table : Runs α) : List (Nat × α) := table.starts.toList.zip table.values.toList

end Runs

end ProtocolGateway.Text
