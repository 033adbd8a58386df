import ProtocolGateway.Data.Datum
import ProtocolGateway.Text.Ascii
import ProtocolGateway.Text.Hex

/-!
TOML's numbers, truth values and dates. Each stands in one unbroken word, except that a blank may
separate a date from its time.
-/

namespace ProtocolGateway.Toml

open Text.Ascii (isDigit isLetter natOf)

/-! Digits -/

def ungrouped (isDigit : Char → Bool) : List Char → Option (List Char)
  | [] => none
  | [c] => if isDigit c then some [c] else none
  | c :: '_' :: rest => if isDigit c then (ungrouped isDigit rest).map (c :: ·) else none
  | c :: rest => if isDigit c then (ungrouped isDigit rest).map (c :: ·) else none

def wholeDigits (cs : List Char) : Option (List Char) :=
  match cs with
  | '0' :: _ :: _ => none
  | _ => ungrouped isDigit cs

def unsigned (cs : List Char) : Bool × List Char :=
  match cs with
  | '+' :: rest => (false, rest)
  | '-' :: rest => (true, rest)
  | _ => (false, cs)

/-! Whole numbers -/

def inBase (base : Nat) (digits : List Char) : Nat :=
  digits.foldl (fun n c => base * n + (Text.Hex.digitValue? c).getD 0) 0

def isDigitOf (base : Nat) (c : Char) : Bool :=
  match Text.Hex.digitValue? c with
  | some d => d < base
  | none => false

def fitting (i : Int) : Option Datum := if Word.fitsSigned i then some (.int i) else none

def integer? (word : List Char) : Option Datum :=
  let radix (base : Nat) (rest : List Char) : Option Datum :=
    (ungrouped (isDigitOf base) rest).bind fun digits => fitting (inBase base digits)
  match word with
  | '0' :: 'x' :: rest => radix 16 rest
  | '0' :: 'o' :: rest => radix 8 rest
  | '0' :: 'b' :: rest => radix 2 rest
  | _ =>
    let (negative, digits) := unsigned word
    (wholeDigits digits).bind fun digits =>
      fitting (if negative then -(natOf digits : Int) else natOf digits)

/-! Doubles -/

def cutAt (stop : Char → Bool) (cs : List Char) : List Char × Option (List Char) :=
  match cs.dropWhile (!stop ·) with
  | [] => (cs, none)
  | _ :: rest => (cs.takeWhile (!stop ·), some rest)

def exponentValue? (cs : List Char) : Option Int :=
  let (negative, digits) := unsigned cs
  (ungrouped isDigit digits).map fun digits =>
    if negative then -(natOf digits : Int) else natOf digits

def isExponentMark (c : Char) : Bool := c == 'e' || c == 'E'

/-- A number with a fraction, an exponent or both. One too large to be finite is refused unless it
is negative. -/
def decimal? (word : List Char) : Option Datum := do
  let (negative, rest) := unsigned word
  let (mantissa, exponent) := cutAt isExponentMark rest
  let (whole, fraction) := cutAt (· == '.') mantissa
  if exponent.isNone && fraction.isNone then none
  else
    let whole ← wholeDigits whole
    let fraction ← match fraction with
      | some f => ungrouped isDigit f
      | none => some []
    let exponent ← match exponent with
      | some e => exponentValue? e
      | none => some 0
    let x := Binary64.ofDecimal negative (natOf (whole ++ fraction)) (exponent - fraction.length)
    if x.isInfinite && !x.isNegative then none else some (.float x)

def special? (word : List Char) : Option Datum :=
  let (negative, rest) := unsigned word
  if rest = ['i', 'n', 'f'] then some (.float (.infinity negative))
  else if rest = ['n', 'a', 'n'] then some (.float (if negative then Binary64.nan.negate else .nan))
  else none

/-! Dates and times -/

def fixed (width lo hi : Nat) (cs : List Char) : Option (Nat × List Char) :=
  let digits := cs.take width
  if digits.length = width ∧ digits.all isDigit ∧ lo ≤ natOf digits ∧ natOf digits ≤ hi then
    some (natOf digits, cs.drop width)
  else none

def skip (c : Char) : List Char → Option (List Char)
  | d :: rest => if d = c then some rest else none
  | [] => none

def isLeapYear (y : Nat) : Bool := y % 4 == 0 && (y % 100 != 0 || y % 400 == 0)

def daysIn (year month : Nat) : Nat :=
  if month = 2 then (if isLeapYear year then 29 else 28)
  else if month = 4 ∨ month = 6 ∨ month = 9 ∨ month = 11 then 30
  else 31

def padded (width n : Nat) : List Char :=
  let digits := Nat.toDigits 10 n
  List.replicate (width - digits.length) '0' ++ digits

def date? (cs : List Char) : Option (List Char × List Char) := do
  let (year, cs) ← fixed 4 0 9999 cs
  let (month, cs) ← fixed 2 1 12 (← skip '-' cs)
  let (day, cs) ← fixed 2 1 31 (← skip '-' cs)
  if day > daysIn year month then none
  else some (padded 4 year ++ '-' :: padded 2 month ++ '-' :: padded 2 day, cs)

/-- The fraction of a second: nine digits count, and zeros at the end are not written. -/
def secondFraction? (cs : List Char) : Option (List Char × List Char) :=
  match cs with
  | '.' :: rest =>
    let digits := rest.takeWhile isDigit
    if digits.isEmpty then none
    else
      let kept := ((digits.take 9).reverse.dropWhile (· = '0')).reverse
      some (if kept.isEmpty then [] else '.' :: kept, rest.drop digits.length)
  | _ => some ([], cs)

/-- A time of day; a leap second may be written. -/
def time? (cs : List Char) : Option (List Char × List Char) := do
  let (hour, cs) ← fixed 2 0 23 cs
  let (minute, cs) ← fixed 2 0 59 (← skip ':' cs)
  let (second, cs) ← fixed 2 0 60 (← skip ':' cs)
  let (fraction, cs) ← secondFraction? cs
  some (padded 2 hour ++ ':' :: padded 2 minute ++ ':' :: padded 2 second ++ fraction, cs)

def offset? (cs : List Char) : Option (List Char) :=
  match cs with
  | [] => some []
  | ['Z'] | ['z'] => some ['Z']
  | sign :: rest =>
    if sign = '+' ∨ sign = '-' then do
      let (hour, rest) ← fixed 2 0 23 rest
      let (minute, rest) ← fixed 2 0 59 (← skip ':' rest)
      let sign := if hour = 0 ∧ minute = 0 then '+' else sign
      if rest.isEmpty then some (sign :: padded 2 hour ++ ':' :: padded 2 minute) else none
    else none

/-- The key under which a date or time shows its written form. -/
def dateKey : String := "$__toml_private_datetime"

def moment (written : List Char) : Datum := .ofMembers [(dateKey, .text (String.ofList written))]

def moment? (word : List Char) : Option Datum :=
  match date? word with
  | some (date, []) => some (moment date)
  | some (date, mark :: rest) =>
    if mark = 'T' ∨ mark = 't' ∨ mark = ' ' then do
      let (time, rest) ← time? rest
      let offset ← offset? rest
      some (moment (date ++ 'T' :: time ++ offset))
    else none
  | none =>
    match time? word with
    | some (time, []) => some (moment time)
    | _ => none

/-! Words -/

def isWordChar (c : Char) : Bool :=
  isDigit c || isLetter c || c == '_' || c == '+' || c == '-' || c == '.' || c == ':'

def scalar? (word : List Char) : Option Datum :=
  if word = "true".toList then some (.bool true)
  else if word = "false".toList then some (.bool false)
  else (moment? word).orElse fun _ =>
    (special? word).orElse fun _ => (integer? word).orElse fun _ => decimal? word

def timeFollows (cs : List Char) : Bool :=
  match cs with
  | ' ' :: a :: b :: ':' :: _ => isDigit a && isDigit b
  | _ => false

def readScalar (cs : List Char) : Option (Datum × List Char) :=
  let word := cs.takeWhile isWordChar
  let rest := cs.drop word.length
  if (date? word).any (·.2.isEmpty) && timeFollows rest then
    let time := (rest.drop 1).takeWhile isWordChar
    (scalar? (word ++ ' ' :: time)).map (·, rest.drop (time.length + 1))
  else (scalar? word).map (·, rest)

end ProtocolGateway.Toml
