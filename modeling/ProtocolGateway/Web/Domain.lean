import ProtocolGateway.Web.DomainMapping
import ProtocolGateway.Web.DomainLetters
import ProtocolGateway.Web.Punycode
import ProtocolGateway.Text.Normalization

/-!
International domain names in their ASCII form. A name is mapped and composed as a whole, then each
label is checked: what the table allows, no mark in front, joiners only where letters join, and one
writing direction where any label runs from right to left.
-/

namespace ProtocolGateway.Web.Domain

/-- What no host may hold, even after the mapping. -/
def isForbidden (c : Char) : Bool :=
  c.toNat ≤ 0x20 || c.toNat = 0x7F ||
    ['%', '#', '/', ':', '<', '>', '?', '@', '[', '\\', ']', '^', '|'].contains c

def mapChars : List Char → Option (List Char)
  | [] => some []
  | c :: rest =>
    match domainFate c with
    | .refused => none
    | .dropped => mapChars rest
    | .keep => (mapChars rest).map (c :: ·)
    | .replaced cs => (mapChars rest).map (cs ++ ·)

def virama : Nat := 9

/-- Whether the letters before a non-joiner, nearest first, reach one that joins to its left. -/
def joinsBefore : List Char → Bool
  | [] => false
  | c :: rest =>
    match joining c with
    | .transparent => joinsBefore rest
    | .left | .dual => true
    | _ => false

def joinsAfter : List Char → Bool
  | [] => false
  | c :: rest =>
    match joining c with
    | .transparent => joinsAfter rest
    | .right | .dual => true
    | _ => false

/-- Joiners are allowed after a virama, the non-joiner also between joining letters. `before` is
what stands before, nearest first. -/
def joinersFit : (before : List Char) → List Char → Bool
  | _, [] => true
  | before, c :: rest =>
    let afterVirama := match before with
      | p :: _ => Text.combiningClass p.toNat == virama
      | [] => false
    let fits :=
      if c.toNat = 0x200C then afterVirama || (joinsBefore before && joinsAfter rest)
      else if c.toNat = 0x200D then afterVirama
      else true
    fits && joinersFit (c :: before) rest

def lastDirection (label : List Char) : Option Direction :=
  ((label.map direction).reverse.dropWhile (· == .mark)).head?

def isRightward (d : Direction) : Bool := d == .right || d == .arabic || d == .arabicNumber

def directionFits (label : List Char) : Bool :=
  let ds := label.map direction
  match ds with
  | [] => true
  | .left :: _ =>
    ds.all (fun d => [Direction.left, .europeanNumber, .separator, .commonSeparator, .terminator,
      .neutral, .boundary, .mark].contains d) &&
    (lastDirection label == some .left || lastDirection label == some .europeanNumber)
  | .right :: _ | .arabic :: _ =>
    ds.all (fun d => [Direction.right, .arabic, .arabicNumber, .europeanNumber, .separator,
      .commonSeparator, .terminator, .neutral, .boundary, .mark].contains d) &&
    (match lastDirection label with
      | some .right | some .arabic | some .europeanNumber | some .arabicNumber => true
      | _ => false) &&
    !(ds.contains .europeanNumber && ds.contains .arabicNumber)
  | _ => false

def labelFits (label : List Char) : Bool :=
  !(label.head?.map isMark |>.getD false) && joinersFit [] label

def isEncoded (label : List Char) : Bool := label.take 4 == ['x', 'n', '-', '-']

/-- A label as read and as written. -/
structure Label where
  shown : List Char
  written : List Char

/-- An encoded label stays as it is written, if what it stands for is a well-formed label. -/
def ofEncoded? (label : List Char) : Option Label := do
  let shown ← Punycode.decode? (label.drop 4)
  if shown.all Text.Ascii.isAscii then none
  else if Text.Normalization.composed shown != shown then none
  else if shown.any (fun c => domainFate c != .keep) then none
  else if labelFits shown then some ⟨shown, label⟩ else none

def label? (label : List Char) : Option Label :=
  if isEncoded label then ofEncoded? label
  else if label.all Text.Ascii.isAscii then some ⟨label, label⟩
  else if labelFits label then some ⟨label, ['x', 'n', '-', '-'] ++ Punycode.encode label⟩
  else none

def joinLabels : List (List Char) → List Char
  | [] => []
  | [label] => label
  | label :: rest => label ++ '.' :: joinLabels rest

def toAscii? (name : List Char) : Option (List Char) := do
  let mapped := Text.Normalization.composed (← mapChars name)
  if mapped.any isForbidden then none
  else
    let labels ← (Text.Runs.pieces (· == '.') mapped).mapM label?
    let rightward := labels.any fun l => l.shown.any fun c => isRightward (direction c)
    if rightward && !labels.all (fun l => directionFits l.shown) then none
    else some (joinLabels (labels.map (·.written)))

end ProtocolGateway.Web.Domain
