import ProtocolGateway.Text.Hex
import ProtocolGateway.Text.Ascii

/-!
TOML's quoted texts, on one line or several, plain or with escapes; blanks, line ends and comments;
and keys.
-/

namespace ProtocolGateway.Toml

open Text.Ascii (isDigit isLetter)

/-! Blanks, line ends and comments -/

def isBlank (c : Char) : Bool := c == ' ' || c == '\t'

def skipBlanks (cs : List Char) : List Char := cs.dropWhile isBlank

def isPlain (c : Char) : Bool := c == '\t' || (c.toNat ≥ 0x20 && c.toNat != 0x7F)

def afterLineEnd? : List Char → Option (List Char)
  | '\n' :: rest => some rest
  | '\r' :: '\n' :: rest => some rest
  | _ => none

def skipComment (cs : List Char) : List Char :=
  match skipBlanks cs with
  | '#' :: rest => rest.dropWhile isPlain
  | rest => rest

def endLine? (cs : List Char) : Option (List Char) :=
  match skipComment cs with
  | [] => some []
  | rest => afterLineEnd? rest

def skipLines : (fuel : Nat) → List Char → List Char
  | 0, cs => cs
  | fuel + 1, cs =>
    match afterLineEnd? (skipComment cs) with
    | some rest => skipLines fuel rest
    | none => skipBlanks cs

/-! Escapes -/

def codePoint? (width : Nat) (cs : List Char) : Option (Char × List Char) :=
  let digits := cs.take width
  if digits.length = width ∧ digits.all (fun c => (Text.Hex.digitValue? c).isSome) then
    let n := digits.foldl (fun n c => 16 * n + (Text.Hex.digitValue? c).getD 0) 0
    if n < 0xD800 ∨ (0xE000 ≤ n ∧ n < 0x110000) then some (Char.ofNat n, cs.drop width) else none
  else none

def escaped? : List Char → Option (Char × List Char)
  | 'b' :: rest => some (Char.ofNat 8, rest)
  | 't' :: rest => some ('\t', rest)
  | 'n' :: rest => some ('\n', rest)
  | 'f' :: rest => some (Char.ofNat 12, rest)
  | 'r' :: rest => some ('\r', rest)
  | '"' :: rest => some ('"', rest)
  | '\\' :: rest => some ('\\', rest)
  | 'u' :: rest => codePoint? 4 rest
  | 'U' :: rest => codePoint? 8 rest
  | _ => none

/-! Texts on one line -/

def readBasic : (fuel : Nat) → List Char → List Char → Option (List Char × List Char)
  | 0, _, _ => none
  | fuel + 1, cs, done =>
    match cs with
    | '"' :: rest => some (done.reverse, rest)
    | '\\' :: rest => do
      let (c, rest) ← escaped? rest
      readBasic fuel rest (c :: done)
    | c :: rest => if isPlain c then readBasic fuel rest (c :: done) else none
    | [] => none

def readLiteral (cs : List Char) : Option (List Char × List Char) :=
  let content := cs.takeWhile fun c => isPlain c && c != Char.ofNat 39
  match cs.drop content.length with
  | q :: rest => if q = Char.ofNat 39 then some (content, rest) else none
  | [] => none

/-! Texts on several lines -/

def skipSpace : List Char → List Char
  | '\r' :: '\n' :: rest => skipSpace rest
  | c :: rest => if isBlank c || c == '\n' then skipSpace rest else c :: rest
  | [] => []

/-- A backslash at the end of a line takes the blanks and line ends after it away. -/
def afterContinuation? (cs : List Char) : Option (List Char) :=
  (afterLineEnd? (skipBlanks cs)).map skipSpace

/-- What a run of quotes means: fewer than three are text; three close the text, and up to two more
before them belong to it. -/
def closing (run : Nat) : Option (Nat × Bool) :=
  if run < 3 then some (run, false) else if run ≤ 5 then some (run - 3, true) else none

/-- Up to the three closing quotes, line ends as line feeds. -/
def readLines (quote : Char) (escapes : Bool) :
    (fuel : Nat) → List Char → List Char → Option (List Char × List Char)
  | 0, _, _ => none
  | fuel + 1, cs, done =>
    match afterLineEnd? cs with
    | some rest => readLines quote escapes fuel rest ('\n' :: done)
    | none =>
      match cs with
      | [] => none
      | c :: rest =>
        if c = quote then do
          let run := (cs.takeWhile (· = quote)).length
          let (kept, closes) ← closing run
          let done := List.replicate kept quote ++ done
          if closes then some (done.reverse, cs.drop run)
          else readLines quote escapes fuel (cs.drop run) done
        else if c = '\\' ∧ escapes then
          match afterContinuation? rest with
          | some rest => readLines quote escapes fuel rest done
          | none => do
            let (e, rest) ← escaped? rest
            readLines quote escapes fuel rest (e :: done)
        else if isPlain c then readLines quote escapes fuel rest (c :: done)
        else none

/-- A line end right after the opening quotes does not count. -/
def skipFirstLineEnd (cs : List Char) : List Char := (afterLineEnd? cs).getD cs

/-! Any text -/

def apostrophe : Char := Char.ofNat 39

def readShort (cs : List Char) : Option (String × List Char) :=
  match cs with
  | c :: rest =>
    let read :=
      if c = '"' then readBasic (rest.length + 1) rest []
      else if c = apostrophe then readLiteral rest
      else none
    read.map fun (content, rest) => (String.ofList content, rest)
  | [] => none

def isQuote (c : Char) : Bool := c == '"' || c == apostrophe

def readText (cs : List Char) : Option (String × List Char) :=
  match cs with
  | a :: b :: c :: rest =>
    if isQuote a && b == a && c == a then
      let body := skipFirstLineEnd rest
      (readLines a (a == '"') (body.length + 1) body []).map fun (content, rest) =>
        (String.ofList content, rest)
    else readShort cs
  | _ => readShort cs

/-! Keys -/

def isKeyChar (c : Char) : Bool := isDigit c || isLetter c || c == '_' || c == '-'

def readKeyPart (cs : List Char) : Option (String × List Char) :=
  match cs with
  | c :: _ =>
    if isQuote c then readShort cs
    else
      let bare := cs.takeWhile isKeyChar
      if bare.isEmpty then none else some (String.ofList bare, cs.drop bare.length)
  | [] => none

def readKeyParts : (fuel : Nat) → List Char → Option (List String × List Char)
  | 0, _ => none
  | fuel + 1, cs => do
    let (part, rest) ← readKeyPart (skipBlanks cs)
    match skipBlanks rest with
    | '.' :: more => do
      let (parts, rest) ← readKeyParts fuel more
      some (part :: parts, rest)
    | rest => some ([part], rest)

/-- A key has less than eighty parts. -/
def readKey (cs : List Char) : Option (List String × List Char) := readKeyParts 79 cs

end ProtocolGateway.Toml
