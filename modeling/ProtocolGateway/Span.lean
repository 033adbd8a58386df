/-!
Lengths of time, counted in nanoseconds. The written form uses the largest unit that leaves a
non-zero whole part and drops the zeros at the end of the fraction.
-/

namespace ProtocolGateway

structure Span where
  nanos : Nat
  deriving DecidableEq, Repr, Inhabited

namespace Span

def ofMillis (ms : Nat) : Span := ⟨ms * 1000000⟩

def ofSeconds (s : Nat) : Span := ⟨s * 1000000000⟩

def seconds (d : Span) : Nat := d.nanos / 1000000000

def millis (d : Span) : Nat := d.nanos / 1000000

/-- Milliseconds that a timer of millisecond steps takes for this span. -/
def timerMillis (d : Span) : Nat := (d.nanos + 999999) / 1000000

/-- The longest span: 2^64 - 1 seconds and 999999999 nanoseconds. -/
def maxNanos : Nat := 0x10000000000000000 * 1000000000 - 1

def decimals : (width scale rest : Nat) → List Char
  | 0, _, _ => []
  | width + 1, scale, rest =>
    if rest = 0 then []
    else Nat.digitChar (rest / (scale / 10)) :: decimals width (scale / 10) (rest % (scale / 10))

def inUnit (whole rest scale width : Nat) (unit : String) : String :=
  let fraction := decimals width scale rest
  toString whole ++ (if fraction.isEmpty then "" else "." ++ String.ofList fraction) ++ unit

def text (d : Span) : String :=
  if d.nanos ≥ 1000000000 then inUnit d.seconds (d.nanos % 1000000000) 1000000000 9 "s"
  else if d.nanos ≥ 1000000 then inUnit (d.nanos / 1000000) (d.nanos % 1000000) 1000000 6 "ms"
  else if d.nanos ≥ 1000 then inUnit (d.nanos / 1000) (d.nanos % 1000) 1000 3 "µs"
  else toString d.nanos ++ "ns"

end Span

end ProtocolGateway
