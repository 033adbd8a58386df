import ProtocolGateway.Text.Ascii
import ProtocolGateway.Web.Ipv6

/-!
Socket addresses: an IPv4 address and a port, or an IPv6 address in brackets, perhaps with a scope,
and a port.
-/

namespace ProtocolGateway.Web

inductive SocketAddress where
  | v4 (address : Ipv4.Address) (port : Nat)
  | v6 (address : Ipv6.Address) (scope port : Nat)
  deriving DecidableEq, Repr

namespace SocketAddress

def numberUpTo (bound : Nat) (digits : List Char) : Option Nat :=
  if digits.isEmpty || !digits.all Text.Ascii.isDigit then none
  else
    let n := Text.Ascii.natOf digits
    if n ≤ bound then some n else none

def port? : List Char → Option Nat
  | ':' :: digits => numberUpTo Word.max16 digits
  | _ => none

def ofV4? (cs : List Char) : Option SocketAddress := do
  let host := cs.takeWhile (· ≠ ':')
  let address ← Ipv4.ofPlain? host
  let port ← port? (cs.drop host.length)
  some (.v4 address port)

def scope? : List Char → Option Nat
  | [] => some 0
  | '%' :: digits => numberUpTo Word.max32 digits
  | _ => none

def ofV6? (cs : List Char) : Option SocketAddress := do
  let inner := cs.takeWhile (· ≠ ']')
  let host := inner.takeWhile (· ≠ '%')
  let address ← Ipv6.parse? host
  let scope ← scope? (inner.drop host.length)
  let port ← port? (cs.drop (inner.length + 1))
  some (.v6 address scope port)

def parse? (s : String) : Option SocketAddress :=
  match s.toList with
  | '[' :: rest => ofV6? rest
  | cs => ofV4? cs

/-- The written form of an IPv6 address; one that stands for an IPv4 address shows it. -/
def v6Text (a : Ipv6.Address) : String :=
  match a with
  | [0, 0, 0, 0, 0, 0xFFFF, hi, lo] => "::ffff:" ++ Ipv4.text (hi * 0x10000 + lo)
  | _ => Ipv6.text a

def text : SocketAddress → String
  | .v4 a port => Ipv4.text a ++ ":" ++ toString port
  | .v6 a scope port =>
    "[" ++ v6Text a ++ (if scope = 0 then "" else "%" ++ toString scope) ++ "]:" ++ toString port

end SocketAddress

end ProtocolGateway.Web
