import ProtocolGateway.Web.Ipv6
import ProtocolGateway.Web.Domain
import ProtocolGateway.Web.Percent

/-!
Hosts of a URL. Schemes of the web have domains and addresses; every other scheme an opaque host,
which is kept but for escapes.
-/

namespace ProtocolGateway.Web

inductive UrlError where
  | emptyHost
  | internationalDomain
  | port
  | ipv4
  | ipv6
  | domainCharacter
  | relativeWithoutBase
  deriving DecidableEq, Repr

def UrlError.message : UrlError → String
  | .emptyHost => "empty host"
  | .internationalDomain => "invalid international domain name"
  | .port => "invalid port number"
  | .ipv4 => "invalid IPv4 address"
  | .ipv6 => "invalid IPv6 address"
  | .domainCharacter => "invalid domain character"
  | .relativeWithoutBase => "relative URL without a base"

namespace Host

def bracketed (cs : List Char) : Except UrlError String :=
  if cs.getLast? != some ']' then .error .ipv6
  else match Ipv6.parse? (cs.drop 1).dropLast with
    | some a => .ok ("[" ++ Ipv6.text a ++ "]")
    | none => .error .ipv6

/-- The host of a web scheme: escapes are read, then the name is put into ASCII form. -/
def ofDomain (cs : List Char) : Except UrlError String :=
  if cs.head? = some '[' then bracketed cs
  else match Text.Utf8.decodeChars (Percent.decode (Text.Utf8.encodeChars cs)) with
    | none => .error .internationalDomain
    | some name =>
      match Domain.toAscii? name with
      | none => .error .internationalDomain
      | some [] => .error .emptyHost
      | some ascii =>
        if Ipv4.endsInNumber ascii then
          match Ipv4.ofHost? ascii with
          | some a => .ok (Ipv4.text a)
          | none => .error .ipv4
        else .ok (String.ofList ascii)

def isForbiddenOpaque (c : Char) : Bool :=
  c.toNat = 0 || ['\t', '\n', '\r', ' ', '#', '/', ':', '<', '>', '?', '@', '[', '\\', ']', '^', '|'].contains c

def ofOpaque (cs : List Char) : Except UrlError String :=
  if cs.head? = some '[' then bracketed cs
  else if cs.any isForbiddenOpaque then .error .domainCharacter
  else .ok (String.ofList (Percent.encode Percent.isControl cs))

end Host

end ProtocolGateway.Web
