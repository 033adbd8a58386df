import ProtocolGateway.Routing.Pipeline

/-!
The tokens of a gateway: the main one, and one for each stage that reads envelopes. The grants say
which fields a stage may use of the envelopes that come through.
-/

namespace ProtocolGateway

structure Keyring where
  main : Token
  input : Token
  interconnection : Token
  output : Token
  deriving DecidableEq, Repr

namespace Keyring

def minted (first : Nat) : Keyring := ⟨⟨first⟩, ⟨first + 1⟩, ⟨first + 2⟩, ⟨first + 3⟩⟩

def tokenOf (k : Keyring) : Stage → Token
  | .manager => k.main
  | .input => k.input
  | .interconnection => k.interconnection
  | .output => k.output

/-- The input stage reads the message, the interconnection stage everything, the output stage the
message and its receivers. -/
def grants (k : Keyring) : List (EnvelopeField × Token) :=
  [(.message, k.input), (.message, k.interconnection), (.source, k.interconnection),
    (.target, k.interconnection), (.replyTo, k.interconnection), (.message, k.output),
    (.replyTo, k.output)]

def wrap (k : Keyring) (m : Message) (source : ProtocolName) : Envelope :=
  { Envelope.new k.main m with grants := k.grants, sourceProtocol := some source }

end Keyring

end ProtocolGateway
