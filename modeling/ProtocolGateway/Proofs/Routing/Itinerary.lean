import Mathlib
import ProtocolGateway.Proofs.Routing.Holding
import ProtocolGateway.Proofs.Routing.Waiting
import ProtocolGateway.Routing.Keyring
import ProtocolGateway.Routing.Stages

/-!
The ways through the pipeline. An envelope that the manager wrapped is always in one of six places,
and its hop count, its grants and its routing data follow from the place. For each of the three
stages this states once what it makes of such an envelope.
-/

namespace ProtocolGateway

/-! Envelopes on their way -/

namespace Keyring

def asking (k : Keyring) (r : Request) (p : ProtocolName) (hops : Nat) : Envelope :=
  { k.wrap (.request r) p with hops := hops }

def heard (k : Keyring) (m : Message) (p : ProtocolName) : Envelope := { k.wrap m p with hops := 1 }

def routed (k : Keyring) (r : Request) (p target : ProtocolName) : Envelope :=
  { k.wrap (.request r) p with hops := 2, targetProtocol := some target }

def answering (k : Keyring) (m : Message) (p : ProtocolName) (l : ReplyTo) (hops : Nat) : Envelope :=
  { k.wrap m p with hops := hops, replyList := some l }

end Keyring

/-- The hops that ever happen. -/
inductive Lawful (k : Keyring) : Hop → Prop where
  | entering (r : Request) (p : ProtocolName) (sequenced : r.isSequenced = true) :
      Lawful k ⟨.manager, .input, k.asking r p 0⟩
  | admitted (r : Request) (p : ProtocolName) (sequenced : r.isSequenced = true) :
      Lawful k ⟨.input, .interconnection, k.asking r p 1⟩
  | routed (r : Request) (p target : ProtocolName) :
      Lawful k ⟨.interconnection, .manager, k.routed r p target⟩
  | arriving (m : Message) (p : ProtocolName) : Lawful k ⟨.manager, .interconnection, k.wrap m p⟩
  | answering (m : Message) (p : ProtocolName) (l : ReplyTo) (hops : Nat)
      (answer : m.isReplyLike = true) (receivers : l ≠ []) (early : hops = 1 ∨ hops = 2) :
      Lawful k ⟨.interconnection, .output, k.answering m p l hops⟩
  | leaving (m : Message) (p : ProtocolName) (l : ReplyTo) (hops : Nat)
      (answer : m.isReplyLike = true) (receivers : l ≠ []) (early : hops = 1 ∨ hops = 2) :
      Lawful k ⟨.output, .manager, k.answering m p l (hops + 1)⟩

/-! The ends of the pipeline -/

theorem Keyring.asking_content (k : Keyring) (r : Request) (p : ProtocolName) (hops : Nat) :
    (k.asking r p hops).content = .request r := rfl

theorem Keyring.answering_content (k : Keyring) (m : Message) (p : ProtocolName) (l : ReplyTo)
    (hops : Nat) : (k.answering m p l hops).content = m := rfl

theorem Envelope.check_granted {e : Envelope} {k : Keyring} (own : e.grants = k.grants)
    {field : EnvelopeField} {t : Token} (granted : (field, t) ∈ k.grants) : e.check t field = .ok () := by
  simp [Envelope.check, Envelope.allows, own, granted]

theorem InputStage.receive_asking (k : Keyring) (r : Request) (p : ProtocolName) (hops : Nat)
    (sequenced : r.isSequenced = true) :
    InputStage.receive k.input .manager (k.asking r p hops) =
      .ok (some ⟨.input, .interconnection, k.asking r p hops⟩) := by
  have readable : (k.asking r p hops).check k.input .message = .ok () :=
    Envelope.check_granted rfl (by simp [Keyring.grants])
  simp [InputStage.receive, guarded, Envelope.message, readable, Keyring.asking_content, Except.map,
    sequenced, bind, Except.bind]

theorem OutputStage.receive_answering (k : Keyring) (m : Message) (p : ProtocolName) (l : ReplyTo)
    (hops : Nat) (answer : m.isReplyLike = true) (receivers : l ≠ []) :
    OutputStage.receive k.output .interconnection (k.answering m p l hops) =
      .ok (some ⟨.output, .manager, k.answering m p l hops⟩) := by
  have readable : (k.answering m p l hops).check k.output .message = .ok () :=
    Envelope.check_granted rfl (by simp [Keyring.grants])
  have addressed : (k.answering m p l hops).check k.output .replyTo = .ok () :=
    Envelope.check_granted rfl (by simp [Keyring.grants])
  cases l with
  | nil => exact absurd rfl receivers
  | cons e rest =>
    have named : (k.answering m p (e :: rest) hops).replyList = some (e :: rest) := rfl
    simp [OutputStage.receive, guarded, Envelope.message, Envelope.replyTo, readable, addressed,
      Keyring.answering_content, named, Except.map, answer, bind, Except.bind]

/-! What an answer is about -/

/-- A reply or an error whose sender and route name a resource. -/
def Message.isAbout (m : Message) (sender : ProtocolName) (key : String) : Prop :=
  m.isReplyLike = true ∧
    ∃ uri, ResourceUri.ofParts sender.text m.headers.target m.headers.path = .ok uri ∧ uri.text = key

theorem Message.isAbout_unique {m : Message} {sender : ProtocolName} {key key' : String}
    (first : m.isAbout sender key) (second : m.isAbout sender key') : key = key' := by
  obtain ⟨_, uri, parsed, text⟩ := first
  obtain ⟨_, uri', parsed', text'⟩ := second
  rw [parsed] at parsed'
  cases parsed'
  exact text.symm.trans text'

end ProtocolGateway
