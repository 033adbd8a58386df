import ProtocolGateway.Routing.Pipeline
import ProtocolGateway.Routing.ReplyCache
import ProtocolGateway.ResourceUri

/-!
The three stages between the manager's ends. The input stage lets sequenced requests in, the output
stage lets answers with a list of receivers out. Between them the interconnection stage resolves
requests, keeps the subscriptions and asks the cache.
-/

namespace ProtocolGateway

/-! Input and output -/

namespace InputStage

def receive (token : Token) (source : Stage) (e : Envelope) : StageResult := do
  if source ≠ .manager then halt (.unexpectedSource .input source)
  else match ← guarded (e.message token) with
    | .request r =>
      if r.isSequenced then .ok (some ⟨.input, .interconnection, e⟩) else halt .unsequenced
    | m => halt (.unexpectedMessage .input source m.kind)

end InputStage

namespace OutputStage

def receive (token : Token) (source : Stage) (e : Envelope) : StageResult := do
  if source ≠ .interconnection then halt (.unexpectedSource .output source)
  else
    let m ← guarded (e.message token)
    if !m.isReplyLike then halt (.unexpectedMessage .output source m.kind)
    else match ← guarded (e.replyTo token) with
      | none | some [] => halt (.noSubscription ("reply #" ++ toString m.sequence.toNat))
      | some _ => .ok (some ⟨.output, .manager, e⟩)

end OutputStage

/-! Interconnection -/

structure Interconnection where
  token : Token
  subscriptions : Subscriptions
  cache : ReplyCache
  deriving DecidableEq, Repr

namespace Interconnection

def new (token : Token) (cache : ReplyCache) : Interconnection := ⟨token, .empty, cache⟩

def answer (token : Token) (e : Envelope) (m : Message) (source : ProtocolName) (s : Sequence) :
    StageResult := do
  let e ← guarded (e.write token (.message m))
  let e ← guarded (e.write token (.replyTo [(source, [.once s])]))
  .ok (some ⟨.interconnection, .output, e⟩)

def route (token : Token) (e : Envelope) (r : Request) (uri : ResourceUri) : StageResult := do
  let e ← guarded (e.write token (.message (.request (r.rerouted uri.authority uri.pathAndQuery))))
  let e ← guarded (e.write token (.target (.of uri.scheme)))
  .ok (some ⟨.interconnection, .manager, e⟩)

/-- A request that names a resource. A cached READ, a second OBSERVE and an UNOBSERVE that leaves
observers behind do not reach the target. -/
def resolved (ic : Interconnection) (now : Instant) (e : Envelope) (r : Request)
    (source : ProtocolName) (uri : ResourceUri) : Interconnection × StageResult :=
  let key := uri.text
  let s := r.sequence
  let waiting := { ic with subscriptions := ic.subscriptions.subscribe key source (.once s) }
  match r.headers.operation with
  | .read =>
    match ic.cache.lookup now key with
    | (some hit, cache) =>
      ({ ic with cache := cache }, answer ic.token e (.reply (hit.retagged s)) source s)
    | (none, cache) => ({ waiting with cache := cache }, route ic.token e r uri)
  | .observe =>
    let (already, subscriptions) := ic.subscriptions.observe key source s
    ({ ic with subscriptions := subscriptions },
      if already then .ok none else route ic.token e r uri)
  | .unobserve =>
    let (remaining, subscriptions) := ic.subscriptions.unobserve key source s
    ({ ic with subscriptions := subscriptions },
      if remaining > 0 then answer ic.token e (.reply (Reply.forRequest r [])) source s
      else route ic.token e r uri)
  | .create | .update | .delete => (waiting, route ic.token e r uri)

def readRequest (token : Token) (e : Envelope) : Except Halt (Request × ProtocolName) := do
  match ← guarded (e.message token) with
  | .request r =>
    if !r.isSequenced then halt .unsequenced
    else match ← guarded (e.source token) with
      | some p => .ok (r, p)
      | none => halt .missingSource
  | m => halt (.unexpectedMessage .interconnection .input m.kind)

def onRequest (ic : Interconnection) (now : Instant) (e : Envelope) : Interconnection × StageResult :=
  match readRequest ic.token e with
  | .error h => (ic, .error h)
  | .ok (r, source) =>
    match ResourceUri.parse r.headers.path with
    | .ok uri => ic.resolved now e r source uri
    | .error cause =>
      let m := (ErrorReply.forRequest r .invalidUri).withDetail cause.message
      (ic, answer ic.token e (.error m) source r.sequence)

def readAnswer (token : Token) (e : Envelope) : Except Halt (Message × String) := do
  let m ← guarded (e.message token)
  if !m.isReplyLike then halt (.unexpectedMessage .interconnection .manager m.kind)
  else match ← guarded (e.source token) with
    | none => halt .missingSource
    | some p =>
      match ResourceUri.ofParts p.text m.headers.target m.headers.path with
      | .ok uri => .ok (m, uri.text)
      | .error cause => halt (.invalidReplyUri cause)

def removeStanding (key : String) : List ProtocolName → Subscriptions → Subscriptions
  | [], r => r
  | p :: rest, r => removeStanding key rest (r.remove key p .standing).2

/-- What an answer with receivers does besides reaching them: a reply is offered to the cache, which may
break off, and a failed OBSERVE leaves none of its receivers standing. -/
def settle (ic : Interconnection) (now : Instant) (key : String) (m : Message) (replyTo : ReplyTo) :
    Interconnection × Except Halt Unit :=
  match m with
  | .reply r =>
    let (completed, cache) := ic.cache.update now key r
    ({ ic with cache := cache }, if completed then .ok () else .error .clockOverflow)
  | .error x =>
    if x.headers.operation = .observe then
      ({ ic with subscriptions := removeStanding key (replyTo.map (·.1)) ic.subscriptions }, .ok ())
    else (ic, .ok ())
  | .request _ => (ic, .ok ())

def onAnswer (ic : Interconnection) (now : Instant) (e : Envelope) : Interconnection × StageResult :=
  match readAnswer ic.token e with
  | .error h => (ic, .error h)
  | .ok (m, key) =>
    let (drained, subscriptions) := ic.subscriptions.drain key (m.kind == .reply)
    let ic := { ic with subscriptions := subscriptions }
    match drained with
    | none | some [] => (ic, halt (.noSubscription key))
    | some replyTo =>
      match ic.settle now key m replyTo with
      | (ic, .error h) => (ic, .error h)
      | (ic, .ok ()) =>
        (ic, (guarded (e.write ic.token (.replyTo replyTo))).map fun e =>
          some ⟨.interconnection, .output, e⟩)

def receive (ic : Interconnection) (now : Instant) (source : Stage) (e : Envelope) :
    Interconnection × StageResult :=
  match source with
  | .input => ic.onRequest now e
  | .manager => ic.onAnswer now e
  | _ => (ic, halt (.unexpectedSource .interconnection source))

end Interconnection

end ProtocolGateway
