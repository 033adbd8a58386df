import Mathlib
import ProtocolGateway.Proofs.Routing.Itinerary
import ProtocolGateway.Proofs.Routing.Visits

/-!
What the interconnection stage makes of a request and of an answer, with everything that becomes of
its subscriptions and its cache.
-/

namespace ProtocolGateway

def Keyring.turned (k : Keyring) (m : Message) (p : ProtocolName) (s : Sequence) : Hop :=
  ⟨.interconnection, .output, k.answering m p [(p, [.once s])] 2⟩

def Keyring.onward (k : Keyring) (r : Request) (p : ProtocolName) (uri : ResourceUri) : Hop :=
  ⟨.interconnection, .manager,
    k.routed (r.rerouted uri.authority uri.pathAndQuery) p (.of uri.scheme)⟩

def Request.refusal (r : Request) (cause : ProtocolError) : ErrorReply :=
  (ErrorReply.forRequest r .invalidUri).withDetail cause.message

namespace Interconnection

/-- The ways a request goes: turned round with an answer, or on record under its resource and, unless
the resource is observed already, on to the protocol that serves it. -/
inductive Takes (k : Keyring) (ic : Interconnection) (r : Request) (p : ProtocolName) :
    Interconnection → Option Hop → Prop where
  | refused (cause : ProtocolError) (unreadable : ResourceUri.parse r.headers.path = .error cause) :
      Takes k ic r p ic (some (k.turned (.error (r.refusal cause)) p r.sequence))
  | cached (uri : ResourceUri) (hit : Reply) (named : ResourceUri.parse r.headers.path = .ok uri)
      (reads : r.headers.operation = .read) (held : ic.cache.Holds uri.text hit) :
      Takes k ic r p ic (some (k.turned (.reply (hit.retagged r.sequence)) p r.sequence))
  | acknowledged (uri : ResourceUri) (subscriptions : Subscriptions)
      (named : ResourceUri.parse r.headers.path = .ok uri)
      (ends : r.headers.operation = .unobserve)
      (kept : Subscriptions.Keeps ic.subscriptions subscriptions) :
      Takes k ic r p { ic with subscriptions := subscriptions }
        (some (k.turned (.reply (Reply.forRequest r [])) p r.sequence))
  | enrolled (uri : ResourceUri) (subscriptions : Subscriptions) (cache : ReplyCache) (n : Nat)
      (out : Option Hop) (named : ResourceUri.parse r.headers.path = .ok uri)
      (more : Subscriptions.Enrols ic.subscriptions subscriptions uri.text p r.sequence n)
      (alone : ic.subscriptions.registered p r.sequence = 0 → n = 1)
      (less : ReplyCache.Shrinks ic.cache cache)
      (next : out = none ∨ out = some (k.onward r p uri)) :
      Takes k ic r p { ic with subscriptions := subscriptions, cache := cache } out

/-- The ways an answer goes: nowhere, when it names no resource or nobody waits for it; nowhere as
well when the cache breaks off; else on to the receivers. All that waited once are receivers. -/
inductive Hears (k : Keyring) (ic : Interconnection) (m : Message) (p : ProtocolName) :
    Interconnection → StageResult → Prop where
  | unreadable (cause : RoutingError) (lost : ∀ key, ¬m.isAbout p key) :
      Hears k ic m p ic (.error (.fault cause))
  | unmatched (key : String) (subscriptions : Subscriptions) (cause : RoutingError)
      (about : m.isAbout p key)
      (drained : Subscriptions.Drains ic.subscriptions subscriptions key []) :
      Hears k ic m p { ic with subscriptions := subscriptions } (.error (.fault cause))
  | brokenOff (key : String) (subscriptions : Subscriptions) (cache : ReplyCache) (l : ReplyTo)
      (about : m.isAbout p key)
      (drained : Subscriptions.Drains ic.subscriptions subscriptions key l)
      (less : ReplyCache.Shrinks ic.cache cache) :
      Hears k ic m p { ic with subscriptions := subscriptions, cache := cache }
        (.error .clockOverflow)
  | matched (key : String) (subscriptions : Subscriptions) (cache : ReplyCache) (l : ReplyTo)
      (about : m.isAbout p key)
      (drained : Subscriptions.Drains ic.subscriptions subscriptions key l)
      (stored : ∀ key' kept, cache.Holds key' kept → ic.cache.Holds key' kept ∨
        key' = key ∧ m = .reply kept ∧
          (kept.headers.operation = .read ∨ kept.headers.operation = .observe))
      (receivers : l ≠ []) :
      Hears k ic m p { ic with subscriptions := subscriptions, cache := cache }
        (.ok (some ⟨.interconnection, .output, k.answering m p l 1⟩))

/-! Writing to envelopes -/

theorem write_granted {e : Envelope} {k : Keyring} (own : e.grants = k.grants) {v : FieldValue}
    {t : Token} (granted : (v.field, t) ∈ k.grants) : e.write t v = .ok (e.put v) := by
  simp [Envelope.write, Envelope.check_granted own granted, Except.map]

theorem answer_asking (k : Keyring) (r : Request) (p : ProtocolName) (m : Message) (s : Sequence) :
    answer k.interconnection (k.asking r p 2) m p s = .ok (some (k.turned m p s)) := by
  have first : (k.asking r p 2).write k.interconnection (.message m) =
      .ok ((k.asking r p 2).put (.message m)) :=
    write_granted rfl (by simp [Keyring.grants, FieldValue.field])
  have second : ((k.asking r p 2).put (.message m)).write k.interconnection
      (.replyTo [(p, [.once s])]) =
      .ok (((k.asking r p 2).put (.message m)).put (.replyTo [(p, [.once s])])) :=
    write_granted rfl (by simp [Keyring.grants, FieldValue.field])
  simp only [answer, first, guarded, bind, Except.bind, second]
  rfl

theorem route_asking (k : Keyring) (r : Request) (p : ProtocolName) (uri : ResourceUri) :
    route k.interconnection (k.asking r p 2) r uri =
      .ok (some (k.onward r p uri)) := by
  let m : Message := .request (r.rerouted uri.authority uri.pathAndQuery)
  have first : (k.asking r p 2).write k.interconnection (.message m) =
      .ok ((k.asking r p 2).put (.message m)) :=
    write_granted rfl (by simp [Keyring.grants, FieldValue.field])
  have second : ((k.asking r p 2).put (.message m)).write k.interconnection
      (.target (.of uri.scheme)) =
      .ok (((k.asking r p 2).put (.message m)).put (.target (.of uri.scheme))) :=
    write_granted rfl (by simp [Keyring.grants, FieldValue.field])
  simp only [route, m, first, guarded, bind, Except.bind, second]
  rfl

/-! Requests -/

theorem readRequest_asking (k : Keyring) (r : Request) (p : ProtocolName) (hops : Nat)
    (sequenced : r.isSequenced = true) :
    readRequest k.interconnection (k.asking r p hops) = .ok (r, p) := by
  have readable : (k.asking r p hops).check k.interconnection .message = .ok () :=
    Envelope.check_granted rfl (by simp [Keyring.grants])
  have placed : (k.asking r p hops).check k.interconnection .source = .ok () :=
    Envelope.check_granted rfl (by simp [Keyring.grants])
  have sender : (k.asking r p hops).sourceProtocol = some p := rfl
  simp [readRequest, guarded, Envelope.message, Envelope.source, readable, placed, sender,
    Keyring.asking_content, Except.map, sequenced, bind, Except.bind]

theorem resolved_takes {ic : Interconnection} {k : Keyring} (token : ic.token = k.interconnection)
    (keyed : ic.subscriptions.Keyed) (now : Instant) {r : Request} (p : ProtocolName)
    {uri : ResourceUri} (named : ResourceUri.parse r.headers.path = .ok uri) :
    ∃ ic' out, ic.resolved now (k.asking r p 2) r p uri = (ic', .ok out) ∧ Takes k ic r p ic' out := by
  have onRecord := Subscriptions.enrols_subscribe keyed uri.text p r.sequence
  have alone (free : ic.subscriptions.registered p r.sequence = 0) :=
    Subscriptions.vacant_of_free free uri.text
  -- One case per operation, since each has a table of its own to ask and to change.
  cases operation : r.headers.operation with
  | read =>
    cases found : (ic.cache.lookup now uri.text).1 with
    | some hit =>
      obtain ⟨same, held⟩ := ReplyCache.lookup_hit found
      have pair : ic.cache.lookup now uri.text = (some hit, ic.cache) := Prod.ext found same
      refine ⟨ic, _, ?_, .cached uri hit named operation held⟩
      simp only [resolved, operation, pair, token, answer_asking]
      rw [← token]
    | none =>
      have pair : ic.cache.lookup now uri.text = (none, (ic.cache.lookup now uri.text).2) :=
        Prod.ext found rfl
      refine ⟨_, _, ?_, .enrolled uri _ _ _ _ named onRecord alone
        (ReplyCache.lookup_shrinks ic.cache now uri.text) (Or.inr rfl)⟩
      simp only [resolved, operation, token, route_asking]
      rw [pair]
  | observe =>
    obtain ⟨n, more, once⟩ := Subscriptions.enrols_observe keyed uri.text p r.sequence
    cases already : (ic.subscriptions.observe uri.text p r.sequence).1 with
    | true =>
      refine ⟨_, none, ?_, .enrolled uri _ _ n _ named more once (ReplyCache.Shrinks.refl ic.cache)
        (Or.inl rfl)⟩
      simp only [resolved, operation, already, ↓reduceIte]
    | false =>
      refine ⟨_, _, ?_, .enrolled uri _ _ n _ named more once (ReplyCache.Shrinks.refl ic.cache)
        (Or.inr rfl)⟩
      simp only [resolved, operation, already, Bool.false_eq_true, ↓reduceIte, token, route_asking]
  | unobserve =>
    by_cases left : (ic.subscriptions.unobserve uri.text p r.sequence).1 = 0
    · obtain ⟨n, more, once⟩ := Subscriptions.enrols_unobserve keyed uri.text p r.sequence left
      refine ⟨_, _, ?_, .enrolled uri _ _ n _ named more once (ReplyCache.Shrinks.refl ic.cache)
        (Or.inr rfl)⟩
      simp only [resolved, operation, left, gt_iff_lt, Nat.lt_irrefl, ↓reduceIte, token, route_asking]
    · have kept := Subscriptions.keeps_unobserve keyed uri.text p r.sequence left
      refine ⟨_, _, ?_, .acknowledged uri _ named operation kept⟩
      simp only [resolved, operation, Nat.pos_of_ne_zero left, ↓reduceIte, token,
        answer_asking]
  | create | update | delete =>
    refine ⟨_, _, ?_, .enrolled uri _ _ _ _ named onRecord alone (ReplyCache.Shrinks.refl ic.cache)
      (Or.inr rfl)⟩
    simp only [resolved, operation, token, route_asking]

theorem onRequest_takes {ic : Interconnection} {k : Keyring} (token : ic.token = k.interconnection)
    (keyed : ic.subscriptions.Keyed) (now : Instant) {r : Request} (p : ProtocolName)
    (sequenced : r.isSequenced = true) :
    ∃ ic' out, ic.onRequest now (k.asking r p 2) = (ic', .ok out) ∧ Takes k ic r p ic' out := by
  unfold onRequest
  rw [token, readRequest_asking k r p 2 sequenced]
  dsimp only
  cases named : ResourceUri.parse r.headers.path with
  | ok uri => exact resolved_takes token keyed now p named
  | error cause =>
    refine ⟨ic, _, ?_, .refused cause named⟩
    dsimp only
    rw [answer_asking]
    rfl

/-! Answers -/

theorem readAnswer_heard (k : Keyring) (m : Message) (p : ProtocolName) :
    (∃ cause, readAnswer k.interconnection (k.heard m p) = .error (.fault cause) ∧
      ∀ key, ¬m.isAbout p key) ∨
    ∃ key, readAnswer k.interconnection (k.heard m p) = .ok (m, key) ∧ m.isAbout p key := by
  have readable : (k.heard m p).check k.interconnection .message = .ok () :=
    Envelope.check_granted rfl (by simp [Keyring.grants])
  have placed : (k.heard m p).check k.interconnection .source = .ok () :=
    Envelope.check_granted rfl (by simp [Keyring.grants])
  have content : (k.heard m p).content = m := rfl
  have sender : (k.heard m p).sourceProtocol = some p := rfl
  cases answer : m.isReplyLike with
  | false =>
    refine Or.inl ⟨.unexpectedMessage .interconnection .manager m.kind, ?_, fun key about => ?_⟩
    · simp [readAnswer, guarded, Envelope.message, readable, content, Except.map, bind, Except.bind,
        halt, answer]
    · exact Bool.false_ne_true (answer.symm.trans about.1)
  | true =>
    cases named : ResourceUri.ofParts p.text m.headers.target m.headers.path with
    | error cause =>
      refine Or.inl ⟨.invalidReplyUri cause, ?_, fun key about => ?_⟩
      · simp [readAnswer, guarded, Envelope.message, Envelope.source, readable, placed, content,
          sender, Except.map, bind, Except.bind, halt, answer, named]
      · obtain ⟨_, uri, parsed, _⟩ := about
        cases named.symm.trans parsed
    | ok uri =>
      refine Or.inr ⟨uri.text, ?_, answer, uri, named, rfl⟩
      simp [readAnswer, guarded, Envelope.message, Envelope.source, readable, placed, content,
        sender, Except.map, bind, Except.bind, answer, named]

theorem readAnswer_about (k : Keyring) {m : Message} {p : ProtocolName} {key : String}
    (about : m.isAbout p key) : readAnswer k.interconnection (k.heard m p) = .ok (m, key) := by
  rcases readAnswer_heard k m p with ⟨_, _, lost⟩ | ⟨key', read, about'⟩
  · exact absurd about (lost key)
  · rw [read, Message.isAbout_unique about about']

theorem keeps_removeStanding (key : String) (ps : List ProtocolName) {r : Subscriptions}
    (keyed : r.Keyed) : Subscriptions.Keeps r (removeStanding key ps r) := by
  induction ps generalizing r with
  | nil => exact .refl keyed
  | cons p rest ih =>
    have first := Subscriptions.keeps_remove_standing keyed key p
    exact first.trans (ih first.keyed)

theorem Settled.keeps {ic ic' : Interconnection} (keyed : ic.subscriptions.Keyed) {now : Instant}
    {key : String} {m : Message} {l : ReplyTo} (settled : ic.Settled now key l m ic') :
    Subscriptions.Keeps ic.subscriptions ic'.subscriptions := by
  cases settled with
  | stored | still => exact .refl keyed
  | failed x observe => exact keeps_removeStanding key _ keyed

theorem onAnswer_hears {ic : Interconnection} {k : Keyring} (token : ic.token = k.interconnection)
    (keyed : ic.subscriptions.Keyed) (now : Instant) (m : Message) (p : ProtocolName) :
    ∃ ic' r, ic.onAnswer now (k.heard m p) = (ic', r) ∧ Hears k ic m p ic' r := by
  have reading := readAnswer_heard k m p
  have addressed (l : ReplyTo) : (k.heard m p).write k.interconnection (.replyTo l) =
      .ok ((k.heard m p).put (.replyTo l)) :=
    write_granted rfl (by simp [Keyring.grants, FieldValue.field])
  rw [← token] at reading addressed
  rcases reading with ⟨cause, failed, lost⟩ | ⟨key, read, about⟩
  · exact ⟨ic, _, onAnswer_unread failed, .unreadable cause lost⟩
  · have drains := Subscriptions.drains_drain keyed key (m.kind == .reply)
    obtain ⟨ic', r, crossing, released⟩ := onAnswer_released now read
    refine ⟨ic', r, crossing, ?_⟩
    cases released with
    | unlisted listed subscriptions drained nobody =>
      rw [drained] at drains
      rcases nobody with rfl | rfl
      · exact .unmatched key subscriptions _ about drains
      · exact .unmatched key subscriptions _ about drains
    | brokenOff l subscriptions drained present r reply broken =>
      rw [drained] at drains
      exact .brokenOff key subscriptions _ l about drains (ReplyCache.shrinks_of_broken broken)
    | settled l subscriptions drained present ic' settled =>
      rw [drained] at drains
      have whole : ic' = { ic with subscriptions := ic'.subscriptions, cache := ic'.cache } := by
        cases settled <;> rfl
      rw [addressed, whole]
      exact .matched key ic'.subscriptions ic'.cache l about (drains.keeps (settled.keeps drains.keyed))
        (fun _ _ held => settled.holds held) present

end Interconnection

end ProtocolGateway
