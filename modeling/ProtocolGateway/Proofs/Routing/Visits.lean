import Mathlib
import ProtocolGateway.Proofs.Routing.Holding
import ProtocolGateway.Routing.Stages

/-!
Envelopes that the interconnection stage takes in one after the other. What the stage makes of an
envelope of which it may use every field does not depend on who wrapped it.
-/

namespace ProtocolGateway

/-- An envelope that comes to the stage, from where and when. -/
structure Visit where
  now : Instant
  source : Stage
  envelope : Envelope

def Envelope.IsOpen (e : Envelope) (t : Token) : Prop := ∀ field, e.allows t field = true

namespace Envelope

variable {e : Envelope} {t : Token}

theorem check_open (opened : e.IsOpen t) (field : EnvelopeField) : e.check t field = .ok () := by
  simp [check, opened field]

theorem isOpen_put (opened : e.IsOpen t) (v : FieldValue) : (e.put v).IsOpen t := by
  intro field
  have same : (e.put v).allows t field = e.allows t field := by
    cases v <;> rfl
  rw [same]
  exact opened field

theorem write_open (opened : e.IsOpen t) (v : FieldValue) : e.write t v = .ok (e.put v) := by
  simp [write, check_open opened, Except.map]

end Envelope

namespace Interconnection

variable {e : Envelope} {t : Token}

theorem answer_open (opened : e.IsOpen t) (m : Message) (p : ProtocolName) (s : Sequence) :
    answer t e m p s = .ok (some ⟨.interconnection, .output,
      (e.put (.message m)).put (.replyTo [(p, [.once s])])⟩) := by
  have first := Envelope.write_open opened (.message m)
  have second := Envelope.write_open (Envelope.isOpen_put opened (.message m))
    (.replyTo [(p, [.once s])])
  simp only [answer, first, guarded, bind, Except.bind, second]

theorem route_open (opened : e.IsOpen t) (r : Request) (uri : ResourceUri) :
    route t e r uri = .ok (some ⟨.interconnection, .manager,
      (e.put (.message (.request (r.rerouted uri.authority uri.pathAndQuery)))).put
        (.target (.of uri.scheme))⟩) := by
  have first := Envelope.write_open opened
    (.message (.request (r.rerouted uri.authority uri.pathAndQuery)))
  have second := Envelope.write_open (Envelope.isOpen_put opened
    (.message (.request (r.rerouted uri.authority uri.pathAndQuery)))) (.target (.of uri.scheme))
  simp only [route, first, guarded, bind, Except.bind, second]

theorem readRequest_open (opened : e.IsOpen t) {r : Request} {p : ProtocolName}
    (content : e.content = .request r) (sequenced : r.isSequenced = true)
    (sender : e.sourceProtocol = some p) : readRequest t e = .ok (r, p) := by
  simp [readRequest, guarded, Envelope.message, Envelope.source, Envelope.check_open opened, content,
    sender, sequenced, Except.map, bind, Except.bind]

theorem readAnswer_open (opened : e.IsOpen t) {m : Message} {p : ProtocolName} {uri : ResourceUri}
    (content : e.content = m) (answers : m.isReplyLike = true) (sender : e.sourceProtocol = some p)
    (named : ResourceUri.ofParts p.text m.headers.target m.headers.path = .ok uri) :
    readAnswer t e = .ok (m, uri.text) := by
  simp [readAnswer, guarded, Envelope.message, Envelope.source, Envelope.check_open opened, content,
    sender, answers, named, Except.map, bind, Except.bind]

theorem content_of_readAnswer {m : Message} {key : String} (read : readAnswer t e = .ok (m, key)) :
    e.content = m ∧ m.isReplyLike = true := by
  unfold readAnswer at read
  simp only [bind, Except.bind, Envelope.message] at read
  cases check : e.check t .message with
  | error cause =>
    rw [check] at read
    cases read
  | ok _ =>
    rw [check] at read
    simp only [guarded, Except.map] at read
    split at read
    · cases read
    · rename_i answers
      have answers : e.content.isReplyLike = true := by simpa using answers
      split at read
      · cases read
      · split at read
        · cases read
        · split at read
          · cases read
            exact ⟨rfl, answers⟩
          · cases read

/-! One envelope after the other -/

def after (ic : Interconnection) (visits : List Visit) : Interconnection :=
  visits.foldl (fun ic v => (ic.receive v.now v.source v.envelope).1) ic

theorem after_snoc (ic : Interconnection) (visits : List Visit) (v : Visit) :
    ic.after (visits ++ [v]) = ((ic.after visits).receive v.now v.source v.envelope).1 := by
  unfold after
  rw [List.foldl_append]
  rfl

theorem token_resolved (ic : Interconnection) (now : Instant) (e : Envelope) (r : Request)
    (p : ProtocolName) (uri : ResourceUri) : (ic.resolved now e r p uri).1.token = ic.token := by
  unfold resolved
  dsimp only
  cases r.headers.operation with
  | read =>
    dsimp only
    split <;> rfl
  | create | update | delete | observe | unobserve => rfl

inductive Settled (ic : Interconnection) (now : Instant) (key : String) (l : ReplyTo) :
    Message → Interconnection → Prop
  | stored (r : Reply) (completed : (ic.cache.update now key r).1 = true) :
      Settled ic now key l (.reply r) { ic with cache := (ic.cache.update now key r).2 }
  | failed (x : ErrorReply) (observe : x.headers.operation = .observe) :
      Settled ic now key l (.error x)
        { ic with subscriptions := removeStanding key (l.map (·.1)) ic.subscriptions }
  | still (m : Message) (plain : ∀ r, m ≠ .reply r)
      (other : ∀ x, m = .error x → x.headers.operation ≠ .observe) : Settled ic now key l m ic

/-- Only the cache can break an answer off. -/
theorem settle_cases (ic : Interconnection) (now : Instant) (key : String) (m : Message)
    (l : ReplyTo) :
    (∃ r, m = .reply r ∧ (ic.cache.update now key r).1 = false ∧ ic.settle now key m l =
      ({ ic with cache := (ic.cache.update now key r).2 }, .error .clockOverflow)) ∨
    ∃ ic', ic.settle now key m l = (ic', .ok ()) ∧ ic.Settled now key l m ic' := by
  cases m with
  | request r =>
    refine Or.inr ⟨ic, rfl, .still (.request r) (fun y same => ?_) fun y same => ?_⟩
    · cases same
    · cases same
  | reply r =>
    cases completed : (ic.cache.update now key r).1 with
    | false => exact Or.inl ⟨r, rfl, completed, by simp [settle, completed]⟩
    | true => exact Or.inr ⟨_, by simp [settle, completed], .stored r completed⟩
  | error x =>
    right
    by_cases observe : x.headers.operation = .observe
    · exact ⟨_, if_pos observe, .failed x observe⟩
    · refine ⟨ic, if_neg observe, .still (.error x) (fun y same => ?_) fun y same => ?_⟩
      · cases same
      · cases same
        exact observe

theorem Settled.token {ic ic' : Interconnection} {now : Instant} {key : String} {m : Message}
    {l : ReplyTo} (settled : ic.Settled now key l m ic') : ic'.token = ic.token := by
  cases settled <;> rfl

theorem Settled.holds {ic ic' : Interconnection} {now : Instant} {key : String} {m : Message}
    {l : ReplyTo} (settled : ic.Settled now key l m ic') {key' : String} {kept : Reply}
    (held : ic'.cache.Holds key' kept) : ic.cache.Holds key' kept ∨
      key' = key ∧ m = .reply kept ∧
        (kept.headers.operation = .read ∨ kept.headers.operation = .observe) := by
  cases settled with
  | failed | still => exact Or.inl held
  | stored r completed =>
    rcases ReplyCache.holds_update held with old | ⟨here, rfl, operation⟩
    · exact Or.inl old
    · exact Or.inr ⟨here, rfl, operation⟩

/-- What becomes of an answer that the stage can read. -/
inductive Released (ic : Interconnection) (now : Instant) (e : Envelope) (m : Message) (key : String) :
    Interconnection → StageResult → Prop
  | unlisted (listed : Option ReplyTo) (subscriptions : Subscriptions)
      (drained : ic.subscriptions.drain key (m.kind == .reply) = (listed, subscriptions))
      (nobody : listed = none ∨ listed = some []) :
      Released ic now e m key { ic with subscriptions := subscriptions } (halt (.noSubscription key))
  | brokenOff (l : ReplyTo) (subscriptions : Subscriptions)
      (drained : ic.subscriptions.drain key (m.kind == .reply) = (some l, subscriptions))
      (present : l ≠ []) (r : Reply) (reply : m = .reply r)
      (broken : (ic.cache.update now key r).1 = false) :
      Released ic now e m key
        { ic with subscriptions := subscriptions, cache := (ic.cache.update now key r).2 }
        (.error .clockOverflow)
  | settled (l : ReplyTo) (subscriptions : Subscriptions)
      (drained : ic.subscriptions.drain key (m.kind == .reply) = (some l, subscriptions))
      (present : l ≠ []) (ic' : Interconnection)
      (settled : Settled { ic with subscriptions := subscriptions } now key l m ic') :
      Released ic now e m key ic' ((guarded (e.write ic.token (.replyTo l))).map fun e =>
        some ⟨.interconnection, .output, e⟩)

theorem onAnswer_unread {ic : Interconnection} {now : Instant} {h : Halt}
    (read : readAnswer ic.token e = .error h) : ic.onAnswer now e = (ic, .error h) := by
  unfold onAnswer
  rw [read]

theorem onAnswer_released {ic : Interconnection} (now : Instant) {m : Message} {key : String}
    (read : readAnswer ic.token e = .ok (m, key)) :
    ∃ ic' r, ic.onAnswer now e = (ic', r) ∧ ic.Released now e m key ic' r := by
  unfold onAnswer
  rw [read]
  dsimp only
  cases drained : ic.subscriptions.drain key (m.kind == .reply) with
  | mk listed subscriptions =>
    dsimp only
    split
    · exact ⟨_, _, rfl, .unlisted none subscriptions drained (Or.inl rfl)⟩
    · exact ⟨_, _, rfl, .unlisted (some []) subscriptions drained (Or.inr rfl)⟩
    · rename_i l present
      rcases settle_cases { ic with subscriptions := subscriptions } now key m l with
        ⟨r, reply, broken, halted⟩ | ⟨ic', ok, settled⟩
      · rw [halted]
        exact ⟨_, _, rfl, .brokenOff l subscriptions drained present r reply broken⟩
      · rw [ok]
        dsimp only
        rw [settled.token]
        exact ⟨_, _, rfl, .settled l subscriptions drained present ic' settled⟩

theorem Released.token {ic ic' : Interconnection} {now : Instant} {m : Message} {key : String}
    {r : StageResult} (released : ic.Released now e m key ic' r) : ic'.token = ic.token := by
  cases released with
  | unlisted | brokenOff => rfl
  | settled l subscriptions drained present ic' settled => exact settled.token

theorem token_receive (ic : Interconnection) (now : Instant) (source : Stage) (e : Envelope) :
    (ic.receive now source e).1.token = ic.token := by
  unfold receive
  cases source with
  | input =>
    dsimp only
    unfold onRequest
    split
    · rfl
    · split
      · exact token_resolved ..
      · rfl
  | manager =>
    dsimp only
    cases read : readAnswer ic.token e with
    | error h => rw [onAnswer_unread read]
    | ok about =>
      obtain ⟨ic', r, crossing, released⟩ := onAnswer_released now read
      rw [crossing]
      exact released.token
  | interconnection | output => rfl

theorem token_after (ic : Interconnection) (visits : List Visit) :
    (ic.after visits).token = ic.token := by
  induction visits generalizing ic with
  | nil => rfl
  | cons v rest ih => exact (ih _).trans (ic.token_receive v.now v.source v.envelope)

end Interconnection

end ProtocolGateway
