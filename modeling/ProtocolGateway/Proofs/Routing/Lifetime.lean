import Mathlib
import ProtocolGateway.Proofs.Plugin.TargetAnswers
import ProtocolGateway.Proofs.Routing.Expiry
import ProtocolGateway.Proofs.Routing.Hearing
import ProtocolGateway.Proofs.Routing.ReplyKey

/-!
Who decides how long the reply of a memory target may be served. The target does where it sets a
lifetime, which it does for replies to READ only. Every other reply has the headers of its request,
with the lifetime that the request names, and the default of the cache is left to requests that name
none.
-/

namespace ProtocolGateway

/-! A request taken through -/

def MemoryTarget.granted? (t : MemoryTarget) (o : Operation) : Option Span :=
  if o = .read then t.maxAge else none

def MemoryTarget.lifetime (t : MemoryTarget) (r : Request) (ttl : Span) : Span :=
  (t.granted? r.headers.operation <|> r.headers.maxAge).getD ttl

def Operation.stored? (o : Operation) (lifetime : Span) : Option Span :=
  if (o = .read ∨ o = .observe) ∧ lifetime.nanos ≠ 0 then some lifetime else none

def ReplyCache.lifetime? (c : ReplyCache) (key : String) : Option Span :=
  match c with
  | .off => none
  | .memory m =>
    (Table.at? m.entries key).map fun e => ⟨e.expiresAt.nanos - e.storedAt.nanos⟩

/-- What is left of the stage when a request has come in, a target has answered it and its reply has
come back; `none` when they do not come that far. -/
def Interconnection.exchange (ic : Interconnection) (k : Keyring) (t : MemoryTarget)
    (asked answered : Instant) (r : Request) (p : ProtocolName) : Option Interconnection :=
  match ic.onRequest asked (k.asking r p 2) with
  | (waiting, .ok (some hop)) =>
    match hop.envelope.content, hop.envelope.targetProtocol with
    | .request routed, some server =>
      match (t.answer routed).2 with
      | .reply reply :: _ =>
        match waiting.onAnswer answered (k.heard (.reply reply) server) with
        | (settled, .ok (some _)) => some settled
        | _ => none
      | _ => none
    | _, _ => none
  | _ => none

/-- A request for a resource that the target has, which the stage does not answer by itself. -/
structure Request.GoesOn (r : Request) (subscriptions : Subscriptions) (t : MemoryTarget)
    (uri : ResourceUri) : Prop where
  sequenced : r.isSequenced = true
  named : ResourceUri.parse r.headers.path = .ok uri
  present : (t.resource? uri.authority uri.pathAndQuery).isSome
  unobserved : r.headers.operation.isObserveFamily = true → ¬subscriptions.Observed uri.text

/-! The target -/

theorem MemoryTarget.answer_present {t : MemoryTarget} {r : Request}
    (present : (Table.at? t.resources r.resource).isSome) :
    ∃ reply rest, (t.answer r).2 = .reply reply :: rest ∧
      reply.headers = { r.headers with
        maxAge := t.granted? r.headers.operation <|> r.headers.maxAge
        readOnly := true } := by
  have does := t.does_answer r
  generalize (t.answer r).1 = t' at does
  generalize (t.answer r).2 = messages at does
  cases does with
  | reads bytes operation found =>
    refine ⟨_, [], rfl, ?_⟩
    simp [Reply.answering, Reply.build, granted?, operation]
  | creates operation | deletes bytes operation found | forgets operation =>
    refine ⟨_, [], rfl, ?_⟩
    simp [Reply.forRequest, Reply.answering, Reply.build, granted?, operation]
  | updates bytes notes operation found noted =>
    refine ⟨_, notes, rfl, ?_⟩
    simp [Reply.forRequest, Reply.answering, Reply.build, granted?, operation]
  | observes bytes operation found =>
    refine ⟨_, [], rfl, ?_⟩
    simp [Reply.forRequest, Reply.answering, Reply.build, granted?, operation]
  | refuses operation absent =>
    rw [absent] at present
    cases present

/-- Where the target decides, or the requests ask for the same, they get the same. -/
theorem MemoryTarget.lifetime_congr (t : MemoryTarget) {r₁ r₂ : Request}
    (operation : r₁.headers.operation = r₂.headers.operation)
    (decided : (t.granted? r₁.headers.operation).isSome ∨ r₁.headers.maxAge = r₂.headers.maxAge)
    (ttl : Span) : t.lifetime r₁ ttl = t.lifetime r₂ ttl := by
  unfold lifetime
  rw [← operation]
  rcases decided with granted | hint
  · obtain ⟨d, grants⟩ := Option.isSome_iff_exists.mp granted
    rw [grants]
    rfl
  · rw [hint]

/-! The cache -/

theorem ReplyCache.update_empty {m : MemoryCache} (empty : m.entries = []) {now : Instant}
    (key : String) {reply : Reply} {lifetime : Span} (named : m.lifetime reply = lifetime)
    (fits : ∀ d, reply.headers.operation.stored? lifetime = some d → (now.after? d).isSome) :
    ((ReplyCache.memory m).update now key reply).1 = true ∧
      ((ReplyCache.memory m).update now key reply).2.lifetime? key =
        reply.headers.operation.stored? lifetime := by
  subst named
  change (m.update now key reply).1 = true ∧
    (ReplyCache.memory (m.update now key reply).2).lifetime? key = _
  have due (lasts : reply.Lasts m.defaultTtl) :
      reply.headers.operation.stored? (m.lifetime reply) = some (m.lifetime reply) := if_pos lasts
  have updating := m.updating now key reply
  generalize m.update now key reply = updated at updating
  cases updating with
  | erased changes =>
    have none : reply.headers.operation.stored? (m.lifetime reply) = none :=
      if_neg fun lasts : reply.Lasts m.defaultTtl =>
        Bool.false_ne_true (lasts.not_mutation.symm.trans changes)
    simp [ReplyCache.lifetime?, Table.erase, empty, none]
  | passed idle short =>
    have none : reply.headers.operation.stored? (m.lifetime reply) = none := if_neg short
    simp [ReplyCache.lifetime?, empty, none]
  | stored lasts expiry ends =>
    rw [due lasts, (Instant.after?_eq_some ends).1]
    simp [ReplyCache.lifetime?, Table.at?_put, MemoryCache.lifetime]
  | brokenOff lasts late =>
    obtain ⟨expiry, ends⟩ := Option.isSome_iff_exists.mp (fits _ (due lasts))
    cases late.symm.trans ends

/-! The stage -/

namespace Interconnection

variable {ic : Interconnection} {k : Keyring}

theorem resolved_goes_on (token : ic.token = k.interconnection) {m : MemoryCache}
    (cache : ic.cache = .memory m) (empty : m.entries = []) (now : Instant) {r : Request}
    (p : ProtocolName) {uri : ResourceUri}
    (unobserved : r.headers.operation.isObserveFamily = true →
      ¬ic.subscriptions.Observed uri.text) :
    ∃ subscriptions, ic.resolved now (k.asking r p 2) r p uri =
      ({ ic with subscriptions := subscriptions }, .ok (some (k.onward r p uri))) := by
  cases operation : r.headers.operation with
  | read =>
    have miss : ic.cache.lookup now uri.text = (none, ic.cache) := by
      simp [cache, ReplyCache.lookup, MemoryCache.lookup, empty]
    refine ⟨ic.subscriptions.subscribe uri.text p (.once r.sequence), ?_⟩
    simp only [resolved, operation, miss, token, route_asking]
  | observe =>
    have alone : (ic.subscriptions.observe uri.text p r.sequence).1 = false := by
      rw [← Bool.not_eq_true, ic.subscriptions.observe_already, ← Subscriptions.observed_iff]
      exact unobserved (by rw [operation]; rfl)
    refine ⟨(ic.subscriptions.observe uri.text p r.sequence).2, ?_⟩
    simp only [resolved, operation, alone, Bool.false_eq_true, ↓reduceIte, token, route_asking]
  | unobserve =>
    have last : (ic.subscriptions.unobserve uri.text p r.sequence).1 = 0 := by
      apply Nat.eq_zero_of_not_pos
      intro others
      exact unobserved (by rw [operation]; rfl) (Subscriptions.observed_of_unobserve others)
    refine ⟨(ic.subscriptions.unobserve uri.text p r.sequence).2, ?_⟩
    simp only [resolved, operation, last, gt_iff_lt, Nat.lt_irrefl, ↓reduceIte, token, route_asking]
  | create | update | delete =>
    refine ⟨ic.subscriptions.subscribe uri.text p (.once r.sequence), ?_⟩
    simp only [resolved, operation, token, route_asking]

theorem recorded_of_awaits {r : Subscriptions} {key : String} {p : ProtocolName} {s : Sequence}
    (awaits : r.Awaits key p s) : r.Recorded key := by
  unfold Subscriptions.Awaits Subscribers.of at awaits
  cases found : Table.at? (r.under key) p with
  | none =>
    rw [found] at awaits
    cases awaits
  | some mine =>
    rw [found] at awaits
    exact ⟨(p, mine), Table.mem_of_at? found, List.ne_nil_of_mem awaits⟩

theorem onRequest_goes_on (token : ic.token = k.interconnection) {m : MemoryCache}
    (cache : ic.cache = .memory m) (empty : m.entries = []) {t : MemoryTarget} {uri : ResourceUri}
    {r : Request} (onward : r.GoesOn ic.subscriptions t uri) (now : Instant) (p : ProtocolName) :
    ∃ subscriptions, ic.onRequest now (k.asking r p 2) =
      ({ ic with subscriptions := subscriptions }, .ok (some (k.onward r p uri))) ∧
      subscriptions.Recorded uri.text := by
  obtain ⟨subscriptions, resolved⟩ := resolved_goes_on token cache empty now p onward.unobserved
  obtain ⟨awaits, -⟩ := resolved_onward resolved rfl
  refine ⟨subscriptions, ?_, recorded_of_awaits awaits⟩
  have read : readRequest ic.token (k.asking r p 2) = .ok (r, p) := by
    rw [token]
    exact readRequest_asking k r p 2 onward.sequenced
  simp only [onRequest, read, onward.named, resolved]

theorem onAnswer_offers (token : ic.token = k.interconnection) {p : ProtocolName} {now : Instant}
    {key : String} {reply : Reply}
    (read : readAnswer ic.token (k.heard (.reply reply) p) = .ok (.reply reply, key))
    (recorded : ic.subscriptions.Recorded key)
    (completed : (ic.cache.update now key reply).1 = true) :
    ∃ ic' hop, ic.onAnswer now (k.heard (.reply reply) p) = (ic', .ok (some hop)) ∧
      ic'.cache = (ic.cache.update now key reply).2 := by
  obtain ⟨ic', result, crossing, released⟩ := onAnswer_released now read
  obtain ⟨same, l, rfl⟩ := released.recorded recorded completed
  have granted : (k.heard (.reply reply) p).write k.interconnection (.replyTo l) =
      .ok ((k.heard (.reply reply) p).put (.replyTo l)) :=
    write_granted rfl (by simp [Keyring.grants, FieldValue.field])
  rw [token, granted] at crossing
  exact ⟨ic', _, crossing, same⟩

end Interconnection

/-! The whole exchange -/

theorem Interconnection.exchange_lifetime {ic : Interconnection} {k : Keyring}
    (token : ic.token = k.interconnection) {m : MemoryCache} (cache : ic.cache = .memory m)
    (empty : m.entries = []) {t : MemoryTarget} {uri : ResourceUri} (reread : uri.Reread)
    {r : Request} (onward : r.GoesOn ic.subscriptions t uri) (asked : Instant) {answered : Instant}
    (p : ProtocolName)
    (fits : ∀ d, r.headers.operation.stored? (t.lifetime r m.defaultTtl) = some d →
      (answered.after? d).isSome) :
    ∃ ic', ic.exchange k t asked answered r p = some ic' ∧
      ic'.cache.lifetime? uri.text = r.headers.operation.stored? (t.lifetime r m.defaultTtl) := by
  obtain ⟨subscriptions, taken, recorded⟩ :=
    onRequest_goes_on token cache empty onward asked p
  obtain ⟨reply, rest, answers, headers⟩ :=
    MemoryTarget.answer_present (t := t) (r := r.rerouted uri.authority uri.pathAndQuery)
      onward.present
  -- The reply has the route of the rerouted request, and so it is about the same name.
  have about : (Message.reply reply).isAbout (.of uri.scheme) uri.text := by
    refine ⟨rfl, uri, ?_, rfl⟩
    change ResourceUri.ofParts _ reply.headers.target reply.headers.path = .ok uri
    rw [headers]
    exact reread
  have read := readAnswer_about k about
  have operation : reply.headers.operation = r.headers.operation := by
    rw [headers]
    rfl
  have named : m.lifetime reply = t.lifetime r m.defaultTtl := by
    unfold MemoryCache.lifetime
    rw [headers]
    rfl
  rw [← operation] at fits
  have updated := ReplyCache.update_empty empty uri.text named fits
  rw [← cache] at updated
  obtain ⟨completed, lifetime⟩ := updated
  let waiting : Interconnection := { ic with subscriptions := subscriptions }
  have own : waiting.token = k.interconnection := token
  obtain ⟨ic', hop, heard, left⟩ := onAnswer_offers own (own ▸ read) recorded completed
  refine ⟨ic', ?_, ?_⟩
  · have content : (k.onward r p uri).envelope.content =
        .request (r.rerouted uri.authority uri.pathAndQuery) := rfl
    have server : (k.onward r p uri).envelope.targetProtocol = some (.of uri.scheme) := rfl
    simp only [exchange, taken, content, server, answers]
    rw [heard]
  · rw [left, ← operation]
    exact lifetime

/-- For two requests of one operation for a resource that a target has, whatever else they ask for,
and an empty cache: where the target sets the lifetime of its reply, or the requests name the same
one, both leave the same lifetime in the cache. It is the one that the target sets, which is for
READ only, else the one that the request names, else the default of the cache. For the schemes that
have a class of their own this rests on the name's being the one that an answer with its route is
about. -/
theorem exchanges_leave_same_lifetime (k : Keyring) (subscriptions : Subscriptions)
    (m : MemoryCache) (empty : m.entries = []) (t : MemoryTarget) (uri : ResourceUri)
    (back : Web.SchemeClass.of uri.scheme ≠ .other → uri.Reread) (r₁ r₂ : Request)
    (first : r₁.GoesOn subscriptions t uri) (second : r₂.GoesOn subscriptions t uri)
    (operation : r₁.headers.operation = r₂.headers.operation)
    (decided : (t.granted? r₁.headers.operation).isSome ∨ r₁.headers.maxAge = r₂.headers.maxAge)
    (asked answered : Instant)
    (fits : ∀ d, r₁.headers.operation.stored? (t.lifetime r₁ m.defaultTtl) = some d →
      (answered.after? d).isSome) (p₁ p₂ : ProtocolName) :
    let ic : Interconnection := ⟨k.interconnection, subscriptions, .memory m⟩
    ∃ left₁ left₂, ic.exchange k t asked answered r₁ p₁ = some left₁ ∧
      ic.exchange k t asked answered r₂ p₂ = some left₂ ∧
      left₁.cache.lifetime? uri.text = left₂.cache.lifetime? uri.text ∧
      left₁.cache.lifetime? uri.text =
        r₁.headers.operation.stored? (t.lifetime r₁ m.defaultTtl) := by
  intro ic
  have reread : uri.Reread := by
    by_cases other : Web.SchemeClass.of uri.scheme = .other
    · exact ResourceUri.reread_other first.named other
    · exact back other
  have same := t.lifetime_congr operation decided m.defaultTtl
  obtain ⟨left₁, done₁, lifetime₁⟩ :=
    ic.exchange_lifetime rfl rfl empty reread first asked p₁ fits
  rw [operation, same] at fits
  obtain ⟨left₂, done₂, lifetime₂⟩ :=
    ic.exchange_lifetime rfl rfl empty reread second asked p₂ fits
  refine ⟨left₁, left₂, done₁, done₂, ?_, lifetime₁⟩
  rw [lifetime₁, lifetime₂, operation, same]

/-! A sensor -/

def sensorTarget : MemoryTarget := (MemoryTarget.new (.of "coap")).insert "dev" "/temp" [50, 48]

def sensorName : ResourceUri := ⟨"coap", "dev", "/temp", []⟩

def sensorRead (maxAge : Option Span) : Request :=
  { Request.new .read "/coap/dev/temp" with
    sequence := 1
    headers := { Headers.new .read "/coap/dev/temp" with maxAge := maxAge } }

theorem sensor_named : ResourceUri.parse "/coap/dev/temp" = .ok sensorName := by decide +kernel

theorem sensor_goes_on {r : Request} (sequenced : r.isSequenced = true)
    (path : r.headers.path = "/coap/dev/temp") : r.GoesOn .empty sensorTarget sensorName where
  sequenced := sequenced
  named := path ▸ sensor_named
  present := by decide +kernel
  unobserved := by
    rintro - ⟨e, none, -⟩
    cases none

theorem sensor_reads_leave_same_lifetime :
    let ic : Interconnection := ⟨⟨2⟩, .empty, .memory (.new (.ofSeconds 30) 16)⟩
    let other : Request :=
      { sensorRead none with
        headers := { (sensorRead none).headers with
          contentType := some "text/plain"
          accepted := ["application/json"]
          qos := .exactlyOnce } }
    ∃ left₁ left₂,
      ic.exchange (.minted 0) sensorTarget ⟨0⟩ ⟨1⟩ (sensorRead none) (.of "http") = some left₁ ∧
      ic.exchange (.minted 0) sensorTarget ⟨0⟩ ⟨1⟩ other (.of "mqtt") = some left₂ ∧
      left₁.cache.lifetime? "coap://dev/temp" = left₂.cache.lifetime? "coap://dev/temp" ∧
      left₁.cache.lifetime? "coap://dev/temp" = some (.ofSeconds 30) := by
  intro ic other
  exact exchanges_leave_same_lifetime (.minted 0) .empty (.new (.ofSeconds 30) 16) rfl sensorTarget
    sensorName (fun classed => absurd rfl classed) (sensorRead none) other (sensor_goes_on rfl rfl)
    (sensor_goes_on rfl rfl) rfl (Or.inr rfl) ⟨0⟩ ⟨1⟩
    (by
      intro d stored
      cases stored
      decide +kernel) _ _

/-- A client that asks for an hour gets the reply cached for an hour, for everybody. -/
theorem requester_decides_lifetime :
    ¬∀ (k : Keyring) (subscriptions : Subscriptions) (m : MemoryCache) (t : MemoryTarget)
      (uri : ResourceUri) (r : Request) (contentType : Option String) (accepted : List String)
      (qos : QualityOfService) (maxAge : Option Span), m.entries = [] → uri.Reread →
      r.GoesOn subscriptions t uri → ∀ (asked answered : Instant) (p : ProtocolName),
      let ic : Interconnection := ⟨k.interconnection, subscriptions, .memory m⟩
      let other : Request :=
        { r with
          headers := { r.headers with
            contentType := contentType
            accepted := accepted
            qos := qos
            maxAge := maxAge } }
      (ic.exchange k t asked answered r p).map (fun left => left.cache.lifetime? uri.text) =
        (ic.exchange k t asked answered other p).map fun left => left.cache.lifetime? uri.text := by
  intro all
  have same := all (.minted 0) .empty (.new (.ofSeconds 30) 16) sensorTarget sensorName
    (sensorRead none) none [] .atMostOnce (some (.ofSeconds 3600)) rfl
    (ResourceUri.reread_other sensor_named rfl) (sensor_goes_on rfl rfl) ⟨0⟩ ⟨1⟩ (.of "http")
  revert same
  decide +kernel

end ProtocolGateway
