import Mathlib
import ProtocolGateway.Proofs.Routing.Access
import ProtocolGateway.Proofs.Routing.Triples
import ProtocolGateway.Proofs.Routing.Visits
import ProtocolGateway.Routing.Keyring

/-!
What an envelope leaves behind that the interconnection stage cannot finish. Whatever the stage reads it
reads before it touches the subscriptions, so a fault found in reading leaves them alone. It writes last:
only an envelope that may be read to its end, but not written, costs or adds subscribers.
-/

namespace ProtocolGateway

/-! Drains that find nobody -/

theorem Table.put_same {α β : Type} [DecidableEq α] {t : Table α β} {k : α} {v : β}
    (known : at? t k = some v) : put k v t = t := by
  induction t with
  | nil => cases known
  | cons e rest ih =>
    rw [at?_cons] at known
    rw [put_cons]
    by_cases here : e.1 = k
    · rw [if_pos here] at known
      rw [if_pos here, ← here, ← Option.some.inj known]
    · rw [if_neg here] at known
      rw [if_neg here, ih known]

theorem Subscribers.Tidy.trim_all {ss : Subscribers} (tidy : ss.Tidy)
    {keep : ProtocolName → Subscriber → Bool} (all : ∀ e ∈ ss, ∀ s ∈ e.2, keep e.1 s = true) :
    ss.trim keep = ss := by
  have whole : ss.map (fun e => (e.1, e.2.filter (keep e.1))) = ss := by
    refine (List.map_congr_left fun e member => ?_).trans ss.map_id
    rw [List.filter_eq_self.mpr (all e member)]
    rfl
  unfold Subscribers.trim
  rw [whole]
  refine List.filter_eq_self.mpr fun e member => ?_
  simpa using tidy.filled e member

namespace Subscriptions

variable {r : Subscriptions}

theorem Tidy.store_under (tidy : r.Tidy) {uri : String} {ss : Subscribers}
    (known : Table.at? r.entries uri = some ss) : r.store uri ss = r := by
  have filled : ss ≠ [] := tidy.filled _ (Table.mem_of_at? known)
  unfold Subscriptions.store
  rw [if_neg (by simpa using filled), Table.put_same known]

theorem drain_unknown (r : Subscriptions) {uri : String} {includeStanding : Bool}
    (unknown : (r.drain uri includeStanding).1 = none) : (r.drain uri includeStanding).2 = r := by
  unfold Subscriptions.drain at unknown ⊢
  cases known : Table.at? r.entries uri with
  | none => rfl
  | some ss =>
    rw [known] at unknown
    cases unknown

theorem Tidy.drain_nobody (tidy : r.Tidy) {uri : String} {includeStanding : Bool}
    (nobody : (r.drain uri includeStanding).1 = some []) : (r.drain uri includeStanding).2 = r := by
  have fits := tidy.drain_fits includeStanding nobody
  rcases r.drain_entry uri includeStanding with ⟨same, _⟩ | same
  · exact same
  · cases known : Table.at? r.entries uri with
    | none =>
      unfold Subscriptions.drain
      rw [known]
    | some ss =>
      have under : r.under uri = ss := by
        unfold Subscriptions.under
        rw [known]
        rfl
      have entries := tidy.tidy _ (Table.mem_of_at? known)
      have stand : ∀ e ∈ ss, ∀ s ∈ e.2, decide (s = Subscriber.standing) = true := by
        intro e member s listed
        have here : ⟨uri, e.1, s⟩ ∈ r.roll := by
          rw [tidy.mem_roll, under]
          exact (Subscribers.mem_of_iff entries.keyed).mpr ⟨e, member, rfl, listed⟩
        -- Whoever waits would be listed.
        by_contra waits
        have waits : s ≠ .standing := by simpa using waits
        obtain ⟨_, none, _⟩ := (fits.listed e.1 s).mpr ⟨here, fun stands => (waits stands).elim⟩
        cases none
      rw [same, under, entries.trim_all stand]
      exact tidy.store_under known

end Subscriptions

/-! Fields that cannot be written -/

namespace Envelope

variable {e : Envelope} {t : Token}

/-- An envelope from which everything can be read that the stage reads, with a field that the stage
writes last and may not write: the target protocol of a request that goes on, or the receivers of an answer
from outside or of the acknowledgement of an UNOBSERVE. -/
structure Withholds (e : Envelope) (t : Token) (source : Stage) (field : EnvelopeField) : Prop where
  message : e.allows t .message = true
  origin : e.allows t .source = true
  denied : e.allows t field = false
  last : field = .target ∧ source = .input ∨ field = .replyTo ∧ source = .manager ∨
    field = .replyTo ∧ source = .input ∧
      ∃ r, e.content = .request r ∧ r.headers.operation = .unobserve

/-- The cause is a field that the stage writes last for a request and may not write. -/
def Stops (e : Envelope) (t : Token) (o : Operation) (h : Halt) : Prop :=
  ∃ field, h = .fault (.envelope (.accessDenied field)) ∧ e.allows t field = false ∧
    (field = .target ∨ field = .replyTo ∧ o = .unobserve)

theorem allows_put (e : Envelope) (t : Token) (v : FieldValue) (field : EnvelopeField) :
    (e.put v).allows t field = e.allows t field := by
  cases v <;> rfl

theorem allows_of_check {field : EnvelopeField} (passed : e.check t field = .ok ()) :
    e.allows t field = true := by
  by_contra denied
  rw [check_denied (eq_false_of_ne_true denied)] at passed
  cases passed

theorem write_cases (e : Envelope) (t : Token) (v : FieldValue) :
    e.allows t v.field = true ∧ e.write t v = .ok (e.put v) ∨
      e.allows t v.field = false ∧ e.write t v = .error (.accessDenied v.field) := by
  unfold write
  cases allowed : e.allows t v.field with
  | true =>
    rw [check_allowed allowed]
    exact Or.inl ⟨rfl, rfl⟩
  | false =>
    rw [check_denied allowed]
    exact Or.inr ⟨rfl, rfl⟩

theorem write_allowed {v : FieldValue} (allowed : e.allows t v.field = true) :
    e.write t v = .ok (e.put v) := by
  rcases e.write_cases t v with ⟨_, written⟩ | ⟨denied, _⟩
  · exact written
  · rw [allowed] at denied
    cases denied

end Envelope

namespace Interconnection

variable {ic : Interconnection} {e : Envelope} {t : Token} {now : Instant} {h : Halt}

theorem readRequest_allows {r : Request} {p : ProtocolName} (read : readRequest t e = .ok (r, p)) :
    e.content = .request r ∧ e.allows t .message = true ∧ e.allows t .source = true := by
  unfold readRequest Envelope.message Envelope.source at read
  cases message : e.check t .message with
  | error x =>
    rw [message] at read
    cases read
  | ok _ =>
    rw [message] at read
    cases origin : e.check t .source with
    | ok _ =>
      refine ⟨?_, Envelope.allows_of_check message, Envelope.allows_of_check origin⟩
      rw [origin] at read
      simp only [guarded, Except.map, bind, Except.bind] at read
      split at read
      · rename_i content
        split at read
        · cases read
        · split at read
          · cases read
            exact content
          · cases read
      · cases read
    | error x =>
      rw [origin] at read
      simp only [guarded, Except.map, bind, Except.bind] at read
      split at read
      · split at read <;> cases read
      · cases read

theorem readAnswer_allows {m : Message} {key : String} (read : readAnswer t e = .ok (m, key)) :
    e.allows t .message = true ∧ e.allows t .source = true := by
  unfold readAnswer Envelope.message Envelope.source at read
  cases message : e.check t .message with
  | error x =>
    rw [message] at read
    cases read
  | ok _ =>
    rw [message] at read
    cases origin : e.check t .source with
    | ok _ => exact ⟨Envelope.allows_of_check message, Envelope.allows_of_check origin⟩
    | error x =>
      rw [origin] at read
      simp only [guarded, Except.map, bind, Except.bind] at read
      split at read <;> cases read

theorem route_fails {r : Request} {uri : ResourceUri} (read : e.allows t .message = true)
    (failed : route t e r uri = .error h) :
    h = .fault (.envelope (.accessDenied .target)) ∧ e.allows t .target = false := by
  have message := Envelope.write_allowed
    (v := .message (.request (r.rerouted uri.authority uri.pathAndQuery))) read
  rcases Envelope.write_cases (e.put (.message (.request (r.rerouted uri.authority uri.pathAndQuery)))) t
    (.target (.of uri.scheme)) with ⟨_, target⟩ | ⟨denied, target⟩
  · simp only [route, guarded, bind, Except.bind, message, target] at failed
    cases failed
  · simp only [route, guarded, bind, Except.bind, message, target] at failed
    rw [Envelope.allows_put] at denied
    exact ⟨(Except.error.inj failed).symm, denied⟩

theorem answer_fails {m : Message} {p : ProtocolName} {s : Sequence}
    (read : e.allows t .message = true) (failed : answer t e m p s = .error h) :
    h = .fault (.envelope (.accessDenied .replyTo)) ∧ e.allows t .replyTo = false := by
  have message := Envelope.write_allowed (v := .message m) read
  rcases (e.put (.message m)).write_cases t (.replyTo [(p, [.once s])]) with
    ⟨_, receivers⟩ | ⟨denied, receivers⟩
  · simp only [answer, guarded, bind, Except.bind, message, receivers] at failed
    cases failed
  · simp only [answer, guarded, bind, Except.bind, message, receivers] at failed
    rw [Envelope.allows_put] at denied
    exact ⟨(Except.error.inj failed).symm, denied⟩

/-- A request that has been read fails at nothing but a field to write. Whoever reads from the cache is
not on record yet. -/
theorem resolved_fails {r : Request} {p : ProtocolName} {uri : ResourceUri}
    (read : e.allows ic.token .message = true)
    (failed : (ic.resolved now e r p uri).2 = .error h) :
    (ic.resolved now e r p uri).1.subscriptions = ic.subscriptions ∨
      e.Stops ic.token r.headers.operation h := by
  have onward (o : Operation) (failed : route ic.token e r uri = .error h) : e.Stops ic.token o h := by
    obtain ⟨cause, denied⟩ := route_fails read failed
    exact ⟨.target, cause, denied, Or.inl rfl⟩
  unfold resolved at failed ⊢
  cases operation : r.headers.operation with
  | read =>
    simp only [operation] at failed ⊢
    generalize ic.cache.lookup now uri.text = looked at failed ⊢
    obtain ⟨found, cache⟩ := looked
    cases found with
    | some hit => exact Or.inl rfl
    | none => exact Or.inr (onward .read failed)
  | observe =>
    simp only [operation] at failed
    split at failed
    · cases failed
    · exact Or.inr (onward .observe failed)
  | unobserve =>
    simp only [operation] at failed
    split at failed
    · obtain ⟨cause, denied⟩ := answer_fails read failed
      exact Or.inr ⟨.replyTo, cause, denied, Or.inr ⟨rfl, rfl⟩⟩
    · exact Or.inr (onward .unobserve failed)
  | create | update | delete =>
    simp only [operation] at failed
    exact Or.inr (onward _ failed)

theorem onRequest_fails (failed : (ic.onRequest now e).2 = .error h) :
    (ic.onRequest now e).1.subscriptions = ic.subscriptions ∨
      ∃ field, h = .fault (.envelope (.accessDenied field)) ∧
        e.Withholds ic.token .input field := by
  cases read : readRequest ic.token e with
  | error cause =>
    left
    unfold onRequest
    rw [read]
  | ok asked =>
    obtain ⟨r, p⟩ := asked
    obtain ⟨content, message, origin⟩ := readRequest_allows read
    unfold onRequest at failed ⊢
    rw [read] at failed ⊢
    dsimp only at failed ⊢
    cases named : ResourceUri.parse r.headers.path with
    | error cause => exact Or.inl rfl
    | ok uri =>
      rw [named] at failed
      refine (resolved_fails message failed).imp_right ?_
      rintro ⟨field, cause, denied, last⟩
      refine ⟨field, cause, message, origin, denied, ?_⟩
      rcases last with target | ⟨receivers, ends⟩
      · exact Or.inl ⟨target, rfl⟩
      · exact Or.inr (Or.inr ⟨receivers, rfl, r, content, ends⟩)

theorem onAnswer_fails {x : RoutingError} (tidy : ic.subscriptions.Tidy)
    (failed : (ic.onAnswer now e).2 = .error (.fault x)) :
    (ic.onAnswer now e).1.subscriptions = ic.subscriptions ∨
      x = .envelope (.accessDenied .replyTo) ∧ e.Withholds ic.token .manager .replyTo := by
  cases read : readAnswer ic.token e with
  | error cause =>
    left
    rw [onAnswer_unread read]
  | ok about =>
    obtain ⟨message, origin⟩ := readAnswer_allows read
    obtain ⟨ic', r, crossing, released⟩ := onAnswer_released now read
    rw [crossing] at failed ⊢
    -- With nobody listed nothing is taken out; with somebody only the reply list can be denied.
    cases released with
    | unlisted listed subscriptions drained nobody =>
      left
      have given := congrArg Prod.fst drained
      have rest := congrArg Prod.snd drained
      rcases nobody with rfl | rfl
      · exact rest.symm.trans (ic.subscriptions.drain_unknown given)
      · exact rest.symm.trans (tidy.drain_nobody given)
    | brokenOff => cases failed
    | settled l =>
      right
      rcases e.write_cases ic.token (.replyTo l) with ⟨_, written⟩ | ⟨denied, written⟩
      · rw [written] at failed
        cases failed
      · rw [written] at failed
        cases failed
        exact ⟨rfl, message, origin, denied, Or.inr (Or.inl ⟨rfl, rfl⟩)⟩

end Interconnection

/-- A stage that fails forwards nothing, and leaves the subscriptions as they are, whatever they have come
to be. The exception are envelopes with a field that the stage may not write and writes last. -/
theorem Interconnection.fault_leaves_subscriptions (token : Token) (changes : List Change)
    (cache : ReplyCache) (now : Instant) (source : Stage) (e : Envelope) (x : RoutingError)
    (failed : (Interconnection.receive ⟨token, Subscriptions.empty.performAll changes, cache⟩ now source
      e).2 = .error (.fault x)) :
    (Interconnection.receive ⟨token, Subscriptions.empty.performAll changes, cache⟩ now source
        e).1.subscriptions = Subscriptions.empty.performAll changes ∨
      ∃ field, x = .envelope (.accessDenied field) ∧ e.Withholds token source field := by
  cases source with
  | input =>
    rcases onRequest_fails failed with same | ⟨field, cause, withheld⟩
    · exact Or.inl same
    · cases cause
      exact Or.inr ⟨field, rfl, withheld⟩
  | manager =>
    have tidy := (Subscriptions.shows_empty.performAll changes).tidy
    rcases onAnswer_fails tidy failed with same | ⟨cause, withheld⟩
    · exact Or.inl same
    · exact Or.inr ⟨.replyTo, cause, withheld⟩
  | interconnection | output => exact Or.inl rfl

/-- An envelope from http with a message for the interconnection stage, and all grants but one. -/
def withheld (m : Message) (field : EnvelopeField) : Envelope :=
  let k := Keyring.minted 0
  { k.wrap m (.of "http") with grants := k.grants.filter (· ≠ (field, k.interconnection)) }

def refusedObserve : Message :=
  .request { Request.new .observe "/coap/dev/temp" with sequence := 2147483648 }

theorem unreadable_sender_leaves_observer :
    let token := (Keyring.minted 0).interconnection
    let changes := [Change.observe "coap://dev/temp" (.of "mqtt") 2147483649]
    let ic : Interconnection := ⟨token, Subscriptions.empty.performAll changes, .off⟩
    let e := withheld refusedObserve .source
    (ic.receive ⟨0⟩ .input e).2 = .error (.fault (.envelope (.accessDenied .source))) ∧
    (ic.receive ⟨0⟩ .input e).1.subscriptions = ic.subscriptions := by
  intro token changes ic e
  have failed : (ic.receive ⟨0⟩ .input e).2 = .error (.fault (.envelope (.accessDenied .source))) := by
    decide +kernel
  refine ⟨failed, ?_⟩
  rcases Interconnection.fault_leaves_subscriptions token changes .off ⟨0⟩ .input e _ failed with
    same | ⟨field, cause, withheld⟩
  · exact same
  · cases cause
    exact absurd withheld.origin (by decide)

/-- An OBSERVE whose target the stage may not set fails, and its sender stands and waits all the same. -/
theorem untargeted_observe_leaves_observer :
    let token := (Keyring.minted 0).interconnection
    let ic := Interconnection.new token .off
    let e := withheld refusedObserve .target
    (ic.receive ⟨0⟩ .input e).2 = .error (.fault (.envelope (.accessDenied .target))) ∧
    (ic.receive ⟨0⟩ .input e).1.subscriptions =
      Subscriptions.empty.performAll [.observe "coap://dev/temp" (.of "http") 2147483648] ∧
    (ic.receive ⟨0⟩ .input e).1.subscriptions ≠ ic.subscriptions := by
  decide +kernel

end ProtocolGateway
