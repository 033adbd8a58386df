import Mathlib
import ProtocolGateway.Proofs.Routing.Itinerary
import ProtocolGateway.Proofs.Routing.ReplyKey
import ProtocolGateway.Proofs.Routing.Standing
import ProtocolGateway.Proofs.Routing.Visits

/-!
What a target hears of its observers. However the observers of a resource come and go and whatever
replies are handled in between, the target is asked to notify when the first one comes and to stop
when the last one has gone.
-/

namespace ProtocolGateway

def forwarded : StageResult → Option Operation
  | .ok (some ⟨_, .manager, e⟩) => some e.content.headers.operation
  | _ => none

namespace Visit

/-- An OBSERVE or UNOBSERVE that a protocol asks for under a name. -/
structure Asks (v : Visit) (token : Token) (key : String) (r : Request) (p : ProtocolName) : Prop where
  source : v.source = .input
  opened : v.envelope.IsOpen token
  content : v.envelope.content = .request r
  sequenced : r.isSequenced = true
  sender : v.envelope.sourceProtocol = some p
  observes : r.headers.operation = .observe ∨ r.headers.operation = .unobserve
  named : ∃ uri, ResourceUri.parse r.headers.path = .ok uri ∧ uri.text = key

structure Tells (v : Visit) (token : Token) (key : String) : Prop where
  source : v.source = .manager
  opened : v.envelope.IsOpen token
  reply : ∃ r p, v.envelope.content = .reply r ∧ v.envelope.sourceProtocol = some p ∧
    Message.isAbout (.reply r) p key

def Concerns (v : Visit) (token : Token) (key : String) : Prop :=
  (∃ r p, v.Asks token key r p) ∨ v.Tells token key

end Visit

namespace Interconnection

def told (ic : Interconnection) : List Visit → List Operation
  | [] => []
  | v :: rest =>
    (forwarded (ic.receive v.now v.source v.envelope).2).toList ++
      (ic.receive v.now v.source v.envelope).1.told rest

theorem told_snoc (ic : Interconnection) (visits : List Visit) (v : Visit) :
    ic.told (visits ++ [v]) = ic.told visits ++
      (forwarded ((ic.after visits).receive v.now v.source v.envelope).2).toList := by
  induction visits generalizing ic with
  | nil => simp [told, after]
  | cons w rest ih =>
    rw [List.cons_append, told, told, ih, List.append_assoc]
    rfl

variable {ic : Interconnection} {token : Token} {key : String} {v : Visit} {r : Request}
  {p : ProtocolName}

/-! One envelope -/

theorem receive_asks (own : ic.token = token) (asks : v.Asks token key r p) :
    ∃ uri, uri.text = key ∧
      ic.receive v.now v.source v.envelope = ic.resolved v.now v.envelope r p uri := by
  obtain ⟨uri, parsed, text⟩ := asks.named
  refine ⟨uri, text, ?_⟩
  have read := readRequest_open (own ▸ asks.opened) asks.content asks.sequenced asks.sender
  rw [asks.source]
  change ic.onRequest v.now v.envelope = _
  unfold onRequest
  rw [read]
  dsimp only
  rw [parsed]

theorem forwarded_route (e : Envelope) (r : Request) (uri : ResourceUri) :
    forwarded (.ok (some ⟨.interconnection, .manager,
      (e.put (.message (.request (r.rerouted uri.authority uri.pathAndQuery)))).put
        (.target (.of uri.scheme))⟩)) = some r.headers.operation := rfl

theorem receive_observe (own : ic.token = token) (asks : v.Asks token key r p)
    (observe : r.headers.operation = .observe) :
    let ic' := (ic.receive v.now v.source v.envelope).1
    let out := (ic.receive v.now v.source v.envelope).2
    ic'.subscriptions.Observed key ∧ ic'.subscriptions.Awaits key p r.sequence ∧
      (ic.subscriptions.Observed key → out = .ok none) ∧
      (¬ic.subscriptions.Observed key → forwarded out = some .observe) := by
  obtain ⟨uri, rfl, received⟩ := receive_asks own asks
  intro ic' out
  have already := ic.subscriptions.observe_already uri.text p r.sequence
  rw [← Subscriptions.observed_iff] at already
  have state : ic'.subscriptions = (ic.subscriptions.observe uri.text p r.sequence).2 := by
    change (ic.receive v.now v.source v.envelope).1.subscriptions = _
    rw [received]
    simp only [resolved, observe]
  have result : out = if (ic.subscriptions.observe uri.text p r.sequence).1 = true then .ok none
      else route ic.token v.envelope r uri := by
    change (ic.receive v.now v.source v.envelope).2 = _
    rw [received]
    simp only [resolved, observe]
  rw [state, result]
  refine ⟨Subscriptions.observed_iff.mpr ?_, ?_, fun stood => ?_, fun nobody => ?_⟩
  · exact Subscriptions.observerCount_observe _ uri.text p r.sequence
  · exact Subscriptions.awaits_store _ _ _ p r.sequence
  · rw [if_pos (already.mpr stood)]
  · rw [if_neg fun yes => nobody (already.mp yes), route_open (own ▸ asks.opened), forwarded_route,
      observe]

def Acknowledges (out : StageResult) (r : Request) (p : ProtocolName) : Prop :=
  ∃ e, out = .ok (some ⟨.interconnection, .output, e⟩) ∧
    e.content = .reply (Reply.forRequest r []) ∧ e.replyList = some [(p, [.once r.sequence])]

theorem receive_unobserve (own : ic.token = token) (asks : v.Asks token key r p)
    (unobserve : r.headers.operation = .unobserve) :
    let ic' := (ic.receive v.now v.source v.envelope).1
    let out := (ic.receive v.now v.source v.envelope).2
    (ic'.subscriptions.Observed key → ic.subscriptions.Observed key ∧ Acknowledges out r p) ∧
      (¬ic'.subscriptions.Observed key → forwarded out = some .unobserve) := by
  obtain ⟨uri, rfl, received⟩ := receive_asks own asks
  intro ic' out
  have left := ic.subscriptions.observerCount_unobserve uri.text p r.sequence
  have state : ic'.subscriptions = (ic.subscriptions.unobserve uri.text p r.sequence).2 := by
    change (ic.receive v.now v.source v.envelope).1.subscriptions = _
    rw [received]
    simp only [resolved, unobserve]
  have result : out = if (ic.subscriptions.unobserve uri.text p r.sequence).1 > 0 then
      answer ic.token v.envelope (.reply (Reply.forRequest r [])) p r.sequence
      else route ic.token v.envelope r uri := by
    change (ic.receive v.now v.source v.envelope).2 = _
    rw [received]
    simp only [resolved, unobserve]
  rw [state, result, Subscriptions.observed_iff, left]
  constructor
  · intro remain
    rw [if_pos remain, answer_open (own ▸ asks.opened)]
    exact ⟨Subscriptions.observed_of_unobserve remain, _, rfl, rfl, rfl⟩
  · intro none
    rw [if_neg none, route_open (own ▸ asks.opened), forwarded_route, unobserve]

/-- Replies come and go without a word to the target, and all observers stay. -/
theorem receive_tells (own : ic.token = token) (tells : v.Tells token key) :
    ((ic.receive v.now v.source v.envelope).1.subscriptions.Observed key ↔
        ic.subscriptions.Observed key) ∧
      forwarded (ic.receive v.now v.source v.envelope).2 = none := by
  obtain ⟨reply, q, content, sender, answers, uri, named, rfl⟩ := tells.reply
  have opened := tells.opened
  have read := readAnswer_open (own ▸ opened) content answers sender named
  have drained := ic.subscriptions.observerCount_drain uri.text uri.text true
  rw [Subscriptions.observed_iff, Subscriptions.observed_iff, tells.source]
  change (0 < (ic.onAnswer v.now v.envelope).1.subscriptions.observerCount _ ↔ _) ∧
    forwarded (ic.onAnswer v.now v.envelope).2 = none
  obtain ⟨ic', r, crossing, released⟩ := onAnswer_released v.now read
  rw [crossing]
  have rest {listed : Option ReplyTo} {subscriptions : Subscriptions}
      (given : ic.subscriptions.drain uri.text (Message.kind (.reply reply) == .reply) =
        (listed, subscriptions)) :
      subscriptions.observerCount uri.text = ic.subscriptions.observerCount uri.text := by
    rw [← drained]
    exact (congrArg (fun pair => pair.2.observerCount uri.text) given).symm
  cases released with
  | unlisted listed subscriptions given nobody => exact ⟨by rw [rest given], rfl⟩
  | brokenOff l subscriptions given => exact ⟨by rw [rest given], rfl⟩
  | settled l subscriptions given present ic' settled =>
    cases settled with
    | stored r completed =>
      rw [rest given, Envelope.write_open (own ▸ opened)]
      exact ⟨Iff.rfl, rfl⟩
    | still m plain => exact absurd rfl (plain reply)

/-! What was told -/

/-- What the target has been told agrees with whether anybody stands. -/
structure Agrees (told : List Operation) (observed : Prop) : Prop where
  only : ∀ o ∈ told, o = .observe ∨ o = .unobserve
  between : ∀ a b c, told = a ++ .observe :: b ++ .observe :: c → .unobserve ∈ b
  last : observed ↔ told.getLast? = some .observe

namespace Agrees

variable {told : List Operation} {observed : Prop}

theorem observe (agrees : Agrees told observed) (nobody : ¬observed) :
    Agrees (told ++ [.observe]) True where
  only o member := by
    rcases List.mem_append.mp member with old | new
    · exact agrees.only o old
    · exact Or.inl (List.mem_singleton.mp new)
  between a b c split := by
    rcases List.eq_nil_or_concat' c with rfl | ⟨c, x, rfl⟩
    · have told : told = a ++ .observe :: b := List.append_cancel_right split
      -- Nobody stood, so something came after the earlier OBSERVE.
      rcases List.eq_nil_or_concat' b with rfl | ⟨b, o, rfl⟩
      · exact absurd (agrees.last.mpr (by simp [told])) nobody
      · rcases agrees.only o (by simp [told]) with rfl | rfl
        · exact absurd (agrees.last.mpr (by simp [told, List.getLast?_cons])) nobody
        · simp
    · have whole : told ++ [Operation.observe] = (a ++ .observe :: b ++ .observe :: c) ++ [x] := by
        rw [split]
        simp
      exact agrees.between a b c (List.append_inj' whole rfl).1
  last := by simp

theorem unobserve (agrees : Agrees told observed) : Agrees (told ++ [.unobserve]) False where
  only o member := by
    rcases List.mem_append.mp member with old | new
    · exact agrees.only o old
    · exact Or.inr (List.mem_singleton.mp new)
  between a b c split := by
    rcases List.eq_nil_or_concat' c with rfl | ⟨c, x, rfl⟩
    · have same : [Operation.unobserve] = [.observe] := (List.append_inj' split rfl).2
      cases same
    · have whole : told ++ [Operation.unobserve] = (a ++ .observe :: b ++ .observe :: c) ++ [x] := by
        rw [split]
        simp
      exact agrees.between a b c (List.append_inj' whole rfl).1
  last := by simp

end Agrees

theorem Agrees.receive {told : List Operation} (own : ic.token = token)
    (agrees : Agrees told (ic.subscriptions.Observed key)) (concerns : v.Concerns token key) :
    Agrees (told ++ (forwarded (ic.receive v.now v.source v.envelope).2).toList)
      ((ic.receive v.now v.source v.envelope).1.subscriptions.Observed key) := by
  rcases concerns with ⟨r, p, asks⟩ | tells
  · rcases asks.observes with observe | unobserve
    · obtain ⟨observed, _, swallowed, sent⟩ := receive_observe own asks observe
      rw [eq_true observed]
      by_cases stood : ic.subscriptions.Observed key
      · rw [swallowed stood]
        simpa [forwarded, stood] using agrees
      · rw [sent stood]
        exact agrees.observe stood
    · obtain ⟨answered, sent⟩ := receive_unobserve own asks unobserve
      by_cases stands : (ic.receive v.now v.source v.envelope).1.subscriptions.Observed key
      · obtain ⟨stood, e, out, _⟩ := answered stands
        rw [out, eq_true stands]
        simpa [forwarded, stood] using agrees
      · rw [sent stands, eq_false stands]
        exact agrees.unobserve
  · obtain ⟨same, silent⟩ := receive_tells own tells
    rw [silent, propext same]
    simpa using agrees

theorem Agrees.after {visits : List Visit} (concern : ∀ v ∈ visits, v.Concerns token key)
    (cache : ReplyCache) :
    Agrees ((Interconnection.new token cache).told visits)
      (((Interconnection.new token cache).after visits).subscriptions.Observed key) := by
  induction visits using List.reverseRecOn with
  | nil =>
    have nobody : ¬(Interconnection.new token cache).subscriptions.Observed key :=
      fun ⟨_, member, _⟩ => nomatch member
    exact ⟨fun o member => (nomatch member), fun a b c split => by simp [told] at split,
      by simp [told, Interconnection.after, nobody]⟩
  | append_singleton visits v ih =>
    rw [told_snoc, after_snoc]
    have before := ih fun w member => concern w (List.mem_append_left _ member)
    exact before.receive (token_after _ visits) (concern v (by simp))

end Interconnection

open Interconnection in
/-- From an empty record on, whatever OBSERVEs, UNOBSERVEs and replies about one resource come: an
OBSERVE goes on to the target exactly when nobody stood before it, and an UNOBSERVE exactly when
nobody stands after it. One that does not go on waits, or is acknowledged at once. So between two
OBSERVEs that the target is told of there is an UNOBSERVE, and somebody stands exactly when the last
it was told of is an OBSERVE. -/
theorem target_told_of_first_and_last (token : Token) (cache : ReplyCache) (key : String)
    (visits : List Visit) (concern : ∀ v ∈ visits, v.Concerns token key) :
    (∀ before v after r p, visits = before ++ v :: after → v.Asks token key r p →
      let ic := (Interconnection.new token cache).after before
      let ic' := (Interconnection.new token cache).after (before ++ [v])
      let out := (ic.receive v.now v.source v.envelope).2
      (r.headers.operation = .observe →
        (forwarded out = some .observe ↔ ¬ic.subscriptions.Observed key) ∧
        (forwarded out ≠ some .observe → out = .ok none ∧
          ic'.subscriptions.Awaits key p r.sequence)) ∧
      (r.headers.operation = .unobserve →
        (forwarded out = some .unobserve ↔ ¬ic'.subscriptions.Observed key) ∧
        (forwarded out ≠ some .unobserve → Acknowledges out r p))) ∧
    (∀ a b c, (Interconnection.new token cache).told visits = a ++ .observe :: b ++ .observe :: c →
      .unobserve ∈ b) ∧
    (((Interconnection.new token cache).after visits).subscriptions.Observed key ↔
      ((Interconnection.new token cache).told visits).getLast? = some .observe) := by
  -- What concerns a whole run comes from the agreement that every visit keeps.
  have agrees := Agrees.after concern cache
  refine ⟨?_, agrees.between, agrees.last⟩
  intro before v after r p split asks ic ic' out
  have own : ic.token = token := token_after _ before
  have next : ic' = (ic.receive v.now v.source v.envelope).1 := after_snoc _ before v
  rw [next]
  constructor
  · intro observe
    obtain ⟨_, awaits, swallowed, sent⟩ := receive_observe own asks observe
    by_cases stood : ic.subscriptions.Observed key
    · have quiet : out = .ok none := swallowed stood
      simp [quiet, forwarded, stood, awaits]
    · have told : forwarded out = some .observe := sent stood
      simp [told, stood]
  · intro unobserve
    obtain ⟨answered, sent⟩ := receive_unobserve own asks unobserve
    by_cases stands : (ic.receive v.now v.source v.envelope).1.subscriptions.Observed key
    · obtain ⟨_, acknowledged⟩ := answered stands
      obtain ⟨e, turned, _⟩ := id acknowledged
      have quiet : forwarded out = none := by
        change forwarded (ic.receive v.now v.source v.envelope).2 = none
        rw [turned]
        rfl
      exact ⟨by simp [quiet, stands], fun _ => acknowledged⟩
    · have told : forwarded out = some .unobserve := sent stands
      simp [told, stands]

namespace Visit

def asking (o : Operation) (s : Sequence) (p : String) : Visit :=
  ⟨⟨0⟩, .input, (Keyring.minted 0).wrap
    (.request { Request.new o "/coap/dev/temp" with sequence := s }) (.of p)⟩

def telling (content : Octets) : Visit :=
  ⟨⟨0⟩, .manager, (Keyring.minted 0).wrap
    (.reply (.notification .observe "dev" "/temp" { payload := content })) (.of "coap")⟩

theorem asks_asking {o : Operation} {s : Sequence} (p : String) (sequenced : s ≠ 0)
    (observes : o = .observe ∨ o = .unobserve) :
    (asking o s p).Asks (Keyring.minted 0).interconnection "coap://dev/temp"
      { Request.new o "/coap/dev/temp" with sequence := s } (.of p) where
  source := rfl
  opened field := by cases field <;> rfl
  content := rfl
  sequenced := by simpa [Request.isSequenced] using sequenced
  sender := rfl
  observes := observes
  named := ⟨⟨"coap", "dev", "/temp", []⟩,
    (by decide +kernel : ResourceUri.parse "/coap/dev/temp" = _), by decide +kernel⟩

theorem tells_telling (content : Octets) :
    (telling content).Tells (Keyring.minted 0).interconnection "coap://dev/temp" where
  source := rfl
  opened field := by cases field <;> rfl
  reply := ⟨_, _, rfl, rfl, rfl, ⟨"coap", "dev", "/temp", []⟩,
    (by decide +kernel : ResourceUri.ofParts "coap" "dev" "/temp" = _), by decide +kernel⟩

end Visit

/-- One protocol asks for an end that nobody began; then two come and go. -/
def comingAndGoing : List Visit :=
  [.asking .unobserve 0x80000000 "app", .telling [50], .asking .observe 0x80000001 "app",
    .asking .observe 0x80000002 "web", .asking .unobserve 0x80000003 "app",
    .asking .unobserve 0x80000004 "web"]

theorem told_of_coming_and_going :
    let ic := Interconnection.new (Keyring.minted 0).interconnection .off
    ic.told comingAndGoing = [.unobserve, .observe, .unobserve] ∧
      (∀ v ∈ comingAndGoing, v.Concerns (Keyring.minted 0).interconnection "coap://dev/temp") ∧
      ¬(ic.after comingAndGoing).subscriptions.Observed "coap://dev/temp" := by
  intro ic
  have told : ic.told comingAndGoing = [.unobserve, .observe, .unobserve] := by decide +kernel
  have concern : ∀ v ∈ comingAndGoing,
      v.Concerns (Keyring.minted 0).interconnection "coap://dev/temp" := by
    intro v member
    simp only [comingAndGoing, List.mem_cons, List.not_mem_nil, or_false] at member
    rcases member with rfl | rfl | rfl | rfl | rfl | rfl
    · exact Or.inl ⟨_, _, Visit.asks_asking "app" (by decide) (Or.inr rfl)⟩
    · exact Or.inr (Visit.tells_telling [50])
    · exact Or.inl ⟨_, _, Visit.asks_asking "app" (by decide) (Or.inl rfl)⟩
    · exact Or.inl ⟨_, _, Visit.asks_asking "web" (by decide) (Or.inl rfl)⟩
    · exact Or.inl ⟨_, _, Visit.asks_asking "app" (by decide) (Or.inr rfl)⟩
    · exact Or.inl ⟨_, _, Visit.asks_asking "web" (by decide) (Or.inr rfl)⟩
  obtain ⟨_, _, last⟩ := target_told_of_first_and_last (Keyring.minted 0).interconnection .off
    "coap://dev/temp" comingAndGoing concern
  refine ⟨told, concern, fun observed => ?_⟩
  have final := last.mp observed
  rw [told] at final
  cases final

end ProtocolGateway
