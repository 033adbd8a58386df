import Mathlib
import ProtocolGateway.Proofs.Gateway.Errand

/-!
How one request comes to its end. Whatever happens first, the caller gets one of the messages that are
under way for it, and what the cache has kept from before goes out or is right.
-/

namespace ProtocolGateway

open Gateway (Frame)

namespace Errand

/-- What is said is about the resource, is what the caller is to be answered, and is true of it. -/
structure Honest (e : Errand) (f : Frame) : Prop where
  about : ∀ m, e.tells m → m.isAbout e.sender e.key
  suits : ∀ m, e.tells m → e.Suits m
  truth : ∀ r, e.tells (.reply r) →
    (r.headers.operation = .read ∨ r.headers.operation = .observe) →
    ∀ u : ResourceUri, u.Reread → u.text = e.key → f.contentOf u = some r.payload.data
  lasting : ∀ r, e.tells (.reply r) → ∀ d, r.headers.maxAge = some d →
    ((Instant.ofMillis f.now).after? d).isSome
  unnamed : ∀ d, e.lifetime = some d → ((Instant.ofMillis f.now).after? d).isSome
  /-- No change goes with an error. -/
  unchanged : ∀ x, e.tells (.error x) → ∀ m, e.tells m → m.acknowledges = false
  /-- A target does not observe what it refuses to observe. -/
  unheeded : ∀ x, e.tells (.error x) → x.headers.operation = .observe →
    ∀ u : ResourceUri, u.Reread → u.text = e.key → ¬f.Observes u

def Answered (e : Errand) (g : Gateway) : Prop :=
  ∃ x, g.exchanges[e.ticket]? = some (.resolved x) ∧ ∀ a, e.answer = some a → a.Fits x.outcome

def Waits (e : Errand) (g : Gateway) : Prop :=
  g.exchanges[e.ticket]? = some .waiting ∧
    Table.at? (g.pendingOf e.protocol) e.sequence = some e.ticket

/-- An acknowledgement is to come that finds somebody on record. -/
def Clears (e : Errand) (g : Gateway) : Prop :=
  0 < g.coming Message.acknowledges ∧ (∃ m, e.tells m ∧ m.acknowledges = true) ∧
    (g.interconnection.subscriptions.Observed e.key ∨
      g.interconnection.subscriptions.Recorded e.key ∧ ∀ m, e.tells m → m.acknowledges = true)

/-- Where the errand stands: for the caller, for the cache and for the observers. -/
structure Stands (e : Errand) (f : Frame) (g : Gateway) : Prop where
  /-- A caller that waits is carried by an envelope, or a message is to come that reaches it. -/
  caller : e.answer.isSome → e.Answered g ∨ e.Waits g ∧
    (0 < g.carrying e.protocol e.sequence ∨
      0 < g.interconnection.subscriptions.waits e.key e.protocol e.sequence ∧ 0 < g.coming fun _ => true)
  tickets : ∀ p s t, Table.at? (g.pendingOf p) s = some t → t < g.exchanges.length
  alone : ∀ p s, Table.at? (g.pendingOf p) s = some e.ticket → (p, s) = (e.protocol, e.sequence)
  /-- What the cache holds is right, or it is about the resource and will be thrown out. -/
  cached : ∀ u : ResourceUri, u.Reread → ∀ kept, g.interconnection.cache.Holds u.text kept →
    f.contentOf u = some kept.payload.data ∨ u.text = e.key ∧ e.Clears g
  heeded : ∀ u : ResourceUri, u.Reread → f.Observes u →
    g.interconnection.subscriptions.Observed u.text
  ttl : g.interconnection.cache.ttl? = e.lifetime

variable {e : Errand} {f : Frame} {g g' : Gateway}

theorem Stands.spared (stands : e.Stands f g) (spares : Spares g g')
    (caller : e.answer.isSome → e.Answered g' ∨ e.Waits g' ∧
      (0 < g'.carrying e.protocol e.sequence ∨
        0 < g'.interconnection.subscriptions.waits e.key e.protocol e.sequence ∧
          0 < g'.coming fun _ => true)) : e.Stands f g' where
  caller := caller
  tickets q u k waits := by
    rw [spares.exchanges]
    exact stands.tickets q u k (spares.waits q u k waits)
  alone q u waits := stands.alone q u (spares.waits q u _ waits)
  cached u reread kept held := by
    unfold Clears
    rw [spares.stage] at held ⊢
    exact (stands.cached u reread kept held).imp_right fun ⟨here, acknowledged, rest⟩ =>
      ⟨here, acknowledged.trans_le (spares.coming _), rest⟩
  heeded := by
    rw [spares.stage]
    exact stands.heeded
  ttl := by
    rw [spares.stage]
    exact stands.ttl

theorem Stands.beside (stands : e.Stands f g) (same : Gateway.Beside g g')
    (carrying : g.carrying e.protocol e.sequence ≤ g'.carrying e.protocol e.sequence)
    (coming : ∀ kind, g.coming kind ≤ g'.coming kind) : e.Stands f g' := by
  refine stands.spared (.of_beside same coming) fun expected => ?_
  unfold Answered Waits
  rw [same.pending, same.exchanges, same.stage]
  refine (stands.caller expected).imp_right fun ⟨waits, held⟩ => ⟨waits, held.imp ?_ ?_⟩
  · exact fun carried => carried.trans_le carrying
  · exact fun ⟨recorded, told⟩ => ⟨recorded, told.trans_le (coming _)⟩

/-! Callers that are told -/

variable {left : Gateway}

theorem Stands.told (stands : e.Stands f g) (names : left.frame.names.Nodup) {m : Message}
    {p : ProtocolName} {l : ReplyTo} {hops : Nat} (suits : e.Suits m)
    (lacks : g.Lacks (.forward ⟨.output, .manager, f.keys.answering m p l hops⟩) left) :
    e.Stands f (l.foldl (fun g r => g.answerProtocol m r.1 r.2) left.countForwarded) := by
  have stirs := Gateway.stirs_answerAll (g := left.countForwarded) m l
  have traffic := left.countForwarded.traffic_answerAll m l
  have spares := Spares.of_told names lacks (fun _ => rfl) m l
  generalize l.foldl (fun g r => g.answerProtocol m r.1 r.2) left.countForwarded = h
    at stirs traffic spares ⊢
  let t := left.countForwarded.traffic
  have pending : h.pendingOf = ((receipts l).foldl (·.resolve m) t).pending := congrArg Traffic.pending traffic
  have exchanges : h.exchanges = ((receipts l).foldl (·.resolve m) t).exchanges :=
    congrArg Traffic.exchanges traffic
  have before : t.pending = g.pendingOf ∧ t.exchanges = g.exchanges :=
    ⟨(traffic_left lacks).1, (traffic_left lacks).2.1⟩
  -- The envelope carries whom it lists, and whatever else carried the caller still does.
  have carried : g.carrying e.protocol e.sequence ≤
      h.carrying e.protocol e.sequence + listed l e.protocol e.sequence := by
    have gone : left.carrying e.protocol e.sequence + listed l e.protocol e.sequence =
        g.carrying e.protocol e.sequence := lacks.burden _ _
    have kept : left.carrying e.protocol e.sequence ≤ h.carrying e.protocol e.sequence :=
      stirs.more names _ _
    omega
  refine stands.spared spares fun expected => ?_
  rcases stands.caller expected with ⟨x, resolved, fits⟩ | ⟨waits, held⟩
  · left
    refine ⟨x, ?_, fits⟩
    rw [exchanges]
    exact Traffic.resolved_resolveAll (before.2 ▸ resolved) m _
  · have caller := Traffic.caller_resolveAll (t := t) (before.2 ▸ waits.1) (before.1 ▸ waits.2)
      (before.1 ▸ stands.alone) m (receipts l)
    have count := count_receipts l e.protocol e.sequence
    by_cases here : (e.protocol, e.sequence) ∈ receipts l
    · left
      refine ⟨Gateway.resolutionOf m e.sequence, ?_, suits⟩
      rw [exchanges]
      exact caller.1 here
    · right
      obtain ⟨waiting, recorded⟩ := caller.2 here
      rw [List.count_eq_zero.mpr here] at count
      refine ⟨⟨?_, ?_⟩, held.imp (fun held => ?_) fun ⟨recorded, told⟩ => ⟨?_, ?_⟩⟩
      · rw [exchanges]
        exact waiting
      · rw [pending]
        exact recorded
      · omega
      · rw [spares.stage]
        exact recorded
      · exact told.trans_le (spares.coming _)

/-! Messages that are heard -/

structure Heard (ic : Interconnection) (m : Message) (key : String) (ic' : Interconnection)
    (result : StageResult) : Prop where
  /-- All go along that wait. -/
  load : ∀ p s, total (·.load p s) (Traffic.sent result).toList = ic.subscriptions.waits key p s
  observed : ∀ key', (∀ x, m = .error x → x.headers.operation = .observe → key ≠ key') →
    ic.subscriptions.Observed key' → ic'.subscriptions.Observed key'
  ttl : ic'.cache.ttl? = ic.cache.ttl?
  /-- What the cache holds is the message, or was there before and has not been thrown out. -/
  held : ∀ key' kept, ic'.cache.Holds key' kept →
    key' = key ∧ m = .reply kept ∧
        (kept.headers.operation = .read ∨ kept.headers.operation = .observe) ∨
      ic.cache.Holds key' kept ∧
        (key' = key → m.acknowledges = true → ¬ic.subscriptions.Recorded key)

theorem heard_onAnswer {k : Keyring} {ic ic' : Interconnection} {now : Instant} {m : Message}
    {p : ProtocolName} {key : String} {result : StageResult} (token : ic.token = k.interconnection)
    (keyed : ic.subscriptions.Keyed) (about : m.isAbout p key)
    (named : ∀ r, m = .reply r → ∀ d, r.headers.maxAge = some d → (now.after? d).isSome)
    (unnamed : ∀ d, ic.cache.ttl? = some d → (now.after? d).isSome)
    (crossing : ic.onAnswer now (k.heard m p) = (ic', result)) : Heard ic m key ic' result := by
  have read : Interconnection.readAnswer ic.token (k.heard m p) = .ok (m, key) := by
    rw [token]
    exact Interconnection.readAnswer_about k about
  have tells : Interconnection.Tells ic now m key (ic.onAnswer now (k.heard m p)).1
      (ic.onAnswer now (k.heard m p)).2 := Interconnection.onAnswer_tells read
  have clears (r : Reply) (reply : m = .reply r) (mutation : r.headers.operation.isMutation = true)
      (recorded : ic.subscriptions.Recorded key) (kept : Reply) :
      ¬(ic.onAnswer now (k.heard m p)).1.cache.Holds key kept :=
    Interconnection.onAnswer_recorded (reply ▸ read) mutation recorded kept
  obtain ⟨_, _, same, hears⟩ := Interconnection.onAnswer_hears token keyed now m p
  rw [crossing] at tells clears same
  cases same
  -- With every lifetime on the clock the answer is not broken off.
  have whole := tells.unbroken named unnamed
  refine ⟨fun q s => ?_, fun key' kept => ?_, tells.ttl, fun key' kept held => ?_⟩
  · cases hears with
    | unreadable cause lost => exact absurd about (lost key)
    | brokenOff => exact absurd rfl whole
    | unmatched key' subscriptions cause about' drained =>
      rw [Message.isAbout_unique about about', ← drained.listed]
      rfl
    | matched key' subscriptions cache l about' drained stored receivers =>
      rw [Message.isAbout_unique about about', ← drained.listed]
      exact Nat.add_zero _
  · exact Subscriptions.observed_of_count (tells.observers key' kept)
  · have stored : ic.cache.Holds key' kept ∨ key' = key ∧ m = .reply kept ∧
        (kept.headers.operation = .read ∨ kept.headers.operation = .observe) := by
      cases hears with
      | brokenOff => exact absurd rfl whole
      | unreadable | unmatched => exact Or.inl held
      | matched key'' subscriptions cache l about' drained stored receivers =>
        rw [Message.isAbout_unique about about']
        exact stored key' kept held
    refine stored.symm.imp_right fun before => ⟨before, ?_⟩
    rintro rfl acknowledges recorded
    obtain ⟨r, reply, mutation⟩ := Message.reply_of_acknowledges acknowledges
    exact clears r reply mutation recorded kept held

section Hearing

variable {m : Message} {ic : Interconnection} {result : StageResult}

theorem Heard.carrying (heard : Heard g.interconnection m e.key ic result)
    (passed : Passed g ⟨.manager, .interconnection, f.keys.wrap m e.sender⟩ ic result g') :
    g'.carrying e.protocol e.sequence = g.carrying e.protocol e.sequence +
      g.interconnection.subscriptions.waits e.key e.protocol e.sequence := by
  rw [← heard.load]
  exact passed.burden (Gateway.carried e.protocol e.sequence) fun _ => 0

theorem coming_passed {p : ProtocolName}
    (passed : Passed g ⟨.manager, .interconnection, f.keys.wrap m p⟩ ic result g')
    {kind : Message → Bool} (other : kind m = false) : g.coming kind ≤ g'.coming kind := by
  have sum := passed.burden (Task.brings kind) (Parcel.brings kind)
  have nothing : Task.brings kind (.forward ⟨.manager, .interconnection, f.keys.wrap m p⟩) = 0 := by
    change (if kind m then 1 else 0) = 0
    rw [other]
    rfl
  rw [nothing, Nat.add_zero] at sum
  exact (Nat.le_add_right _ _).trans sum.ge

/-- An old value that is still held has not met the acknowledgement, which is still to come. -/
theorem Clears.heard (clears : e.Clears g) (honest : e.Honest f) (said : e.tells m)
    (heard : Heard g.interconnection m e.key ic result)
    (passed : Passed g ⟨.manager, .interconnection, f.keys.wrap m e.sender⟩ ic result g')
    (spared : m.acknowledges = true → ¬g.interconnection.subscriptions.Recorded e.key) :
    e.Clears g' := by
  obtain ⟨acknowledged, ⟨m', said', acks⟩, recorded⟩ := clears
  cases kind : m.acknowledges with
  | true => exact absurd (recorded.elim (·.recorded) (·.1)) (spared kind)
  | false =>
    refine ⟨acknowledged.trans_le (coming_passed passed kind), ⟨m', said', acks⟩, Or.inl ?_⟩
    rw [passed.stage]
    rcases recorded with stood | ⟨_, all⟩
    · refine heard.observed e.key (fun x same _ => ?_) stood
      rw [honest.unchanged x (same ▸ said) m' said'] at acks
      cases acks
    · rw [all m said] at kind
      cases kind

/-- A message comes to the interconnection stage. It reaches whoever waits for the resource, and what
the cache holds afterwards is right or will be thrown out by one that is still to come. -/
theorem Stands.heard (stands : e.Stands f g) (honest : e.Honest f) (said : e.tells m)
    (heard : Heard g.interconnection m e.key ic result)
    (passed : Passed g ⟨.manager, .interconnection, f.keys.wrap m e.sender⟩ ic result g') :
    e.Stands f g' := by
  have carrying := heard.carrying passed
  constructor
  case caller =>
    intro expected
    unfold Answered Waits
    rw [passed.pending, passed.exchanges, carrying]
    refine (stands.caller expected).imp_right fun ⟨waits, held⟩ => ⟨waits, Or.inl ?_⟩
    rcases held with carried | ⟨recorded, _⟩ <;> omega
  case tickets =>
    rw [passed.pending, passed.exchanges]
    exact stands.tickets
  case alone =>
    rw [passed.pending]
    exact stands.alone
  case cached =>
    intro u reread kept held
    rw [passed.stage] at held
    rcases heard.held u.text kept held with ⟨here, same, stored⟩ | ⟨before, spared⟩
    · exact Or.inl (honest.truth kept (same ▸ said) stored u reread here)
    · rcases stands.cached u reread kept before with right | ⟨here, clears⟩
      · exact Or.inl right
      · exact Or.inr ⟨here, clears.heard honest said heard passed (spared here)⟩
  case heeded =>
    intro u reread observes
    rw [passed.stage]
    refine heard.observed u.text (fun x same refused here => ?_) (stands.heeded u reread observes)
    exact honest.unheeded x (same ▸ said) refused u reread here.symm observes
  case ttl =>
    rw [passed.stage, heard.ttl]
    exact stands.ttl

end Hearing

theorem Stands.pass (stands : e.Stands f g) (ready : f.Ready) (honest : e.Honest f) (goes : e.Goes f g)
    (passing : e.Passing f g g') : e.Stands f g' := by
  cases passing with
  | beside same carrying coming => exact stands.beside same carrying coming
  | tells m p l hops left suits lacks told =>
    rw [← told]
    exact stands.told ((goes.taken lacks).2.2.1 ▸ ready.names) suits lacks
  | hears m ic result said crossing passed =>
    have keys : g.keys = f.keys := congrArg Frame.keys goes.frame
    have now : g.instant = .ofMillis f.now := congrArg Instant.ofMillis (congrArg Frame.now goes.frame)
    have named (r : Reply) (same : m = .reply r) (d : Span) (age : r.headers.maxAge = some d) :
        (g.instant.after? d).isSome := by
      rw [now]
      exact honest.lasting r (same ▸ said) d age
    have unnamed (d : Span) (age : g.interconnection.cache.ttl? = some d) :
        (g.instant.after? d).isSome := by
      rw [now]
      exact honest.unnamed d (stands.ttl ▸ age)
    have heard := heard_onAnswer (goes.orderly.token.trans (congrArg Keyring.interconnection keys))
      goes.orderly.keyed (honest.about m said) named unnamed crossing
    exact stands.heard honest said heard passed

/-! Running -/

structure Runs (e : Errand) (f : Frame) (g : Gateway) : Prop extends Goes e f g where
  stands : e.Stands f g

/-- In the end the caller has its answer, and the cache holds nothing but what is right. -/
theorem Runs.rest (runs : e.Runs f g) (ready : f.Ready) (still : g.tasks = []) :
    (e.answer.isSome → e.Answered g) ∧
      ∀ u : ResourceUri, u.Reread → ∀ kept, g.interconnection.cache.Holds u.text kept →
        f.contentOf u = some kept.payload.data := by
  have carrying : g.carrying e.protocol e.sequence = 0 := runs.burden_at_rest ready still _ _
  have coming (kind : Message → Bool) : g.coming kind = 0 := runs.burden_at_rest ready still _ _
  constructor
  · intro expected
    rcases runs.stands.caller expected with answered | ⟨_, carried | ⟨_, told⟩⟩
    · exact answered
    · omega
    · rw [coming] at told
      cases told
  · intro u reread kept held
    rcases runs.stands.cached u reread kept held with right | ⟨_, acknowledged, _⟩
    · exact right
    · rw [coming] at acknowledged
      cases acknowledged

theorem Runs.settles {P : Gateway → Prop} (runs : e.Runs f g) (ready : f.Ready) (honest : e.Honest f)
    (rest : ∀ h, e.Runs f h → h.tasks = [] → P h) : g.Settles P :=
  runs.toGoes.settles ready honest.suits runs.stands
    (fun _ _ goes passing stands => stands.pass ready honest goes passing)
    fun h goes stands still => rest h ⟨goes, stands⟩ still

end Errand

end ProtocolGateway
