import Mathlib
import ProtocolGateway.Proofs.Routing.Observing
import ProtocolGateway.Proofs.Routing.Triples

/-!
What a failed OBSERVE leaves behind. The receivers of the failure stop to stand, and these are the
protocols that wait under the resource. Whoever stands there waits as well until an answer about the
resource takes the waiting ones out.
-/

namespace ProtocolGateway

def Message.FailsObserve (m : Message) : Prop :=
  ∃ x, m = .error x ∧ x.headers.operation = .observe

namespace Visit

structure Requests (v : Visit) (token : Token) (key : String) (r : Request) (p : ProtocolName) :
    Prop where
  source : v.source = .input
  read : Interconnection.readRequest token v.envelope = .ok (r, p)
  named : ∃ uri, ResourceUri.parse r.headers.path = .ok uri ∧ uri.text = key

structure Answers (v : Visit) (token : Token) (key : String) (m : Message) : Prop where
  source : v.source = .manager
  read : Interconnection.readAnswer token v.envelope = .ok (m, key)

/-- The changes a visit may make: requests add subscribers, answers take some out. -/
inductive Makes (v : Visit) (token : Token) : Change → Prop where
  | subscribe {uri : String} {r : Request} {p : ProtocolName} (asked : v.Requests token uri r p) :
      Makes v token (.subscribe uri p (.once r.sequence))
  | observe {uri : String} {r : Request} {p : ProtocolName} (asked : v.Requests token uri r p)
      (observes : r.headers.operation = .observe) : Makes v token (.observe uri p r.sequence)
  | unobserve {uri : String} {r : Request} {p : ProtocolName} (asked : v.Requests token uri r p) :
      Makes v token (.unobserve uri p r.sequence)
  | drain {uri : String} {m : Message} (answer : v.Answers token uri m) (includeStanding : Bool) :
      Makes v token (.drain uri includeStanding)
  | remove {uri : String} {m : Message} (answer : v.Answers token uri m) (p : ProtocolName) :
      Makes v token (.remove uri p .standing)

end Visit

namespace Subscriptions

def Stands (r : Subscriptions) (key : String) (p : ProtocolName) : Prop :=
  .standing ∈ (r.under key).of p

variable {r : Subscriptions}

theorem Tidy.observed_iff (tidy : r.Tidy) (key : String) : r.Observed key ↔ ∃ p, r.Stands key p := by
  unfold Stands
  simp only [Subscribers.mem_of_iff (tidy.under key).keyed]
  constructor
  · rintro ⟨e, member, stands⟩
    exact ⟨e.1, e, member, rfl, stands⟩
  · rintro ⟨_, e, member, rfl, stands⟩
    exact ⟨e, member, stands⟩

theorem Tidy.stands_iff (tidy : r.Tidy) (key : String) (p : ProtocolName) :
    r.Stands key p ↔ ⟨key, p, .standing⟩ ∈ r.roll := by
  rw [tidy.mem_roll]
  rfl

theorem Tidy.awaits_iff (tidy : r.Tidy) (key : String) (p : ProtocolName) (n : Sequence) :
    r.Awaits key p n ↔ ⟨key, p, .once n⟩ ∈ r.roll := by
  rw [tidy.mem_roll]
  rfl

theorem Tidy.observed_roll (tidy : r.Tidy) (key : String) :
    r.Observed key ↔ r.roll.standing key ≠ ∅ := by
  rw [Subscriptions.observed_iff, tidy.observers_roll, Finset.card_pos, Finset.nonempty_iff_ne_empty]

end Subscriptions

namespace Roll

variable {S : Roll} {key : String} {c : Change}

/-- Whoever stands under a name also waits there. -/
def Paired (S : Roll) (key : String) : Prop :=
  ∀ p, ⟨key, p, .standing⟩ ∈ S → ∃ n, ⟨key, p, .once n⟩ ∈ S

/-- Only answers about the name part those who stand from those who wait. -/
theorem Paired.perform {v : Visit} {token : Token} (paired : S.Paired key) (made : v.Makes token c)
    (unanswered : ∀ m, ¬v.Answers token key m) : (S.perform c).Paired key := by
  intro q stands
  cases made with
  | subscribe =>
    obtain ⟨n, waits⟩ := paired q (by simpa [Roll.perform] using stands)
    exact ⟨n, Finset.mem_insert_of_mem waits⟩
  | @observe uri r p =>
    simp only [Roll.perform, Finset.mem_insert, Subscription.mk.injEq, reduceCtorEq, and_false, false_or,
      and_true] at stands
    rcases stands with ⟨rfl, rfl⟩ | stood
    · exact ⟨r.sequence, Finset.mem_insert_self _ _⟩
    · obtain ⟨n, waits⟩ := paired q stood
      exact ⟨n, Finset.mem_insert_of_mem (Finset.mem_insert_of_mem waits)⟩
  | unobserve =>
    dsimp only [Roll.perform] at stands ⊢
    have stood : ⟨key, q, .standing⟩ ∈ S := by
      split at stands
      · exact Finset.mem_of_mem_erase ((Finset.mem_insert.mp stands).resolve_left (by simp))
      · exact Finset.mem_of_mem_erase stands
    obtain ⟨n, waits⟩ := paired q stood
    refine ⟨n, ?_⟩
    split <;> simp [waits]
  | drain answer =>
    -- Drains are made by answers, so this one is under another name.
    obtain ⟨stood, _⟩ := Finset.mem_filter.mp stands
    obtain ⟨n, waits⟩ := paired q stood
    refine ⟨n, Finset.mem_filter.mpr ⟨waits, ?_⟩⟩
    rintro rfl
    exact (unanswered _ answer).elim
  | remove answer =>
    obtain ⟨n, waits⟩ := paired q (Finset.mem_of_mem_erase stands)
    exact ⟨n, Finset.mem_erase.mpr ⟨by simp, waits⟩⟩

theorem standing_perform {v : Visit} {token : Token} (nobody : S.standing key = ∅)
    (made : v.Makes token c)
    (unasked : ∀ r p, v.Requests token key r p → r.headers.operation ≠ .observe) :
    (S.perform c).standing key = ∅ := by
  have none (q : ProtocolName) : ⟨key, q, .standing⟩ ∉ S := by
    rw [← mem_standing, nobody]
    exact Finset.notMem_empty q
  refine Finset.eq_empty_of_forall_notMem fun q => ?_
  rw [mem_standing]
  cases made with
  | subscribe => simp [Roll.perform, none]
  | observe asked observes =>
    intro stands
    simp only [Roll.perform, Finset.mem_insert, Subscription.mk.injEq, reduceCtorEq, and_false, false_or,
      and_true, none, or_false] at stands
    obtain ⟨rfl, _⟩ := stands
    exact unasked _ _ asked observes
  | unobserve =>
    dsimp only [Roll.perform]
    split <;> simp [none]
  | drain | remove => simp [Roll.perform, none]

end Roll

namespace Interconnection

open Subscriptions

variable {ic : Interconnection} {now : Instant} {e : Envelope} {key : String}

/-! What a visit changes -/

theorem subscriptions_resolved (ic : Interconnection) (now : Instant) (e : Envelope) (r : Request)
    (p : ProtocolName) (uri : ResourceUri) {token : Token} {v : Visit}
    (asked : v.Requests token uri.text r p) :
    ∃ changes, (∀ c ∈ changes, v.Makes token c) ∧
      (ic.resolved now e r p uri).1.subscriptions = ic.subscriptions.performAll changes := by
  have one {c : Change} (made : v.Makes token c) : ∀ d ∈ [c], v.Makes token d := by
    intro d member
    rw [List.mem_singleton.mp member]
    exact made
  unfold resolved
  dsimp only
  cases operation : r.headers.operation with
  | read =>
    dsimp only
    split
    · exact ⟨[], by simp, rfl⟩
    · exact ⟨_, one (.subscribe asked), rfl⟩
  | observe => exact ⟨_, one (.observe asked operation), rfl⟩
  | unobserve => exact ⟨_, one (.unobserve asked), rfl⟩
  | create | update | delete => exact ⟨_, one (.subscribe asked), rfl⟩

theorem removeStanding_eq (key : String) (ps : List ProtocolName) (r : Subscriptions) :
    removeStanding key ps r = r.performAll (ps.map fun p => .remove key p .standing) := by
  induction ps generalizing r with
  | nil => rfl
  | cons p rest ih => exact ih _

theorem subscriptions_onAnswer (now : Instant) {m : Message}
    (read : readAnswer ic.token e = .ok (m, key)) :
    ∃ ps, (ic.onAnswer now e).1.subscriptions =
        removeStanding key ps (ic.subscriptions.drain key (m.kind == .reply)).2 ∧
      (m.FailsObserve → ps = ((ic.subscriptions.drain key false).1.getD []).map (·.1)) ∧
      (¬m.FailsObserve → ps = []) := by
  have error (failure : m.FailsObserve) : (m.kind == .reply) = false := by
    obtain ⟨x, rfl, _⟩ := failure
    rfl
  have plain : (¬m.FailsObserve → ([] : List ProtocolName) = []) := fun _ => rfl
  obtain ⟨ic', r, crossing, released⟩ := onAnswer_released now read
  rw [crossing]
  -- What is drained for an error are those who wait, and with nobody drained nothing else is done.
  cases released with
  | unlisted listed subscriptions drained nobody =>
    refine ⟨[], by rw [drained]; rfl, fun failure => ?_, plain⟩
    rw [← error failure, drained]
    rcases nobody with rfl | rfl <;> rfl
  | brokenOff l subscriptions drained present r reply broken =>
    refine ⟨[], by rw [drained]; rfl, fun failure => ?_, plain⟩
    obtain ⟨x, same, _⟩ := failure
    cases reply.symm.trans same
  | settled l subscriptions drained present ic' settled =>
    cases settled with
    | stored r completed =>
      exact ⟨[], by rw [drained]; rfl, fun ⟨x, same, _⟩ => (nomatch same), plain⟩
    | failed x observe =>
      refine ⟨l.map (·.1), by rw [drained], fun failure => ?_, fun other => ?_⟩
      · rw [← error failure, drained]
        rfl
      · exact absurd ⟨x, rfl, observe⟩ other
    | still m _ other =>
      exact ⟨[], by rw [drained]; rfl, fun ⟨x, same, observe⟩ => absurd observe (other x same), plain⟩

theorem subscriptions_receive (ic : Interconnection) (v : Visit) :
    ∃ changes, (∀ c ∈ changes, v.Makes ic.token c) ∧
      (ic.receive v.now v.source v.envelope).1.subscriptions = ic.subscriptions.performAll changes := by
  have still : ∃ changes, (∀ c ∈ changes, v.Makes ic.token c) ∧
      ic.subscriptions = ic.subscriptions.performAll changes := ⟨[], by simp, rfl⟩
  unfold receive
  -- Whatever comes from the other two stages changes nothing.
  cases source : v.source with
  | input =>
    dsimp only
    unfold onRequest
    cases read : readRequest ic.token v.envelope with
    | error => exact still
    | ok asked =>
      obtain ⟨r, p⟩ := asked
      dsimp only
      cases named : ResourceUri.parse r.headers.path with
      | error => exact still
      | ok uri => exact ic.subscriptions_resolved v.now v.envelope r p uri ⟨source, read, uri, named, rfl⟩
  | manager =>
    dsimp only
    cases read : readAnswer ic.token v.envelope with
    | error =>
      unfold onAnswer
      rw [read]
      exact still
    | ok answer =>
      obtain ⟨m, key⟩ := answer
      obtain ⟨ps, same, _, _⟩ := subscriptions_onAnswer v.now read
      rw [same, removeStanding_eq]
      refine ⟨.drain key (m.kind == .reply) :: ps.map fun p => .remove key p .standing, ?_, rfl⟩
      intro c member
      rcases List.mem_cons.mp member with rfl | member
      · exact .drain ⟨source, read⟩ _
      · obtain ⟨p, _, rfl⟩ := List.mem_map.mp member
        exact .remove ⟨source, read⟩ p
  | interconnection | output => exact still

/-! Envelope after envelope -/

theorem after_append (ic : Interconnection) (visits more : List Visit) :
    ic.after (visits ++ more) = (ic.after visits).after more := List.foldl_append

/-- What every change keeps that one of the visits may make, the visits keep. -/
theorem shows_after {token : Token} {S : Roll} {visits : List Visit} (kept : Roll → Prop)
    (own : ic.token = token) (shown : ic.subscriptions.Shows S) (holds : kept S)
    (keeps : ∀ v ∈ visits, ∀ c S, v.Makes token c → kept S → kept (S.perform c)) :
    ∃ S, (ic.after visits).subscriptions.Shows S ∧ kept S := by
  induction visits generalizing ic S with
  | nil => exact ⟨S, shown, holds⟩
  | cons v rest ih =>
    -- One visit makes several changes, and each of them keeps the property.
    obtain ⟨changes, made, same⟩ := ic.subscriptions_receive v
    have all (changes : List Change) (made : ∀ c ∈ changes, v.Makes ic.token c) (S : Roll) (holds : kept S) :
        kept (S.performAll changes) := by
      induction changes generalizing S with
      | nil => exact holds
      | cons c rest ih =>
        have first := keeps v List.mem_cons_self c S (own ▸ made c List.mem_cons_self) holds
        exact ih (fun d member => made d (List.mem_cons_of_mem c member)) _ first
    exact ih ((ic.token_receive v.now v.source v.envelope).trans own) (same ▸ shown.performAll changes)
      (all changes made S holds) fun w member => keeps w (List.mem_cons_of_mem v member)

theorem tidy_after (token : Token) (cache : ReplyCache) (visits : List Visit) :
    ((Interconnection.new token cache).after visits).subscriptions.Tidy := by
  have start : (Interconnection.new token cache).subscriptions.Shows ∅ := shows_empty
  obtain ⟨_, shown, _⟩ := shows_after (fun _ => True) rfl start trivial fun v _ _ _ _ _ => trivial
  exact shown.tidy

theorem unobserved_of_sent {v : Visit} {r : Request} {p : ProtocolName}
    (asked : v.Requests ic.token key r p) (observe : r.headers.operation = .observe)
    (sent : forwarded (ic.receive v.now v.source v.envelope).2 = some .observe) :
    ¬ic.subscriptions.Observed key := by
  obtain ⟨uri, named, rfl⟩ := asked.named
  intro observed
  have already := (ic.subscriptions.observe_already uri.text p r.sequence).mpr
    (Subscriptions.observed_iff.mp observed)
  rw [asked.source] at sent
  change forwarded (ic.onRequest v.now v.envelope).2 = _ at sent
  unfold onRequest at sent
  simp only [asked.read, named, resolved, observe, already] at sent
  cases sent

theorem paired_after {visits : List Visit} (tidy : ic.subscriptions.Tidy)
    (nobody : ¬ic.subscriptions.Observed key)
    (unanswered : ∀ u ∈ visits, ∀ m, ¬u.Answers ic.token key m) {q : ProtocolName}
    (stands : (ic.after visits).subscriptions.Stands key q) :
    ∃ n, (ic.after visits).subscriptions.Awaits key q n := by
  have start : ic.subscriptions.roll.Paired key := by
    intro p stood
    exact absurd ((tidy.observed_iff key).mpr ⟨p, (tidy.stands_iff key p).mpr stood⟩) nobody
  obtain ⟨S, ⟨tidy', rfl⟩, paired⟩ := shows_after (fun S => S.Paired key) rfl ⟨tidy, rfl⟩ start
    fun u member _ _ made paired => paired.perform made (unanswered u member)
  obtain ⟨n, waits⟩ := paired q ((tidy'.stands_iff key q).mp stands)
  exact ⟨n, (tidy'.awaits_iff key q n).mpr waits⟩

theorem unobserved_after {visits : List Visit} (tidy : ic.subscriptions.Tidy)
    (nobody : ¬ic.subscriptions.Observed key)
    (unasked : ∀ u ∈ visits, ∀ r p, u.Requests ic.token key r p → r.headers.operation ≠ .observe) :
    ¬(ic.after visits).subscriptions.Observed key := by
  have start : ic.subscriptions.roll.standing key = ∅ := by
    by_contra some
    exact nobody ((tidy.observed_roll key).mpr some)
  obtain ⟨S, ⟨tidy', rfl⟩, none⟩ := shows_after (fun S => S.standing key = ∅) rfl ⟨tidy, rfl⟩ start
    fun u member _ _ made none => Roll.standing_perform none made (unasked u member)
  rw [tidy'.observed_roll]
  exact fun some => some none

/-! The failure -/

theorem mem_removeStanding {r : Subscriptions} (tidy : r.Tidy) (key : String) (ps : List ProtocolName) :
    (removeStanding key ps r).Tidy ∧ ∀ t, t ∈ (removeStanding key ps r).roll ↔
      t ∈ r.roll ∧ ¬(t.uri = key ∧ t.subscriber = .standing ∧ t.protocol ∈ ps) := by
  induction ps generalizing r with
  | nil => exact ⟨tidy, by simp [removeStanding]⟩
  | cons p rest ih =>
    have less := tidy.roll_remove key p .standing
    obtain ⟨left, others⟩ := ih (tidy.store ((tidy.under key).remove p .standing) key)
    refine ⟨left, fun t => ?_⟩
    change t ∈ (removeStanding key rest (r.store key ((r.under key).remove p .standing))).roll ↔ _
    rw [others, less, Finset.mem_erase]
    obtain ⟨uri, q, s⟩ := t
    simp only [ne_eq, Subscription.mk.injEq, List.mem_cons]
    tauto

theorem mem_receivers {r : Subscriptions} (tidy : r.Tidy) {q : ProtocolName} :
    q ∈ ((r.drain key false).1.getD []).map (·.1) ↔ ∃ n, ⟨key, q, .once n⟩ ∈ r.roll := by
  cases given : (r.drain key false).1 with
  | none =>
    have nobody := (tidy.drain_none key false).mp given
    simp only [Option.getD_none, List.map_nil, List.not_mem_nil, false_iff, not_exists]
    exact fun n waits => nobody _ waits rfl
  | some l =>
    have fits := tidy.drain_fits false given
    rw [Option.getD_some, List.mem_map]
    constructor
    · rintro ⟨e, member, rfl⟩
      obtain ⟨s, some⟩ := List.exists_mem_of_ne_nil e.2 (fits.filled e member)
      obtain ⟨there, allowed⟩ := (fits.listed e.1 s).mp ⟨e, member, rfl, some⟩
      cases s with
      | standing => cases allowed rfl
      | once n => exact ⟨n, there⟩
    · rintro ⟨n, waits⟩
      obtain ⟨e, member, mine, _⟩ := (fits.listed q (.once n)).mpr ⟨waits, nofun⟩
      exact ⟨e, member, mine⟩

/-- After an answer nobody waits, and those stand who stood; after a failed OBSERVE only those of them
who did not wait. -/
theorem receive_answers (tidy : ic.subscriptions.Tidy) {token : Token} (own : ic.token = token)
    {m : Message} {w : Visit} (answer : w.Answers token key m) :
    let ic' := (ic.receive w.now w.source w.envelope).1
    ic'.subscriptions.Tidy ∧ ∀ q, (∀ n, ¬ic'.subscriptions.Awaits key q n) ∧
      (ic'.subscriptions.Stands key q ↔
        ic.subscriptions.Stands key q ∧ (m.FailsObserve → ∀ n, ¬ic.subscriptions.Awaits key q n)) := by
  obtain ⟨ps, same, failed, plain⟩ := subscriptions_onAnswer w.now (own ▸ answer.read)
  obtain ⟨left, others⟩ := mem_removeStanding (tidy.drain key (m.kind == .reply)) key ps
  rw [answer.source]
  change (ic.onAnswer w.now w.envelope).1.subscriptions.Tidy ∧ ∀ q,
    (∀ n, ¬(ic.onAnswer w.now w.envelope).1.subscriptions.Awaits key q n) ∧
      ((ic.onAnswer w.now w.envelope).1.subscriptions.Stands key q ↔ _)
  rw [same]
  refine ⟨left, fun q => ⟨fun n => ?_, ?_⟩⟩
  · simp [left.awaits_iff, others, tidy.roll_drain]
  · have mine : q ∈ ps ↔ m.FailsObserve ∧ ∃ n, ⟨key, q, .once n⟩ ∈ ic.subscriptions.roll := by
      by_cases failure : m.FailsObserve
      · rw [failed failure, mem_receivers tidy]
        simp [failure]
      · simp [plain failure, failure]
    simp only [left.stands_iff, others, tidy.roll_drain, Finset.mem_filter, tidy.stands_iff,
      tidy.awaits_iff, mine]
    simp

/-- A failed OBSERVE that comes after another answer finds nobody who waits, and all who stood stay. -/
theorem observed_overtaken (tidy : ic.subscriptions.Tidy) {token : Token} (own : ic.token = token)
    {m m' : Message} {v w : Visit} {q : ProtocolName} (stands : ic.subscriptions.Stands key q)
    (first : v.Answers token key m) (plain : ¬m.FailsObserve) (second : w.Answers token key m') :
    (ic.after [v, w]).subscriptions.Observed key := by
  obtain ⟨tidy', told⟩ := receive_answers tidy own first
  obtain ⟨alone, stood⟩ := told q
  obtain ⟨tidy'', left⟩ := receive_answers tidy' ((ic.token_receive v.now v.source v.envelope).trans own)
    second
  refine (tidy''.observed_iff key).mpr ⟨q, (left q).2.mpr ⟨stood.mpr ⟨stands, ?_⟩, fun _ => alone⟩⟩
  exact fun fails => absurd fails plain

end Interconnection

open Interconnection in
/-- When an error answers an OBSERVE that went on to the target, those stand afterwards who stood before
and did not wait any more. When no answer about the resource came since the OBSERVE, these are none; and
when nobody stands, the next OBSERVE goes on to the target again. -/
theorem failed_observe_leaves_nobody (token : Token) (cache : ReplyCache) (key : String)
    (before between : List Visit) (v w : Visit) (r : Request) (p : ProtocolName) (x : ErrorReply)
    (asked : v.Requests token key r p) (observe : r.headers.operation = .observe)
    (sent : forwarded (((Interconnection.new token cache).after before).receive v.now v.source
      v.envelope).2 = some .observe)
    (answer : w.Answers token key (.error x)) (failed : x.headers.operation = .observe) :
    let ic := (Interconnection.new token cache).after (before ++ v :: between)
    let ic' := (ic.receive w.now w.source w.envelope).1
    (∀ q, ic'.subscriptions.Stands key q ↔
      ic.subscriptions.Stands key q ∧ ∀ n, ¬ic.subscriptions.Awaits key q n) ∧
    ((∀ u ∈ between, ∀ m, ¬u.Answers token key m) → ¬ic'.subscriptions.Observed key) ∧
    (¬ic'.subscriptions.Observed key → ∀ (later : List Visit) (next : Visit) (r' : Request)
      (q : ProtocolName),
      (∀ u ∈ later, ∀ r p, u.Requests token key r p → r.headers.operation ≠ .observe) →
      next.Asks token key r' q → r'.headers.operation = .observe →
      forwarded ((ic'.after later).receive next.now next.source next.envelope).2 = some .observe) := by
  intro ic ic'
  have own : ic.token = token := token_after _ _
  have own' : ic'.token = token := (ic.token_receive w.now w.source w.envelope).trans own
  have first : ((Interconnection.new token cache).after before).token = token := token_after _ _
  obtain ⟨tidy', answered⟩ := receive_answers (tidy_after token cache _) own answer
  have stands (q : ProtocolName) : ic'.subscriptions.Stands key q ↔
      ic.subscriptions.Stands key q ∧ ∀ n, ¬ic.subscriptions.Awaits key q n :=
    (answered q).2.trans (and_congr_right fun _ => ⟨fun apart => apart ⟨x, rfl, failed⟩, fun apart _ => apart⟩)
  refine ⟨stands, fun unanswered observed => ?_, fun nobody later next r' q unasked asks again => ?_⟩
  · -- nobody stood before the OBSERVE, so whoever stands has asked since then and waits
    have nobody := unobserved_of_sent (first ▸ asked) observe sent
    obtain ⟨q, stood⟩ := (tidy'.observed_iff key).mp observed
    obtain ⟨stood, alone⟩ := (stands q).mp stood
    have since : ic = ((Interconnection.new token cache).after before).after (v :: between) :=
      after_append _ before (v :: between)
    rw [since] at stood alone
    obtain ⟨n, waits⟩ := paired_after (tidy_after token cache before) nobody (fun u member m answers => by
      rw [first] at answers
      rcases List.mem_cons.mp member with rfl | member
      · cases asked.source.symm.trans answers.source
      · exact unanswered u member m answers) stood
    exact alone n waits
  · have still := unobserved_after tidy' nobody (own' ▸ unasked)
    have own'' : (ic'.after later).token = token := (token_after _ _).trans own'
    exact (receive_observe own'' asks again).2.2.2 still

namespace Visit

def refusing (s : Sequence) : Visit :=
  ⟨⟨0⟩, .manager, (Keyring.minted 0).wrap
    (.error (.forRequest (({ Request.new .observe "/coap/dev/temp" with sequence := s }).rerouted
      "dev" "/temp") .pathNotFound)) (.of "coap")⟩

theorem requests_asking (o : Operation) {s : Sequence} (p : String) (sequenced : s ≠ 0) :
    (asking o s p).Requests (Keyring.minted 0).interconnection "coap://dev/temp"
      { Request.new o "/coap/dev/temp" with sequence := s } (.of p) where
  source := rfl
  read := Interconnection.readRequest_open (fun field => by cases field <;> rfl) rfl
    (by simpa [Request.isSequenced] using sequenced) rfl
  named := ⟨⟨"coap", "dev", "/temp", []⟩,
    (by decide +kernel : ResourceUri.parse "/coap/dev/temp" = _), by decide +kernel⟩

theorem answers_open {v : Visit} {token : Token} {m : Message} {p : ProtocolName} {uri : ResourceUri}
    (source : v.source = .manager) (opened : v.envelope.IsOpen token) (content : v.envelope.content = m)
    (answers : m.isReplyLike = true) (sender : v.envelope.sourceProtocol = some p)
    (named : ResourceUri.ofParts p.text m.headers.target m.headers.path = .ok uri) :
    v.Answers token uri.text m :=
  ⟨source, Interconnection.readAnswer_open opened content answers sender named⟩

theorem sensor_text : ResourceUri.text ⟨"coap", "dev", "/temp", []⟩ = "coap://dev/temp" := by
  decide +kernel

theorem answers_telling (content : Octets) :
    (telling content).Answers (Keyring.minted 0).interconnection "coap://dev/temp"
      (.reply (.notification .observe "dev" "/temp" { payload := content })) := by
  rw [← sensor_text]
  exact answers_open rfl (fun field => by cases field <;> rfl) rfl rfl rfl
    (by decide +kernel : ResourceUri.ofParts "coap" "dev" "/temp" = _)

theorem answers_refusing (s : Sequence) :
    (refusing s).Answers (Keyring.minted 0).interconnection "coap://dev/temp"
      (.error (.forRequest (({ Request.new .observe "/coap/dev/temp" with sequence := s }).rerouted
        "dev" "/temp") .pathNotFound)) := by
  rw [← sensor_text]
  exact answers_open rfl (fun field => by cases field <;> rfl) rfl rfl rfl
    (by decide +kernel : ResourceUri.ofParts "coap" "dev" "/temp" = _)

end Visit

theorem refusal_ends_observation :
    let ic := (Interconnection.new (Keyring.minted 0).interconnection .off).after
      [.asking .observe 1 "app", .asking .observe 2 "web"]
    let ic' := (ic.receive ⟨0⟩ .manager (Visit.refusing 1).envelope).1
    ic.subscriptions.observerCount "coap://dev/temp" = 2 ∧
      ¬ic'.subscriptions.Observed "coap://dev/temp" ∧
      forwarded (ic'.receive ⟨0⟩ .input (Visit.asking .observe 3 "app").envelope).2 =
        some .observe := by
  intro ic ic'
  have joined : (Visit.asking .observe 2 "web").source ≠ .manager := by decide
  obtain ⟨_, ended, again⟩ := failed_observe_leaves_nobody (Keyring.minted 0).interconnection .off
    "coap://dev/temp" [] [.asking .observe 2 "web"] (.asking .observe 1 "app") (.refusing 1) _ _ _
    (Visit.requests_asking .observe "app" (by decide)) rfl (by decide +kernel)
    (Visit.answers_refusing 1) rfl
  have nobody := ended fun u member m answers => by
    rw [List.mem_singleton.mp member] at answers
    exact joined answers.source
  exact ⟨by decide +kernel, nobody, again nobody [] (.asking .observe 3 "app") _ _
    (fun u member => nomatch member) (Visit.asks_asking "app" (by decide) (Or.inl rfl)) rfl⟩

/-- The caller of an OBSERVE is answered by a notification that comes first. The refusal then finds
nobody who waits, and the observer stays. -/
theorem overtaken_refusal_leaves_observer :
    ¬∀ (before between : List Visit) (v w : Visit) (key : String) (r : Request) (p : ProtocolName)
      (x : ErrorReply),
      let token := (Keyring.minted 0).interconnection
      let ic := Interconnection.new token .off
      (∀ u ∈ before ++ v :: between ++ [w], ∀ r p, u.Requests token key r p →
        r.headers.operation ≠ .unobserve) →
      v.Requests token key r p → r.headers.operation = .observe →
      forwarded ((ic.after before).receive v.now v.source v.envelope).2 = some .observe →
      w.Answers token key (.error x) → x.headers.operation = .observe →
      ¬(ic.after (before ++ v :: between ++ [w])).subscriptions.Observed key := by
  intro all
  have asked := Visit.requests_asking .observe (s := 1) "app" (by decide)
  have stands : ((Interconnection.new (Keyring.minted 0).interconnection .off).after
      [.asking .observe 1 "app"]).subscriptions.Stands "coap://dev/temp" (.of "app") := by
    unfold Subscriptions.Stands
    decide +kernel
  -- The notification is heard between the OBSERVE and the refusal, and no UNOBSERVE is made.
  have told := Visit.answers_telling [50]
  have refused := Visit.answers_refusing 1
  have plain : ¬Message.FailsObserve (.reply (.notification .observe "dev" "/temp" { payload := [50] })) :=
    fun ⟨_, same, _⟩ => nomatch same
  have observed := Interconnection.observed_overtaken (Interconnection.tidy_after _ .off _)
    (Interconnection.token_after _ _) stands told plain refused
  have sent : forwarded (((Interconnection.new (Keyring.minted 0).interconnection .off).after []).receive
      ⟨0⟩ .input (Visit.asking .observe 1 "app").envelope).2 = some .observe := by decide +kernel
  rw [← Interconnection.after_append] at observed
  refine all [] [.telling [50]] (.asking .observe 1 "app") (.refusing 1) "coap://dev/temp" _ _ _
    (fun u member r p ends => ?_) asked rfl sent refused rfl observed
  simp only [List.nil_append, List.cons_append, List.mem_cons, List.not_mem_nil, or_false] at member
  rcases member with rfl | rfl | rfl
  · cases asked.read.symm.trans ends.read
    decide
  · cases ends.source
  · cases ends.source

end ProtocolGateway
