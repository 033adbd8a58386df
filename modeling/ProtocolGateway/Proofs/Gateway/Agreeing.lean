import Mathlib
import ProtocolGateway.Proofs.Gateway.Serving
import ProtocolGateway.Proofs.Gateway.Watching

/-!
The gateway and its targets keep apart what is observed, and agree on it from request to request. What
parts them is a DELETE: a target forgets who observes what it deletes, and the gateway does not.
-/

namespace ProtocolGateway

open Gateway (Frame)

/-- Who stands under other names stays, and so does who stands under the name unless the request is one
to observe it or the last to stop observing it. -/
theorem Interconnection.Asks.observed {k : Keyring} {ic ic' : Interconnection} {r : Request}
    {p : ProtocolName} {uri : ResourceUri} {out : Option Hop} (asks : Asks k ic r p uri ic' out)
    {key : String} (kept : uri.text = key → r.headers.operation ≠ .observe ∧
      (r.headers.operation = .unobserve → out ≠ some (k.onward r p uri))) :
    ic'.subscriptions.Observed key ↔ ic.subscriptions.Observed key := by
  constructor
  · intro observed
    rcases asks.only key observed with before | ⟨here, observe⟩
    · exact before
    · exact absurd observe (kept here).1
  · exact fun before => asks.observers key before fun ends on here => (kept here).2 ends on

theorem Operation.watched_absent (o : Operation) : o.watched false false = false := by
  cases o <;> rfl

def Call.Deletes (c : Call) (u : ResourceUri) : Prop :=
  c.request.headers.operation = .delete ∧ ResourceUri.parse c.request.headers.path = .ok u

/-- What a call does to the resources that have observers: an OBSERVE brings one to its resource if it
is there, an UNOBSERVE may take the last one from its resource, and all else stays. -/
structure Call.Shifts (c : Call) (there before after : ResourceUri → Prop) : Prop where
  stays : ∀ u : ResourceUri, u.Reread →
    (c.request.headers.operation = .unobserve → ResourceUri.parse c.request.headers.path ≠ .ok u) →
    (after u ↔ before u ∨ c.request.headers.operation = .observe ∧
      ResourceUri.parse c.request.headers.path = .ok u ∧ there u)
  leaves : c.request.headers.operation = .unobserve → ∀ u : ResourceUri, u.Reread → after u → before u

namespace Gateway

variable {g b : Gateway} {f : Frame} {e : Errand} {t : Task} {forsaken : ResourceUri → Prop}
  {refused : Prop}

def Counts (g : Gateway) (u : ResourceUri) : Prop :=
  0 < g.interconnection.subscriptions.observerCount u.text

/-- A target observes what has observers in the gateway and is not forsaken, and nothing else. -/
def Agrees (forsaken : ResourceUri → Prop) (g : Gateway) : Prop :=
  ∀ u : ResourceUri, u.Reread → (g.frame.Observes u ↔ g.Counts u ∧ ¬forsaken u)

/-- The resources that have been deleted since their observers came: those that were before the call,
and the one that the call deletes, as long as the gateway counts an observer. -/
def Forsakes (forsaken : ResourceUri → Prop) (c : Call) (g : Gateway) (u : ResourceUri) : Prop :=
  (forsaken u ∨ c.Deletes u) ∧ g.Counts u

/-- One request after the other is accepted, and gateway and targets agree on what is observed whenever
the gateway is at rest again, in whatever order things happen until then. -/
def Concurs (forsaken : ResourceUri → Prop) : List Call → Gateway → Prop
  | [], g => g.Agrees forsaken
  | c :: rest, g =>
    g.Agrees forsaken ∧ ∃ g' s t, g.submit c.origin c.request = (g', .ok (s, t)) ∧
      g'.Settles fun h =>
        c.Shifts (fun u => (g.frame.contentOf u).isSome) g.Counts h.Counts ∧
          Concurs (h.Forsakes forsaken c) rest (h.pass c.pause)

/-- Nothing is under way in the gateway, and its plugins and subscriptions are in order. -/
structure Poised (g : Gateway) : Prop where
  calm : g.Calm
  staffed : g.frame.Staffed
  tickets : ∀ p s t, Table.at? (g.pendingOf p) s = some t → t < g.exchanges.length
  tidy : g.interconnection.subscriptions.Tidy

structure Attentive (forsaken : ResourceUri → Prop) (g : Gateway) : Prop extends Poised g where
  agrees : g.Agrees forsaken
  stayed : ∀ u, forsaken u → g.interconnection.subscriptions.Observed u.text

structure Ended (observed : String → Prop) (f : Frame) (g : Gateway) : Prop extends Poised g where
  orderly : g.traffic.Orderly
  frame : g.frame = f
  stands : ∀ key, g.interconnection.subscriptions.Observed key ↔ observed key

structure Reconciled (forsaken : ResourceUri → Prop) (c : Call) (g : Gateway) (f : Frame) (h : Gateway) :
    Prop where
  orderly : h.traffic.Orderly
  attentive : h.Attentive (h.Forsakes forsaken c)
  shifts : c.Shifts (fun u => (g.frame.contentOf u).isSome) g.Counts h.Counts
  frame : h.frame = f

/-! From rest to rest -/

theorem counts_iff {u : ResourceUri} : g.Counts u ↔ g.interconnection.subscriptions.Observed u.text :=
  Subscriptions.observed_iff.symm

theorem Ended.reconciled {observed : String → Prop} {h : Gateway} (ended : h.Ended observed f) {c : Call}
    (agrees : ∀ u : ResourceUri, u.Reread →
      (f.Observes u ↔ observed u.text ∧ ¬(forsaken u ∨ c.Deletes u)))
    (shifts : c.Shifts (fun u => (g.frame.contentOf u).isSome) g.Counts fun u => observed u.text) :
    Reconciled forsaken c g f h := by
  have counts (u : ResourceUri) : h.Counts u ↔ observed u.text := counts_iff.trans (ended.stands u.text)
  refine ⟨ended.orderly, ⟨ended.toPoised, fun u reread => ?_, fun u gone => counts_iff.mp gone.2⟩, ?_,
    ended.frame⟩
  · rw [ended.frame, agrees u reread, ← counts u]
    exact and_congr_right fun observed => not_congr ⟨fun gone => ⟨gone, observed⟩, And.left⟩
  · rw [show h.Counts = fun u => observed u.text from funext fun u => propext (counts u)]
    exact shifts

theorem Poised.ended (poised : g.Poised) (orderly : g.traffic.Orderly) :
    Ended g.interconnection.subscriptions.Observed g.frame g :=
  ⟨poised, orderly, rfl, fun _ => Iff.rfl⟩

/-- One errand is under way. When it has come to its end, those stand who stood when it began, but not
where an OBSERVE was refused. -/
theorem Poised.errand (poised : g.Poised) (orderly : (g.enqueue t).traffic.Orderly)
    (moves : e.Moves g.frame t) (silent : e.answer = none) (speaks : e.Speaks refused)
    (recalls : refused → (0 < t.brings fun _ => true) ∧
      ∀ q, g.interconnection.subscriptions.Stands e.key q →
        ∃ n, g.interconnection.subscriptions.Awaits e.key q n) :
    (g.enqueue t).Settles (Ended (fun key =>
      g.interconnection.subscriptions.Observed key ∧ ¬(key = e.key ∧ refused)) g.frame) := by
  -- All that has to go is there already, and the task is the message that is to come.
  have watches : e.Watches g.interconnection.subscriptions.Observed refused (g.enqueue t) := by
    refine ⟨poised.tickets, poised.tidy, fun key stood _ => stood, fun key stood => ⟨stood, ?_⟩⟩
    intro _ failed
    obtain ⟨brings, waits⟩ := recalls failed
    refine ⟨?_, waits⟩
    rw [poised.calm.coming]
    exact brings
  have suits (m : Message) (_ : e.tells m) : e.Suits m := by
    intro a given
    rw [silent] at given
    cases given
  have ready := poised.staffed.ready
  refine (poised.calm.goes orderly moves).settles ready suits watches
    (fun _ _ goes passing watches => watches.pass ready speaks goes passing) ?_
  intro h goes watches still
  have frame := goes.frame
  exact ⟨⟨goes.calm ready still, frame ▸ poised.staffed, watches.tickets, watches.tidy⟩, goes.orderly,
    frame, watches.rest goes ready still⟩

theorem Poised.turned (poised : g.Poised) (m : Message) (p : ProtocolName) (s : Sequence)
    (orderly : (g.enqueue (.forward (g.keys.turned m p s))).traffic.Orderly) :
    (g.enqueue (.forward (g.keys.turned m p s))).Settles
      (Ended g.interconnection.subscriptions.Observed g.frame) := by
  let e : Errand := ⟨p, s, 0, none, p, "", fun _ => False, none⟩
  have speaks : e.Speaks False := ⟨fun _ said => said.elim, fun _ said => said.elim⟩
  have moves : e.Moves g.frame (.forward (g.keys.turned m p s)) :=
    .turns m p _ 2 fun _ none => nomatch none
  refine (poised.errand orderly moves rfl speaks False.elim).mono fun h ended => ?_
  exact ⟨ended.toPoised, ended.orderly, ended.frame, fun key =>
    (ended.stands key).trans (and_iff_left fun refused => refused.2)⟩

/-! Requests -/

section Asked

variable {c : Call} {ic : Interconnection} {out : Option Hop}

theorem Poised.asked (poised : g.Poised) (asked : Asked g c.origin c.request ic b)
    {envelope : Envelope} {result : StageResult}
    (crossing : g.interconnection.onRequest g.instant envelope = (ic, result)) : b.Poised where
  calm := asked.calm
  staffed := by
    rw [asked.frame]
    exact poised.staffed.drawn c.request.headers.operation
  tickets := asked.begun.tickets
  tidy := by
    have received : (g.interconnection.receive g.instant .input envelope).1 = ic :=
      congrArg Prod.fst crossing
    rw [asked.stage, ← received]
    exact Interconnection.tidy_receive poised.tidy ⟨g.instant, .input, envelope⟩

theorem Attentive.others (attentive : g.Attentive forsaken)
    {u : ResourceUri} (reread : u.Reread) (untouched : ¬c.Deletes u)
    (same : ic.subscriptions.Observed u.text ↔ g.interconnection.subscriptions.Observed u.text) :
    g.frame.Observes u ↔ ic.subscriptions.Observed u.text ∧ ¬(forsaken u ∨ c.Deletes u) := by
  rw [attentive.agrees u reread, counts_iff, same, or_iff_left untouched]

variable {uri : ResourceUri}

theorem deletes_iff (named : ResourceUri.parse c.request.headers.path = .ok uri) (u : ResourceUri) :
    c.Deletes u ↔ c.request.headers.operation = .delete ∧ u = uri := by
  unfold Call.Deletes
  rw [named]
  exact and_congr_right fun _ => ⟨fun same => (Except.ok.inj same).symm, fun same => same ▸ rfl⟩

/-- A request that names a resource goes on to the protocol of it. An OBSERVE is the first one there, and
an UNOBSERVE the last. -/
structure Forwards (g : Gateway) (c : Call) (uri : ResourceUri) (ic : Interconnection)
    (out : Option Hop) : Prop where
  named : ResourceUri.parse c.request.headers.path = .ok uri
  reread : uri.Reread
  asks : Interconnection.Asks g.keys g.interconnection (g.numbered c.request) c.origin uri ic out
  first : c.request.headers.operation = .observe →
    ¬g.interconnection.subscriptions.Observed uri.text ∧ ic.subscriptions.Observed uri.text
  last : c.request.headers.operation = .unobserve → ¬ic.subscriptions.Observed uri.text

/-- A request that goes on does to the observation of its resource what the operation says; only an
OBSERVE that is refused has brought somebody who has to go. -/
theorem Attentive.onward (attentive : g.Attentive forsaken) (forwards : Forwards g c uri ic out)
    (there observed : Bool) (before : g.frame.Observes uri ↔ observed = true) {u : ResourceUri}
    (other : u.Reread) :
    (if u = uri then c.request.headers.operation.watched there observed = true else g.frame.Observes u) ↔
      (ic.subscriptions.Observed u.text ∧
        ¬(u.text = uri.text ∧ c.request.headers.operation = .observe ∧ there = false)) ∧
      ¬(forsaken u ∨ c.Deletes u) := by
  obtain ⟨named, reread, asks, first, last⟩ := forwards
  have deletes := deletes_iff named u
  by_cases here : u = uri
  · subst here
    have agreed := (attentive.agrees u reread).symm
    rw [counts_iff, before] at agreed
    rw [if_pos rfl, deletes]
    -- Of the six operations only an OBSERVE and an UNOBSERVE change who stands.
    have kept (plain : c.request.headers.operation.isObserveFamily = false) :
        ic.subscriptions.Observed u.text ↔ g.interconnection.subscriptions.Observed u.text := by
      have plain : (g.numbered c.request).headers.operation.isObserveFamily = false := plain
      refine asks.observed fun _ => ⟨fun observe => ?_, fun ends => ?_⟩
      · rw [observe] at plain
        cases plain
      · rw [ends] at plain
        cases plain
    cases operation : c.request.headers.operation with
    | observe =>
      obtain ⟨nobody, stands⟩ := first operation
      have kept : ¬forsaken u := fun gone => nobody (attentive.stayed u gone)
      cases there <;> simp [Operation.watched, stands, kept]
    | unobserve => simp [Operation.watched, last operation]
    | delete => simp [Operation.watched]
    | create | read | update =>
      rw [kept (by rw [operation]; rfl)]
      simp [Operation.watched, ← agreed]
  · have apart : uri.text ≠ u.text := fun same => here (other.eq_of_text reread same.symm)
    have stands := attentive.others other (fun gone => here (deletes.mp gone).2)
      (asks.observed fun same => absurd same apart)
    rw [if_neg here, stands]
    simp [apart.symm]

theorem Poised.counted (poised : g.Poised) : g.countForwarded.Poised :=
  ⟨poised.calm.counted, poised.staffed, poised.tickets, poised.tidy⟩

theorem Poised.unserved (poised : g.Poised) (reread : uri.Reread) (r : Request) (detail : String)
    (waits : r.headers.operation = .observe → ∀ q, g.interconnection.subscriptions.Stands uri.text q →
      ∃ n, g.interconnection.subscriptions.Awaits uri.text q n)
    (orderly : (g.enqueue (.forward ⟨.manager, .interconnection, g.keys.wrap (.error (unavailable
      (r.rerouted uri.authority uri.pathAndQuery) (.of uri.scheme) detail)) (.of uri.scheme)⟩)).traffic.Orderly) :
    (g.enqueue (.forward ⟨.manager, .interconnection, g.keys.wrap (.error (unavailable
      (r.rerouted uri.authority uri.pathAndQuery) (.of uri.scheme) detail)) (.of uri.scheme)⟩)).Settles
      (Ended (fun key => g.interconnection.subscriptions.Observed key ∧
        ¬(key = uri.text ∧ r.headers.operation = .observe)) g.frame) := by
  obtain ⟨x, refusal⟩ : ∃ x, unavailable (r.rerouted uri.authority uri.pathAndQuery) (.of uri.scheme)
      detail = x := ⟨_, rfl⟩
  have operation : x.headers.operation = r.headers.operation := refusal ▸ rfl
  have about : Message.isAbout (.error x) (.of uri.scheme) uri.text :=
    refusal ▸ ⟨rfl, uri, reread, rfl⟩
  rw [refusal] at orderly ⊢
  let e : Errand := ⟨.of uri.scheme, 0, 0, none, .of uri.scheme, uri.text, (· = .error x), none⟩
  have speaks : e.Speaks (r.headers.operation = .observe) := by
    constructor
    case about =>
      rintro _ rfl
      exact about
    case fails =>
      rintro _ rfl
      rw [← operation]
      exact ⟨fun ⟨_, same, observe⟩ => by cases same; exact observe, fun observe => ⟨x, rfl, observe⟩⟩
  have moves : e.Moves g.frame (.forward ⟨.manager, .interconnection,
      g.keys.wrap (.error x) (.of uri.scheme)⟩) := .arrives (.error x) rfl
  exact poised.errand orderly moves rfl speaks fun observe => ⟨Nat.zero_lt_one, waits observe⟩

theorem Frame.Staffed.target (staffed : f.Staffed) {t : MemoryTarget} (found : f.targetOf uri = some t) :
    t.linked = true ∧ t.Heeds := by
  obtain ⟨o, look, target⟩ := Option.bind_eq_some_iff.mp found
  exact staffed.targets _ o t look target

theorem Poised.told (poised : g.Poised) {r : Request} {t t' : MemoryTarget} {messages : List Message}
    {h : Gateway} (instructed : Instructed g uri r t t' messages h)
    (served : g.frame.serves (.of uri.scheme) = true)
    (waits : r.headers.operation = .observe → ∀ q, g.interconnection.subscriptions.Stands uri.text q →
      ∃ n, g.interconnection.subscriptions.Awaits uri.text q n)
    (orderly : (h.enqueue (.respond (.of uri.scheme) messages)).traffic.Orderly) :
    (h.enqueue (.respond (.of uri.scheme) messages)).Settles
      (Ended (fun key => g.interconnection.subscriptions.Observed key ∧ ¬(key = uri.text ∧
        r.headers.operation = .observe ∧ (g.frame.contentOf uri).isSome = false)) h.frame) := by
  obtain ⟨told, stage⟩ := And.intro instructed.told instructed.stage
  obtain ⟨linked, heeds⟩ := poised.staffed.target told.found
  have poised' : h.Poised := by
    refine ⟨instructed.calm, ?_, ?_, stage ▸ poised.tidy⟩
    · rw [instructed.frame]
      exact poised.staffed.after served (told.does.settings.2.trans linked) (told.does.heeds heeds)
    · rw [show h.pendingOf = g.pendingOf from congrArg Traffic.pending instructed.traffic,
        show h.exchanges = g.exchanges from congrArg Traffic.exchanges instructed.traffic]
      exact poised.tickets
  let e : Errand := Told.errand uri messages (.of uri.scheme) 0 0 none none
  have speaks : e.Speaks (r.headers.operation = .observe ∧ (g.frame.contentOf uri).isSome = false) := by
    refine ⟨fun m said => told.about said, fun m said => (told.does.fails said).trans ?_⟩
    rw [told.content, Option.isSome_eq_false_iff, Option.isNone_iff_eq_none]
    rfl
  rw [← stage]
  refine poised'.errand orderly (instructed.moves (e := e) rfl fun m said => said) rfl speaks ?_
  rintro ⟨observe, _⟩
  obtain ⟨m, rest, same⟩ := List.exists_cons_of_ne_nil told.does.told
  refine ⟨List.countP_pos_iff.mpr ⟨m, same ▸ List.mem_cons_self, rfl⟩, ?_⟩
  rw [stage]
  exact waits observe

theorem shifts_of_same {there after : ResourceUri → Prop} (same : ∀ u, after u ↔ g.Counts u)
    (already : c.request.headers.operation = .observe →
      ∀ u, ResourceUri.parse c.request.headers.path = .ok u → g.Counts u) :
    c.Shifts there g.Counts after where
  stays u _ _ := (same u).trans
    ⟨Or.inl, fun counted => counted.elim id fun ⟨observe, named, _⟩ => already observe u named⟩
  leaves _ u _ := (same u).mp

theorem Forwards.shifts (forwards : Forwards g c uri ic out) :
    c.Shifts (fun u => (g.frame.contentOf u).isSome) g.Counts fun u =>
      ic.subscriptions.Observed u.text ∧ ¬(u.text = uri.text ∧
        c.request.headers.operation = .observe ∧ (g.frame.contentOf uri).isSome = false) where
  stays u other kept := by
    obtain ⟨named, reread, asks, first, _⟩ := forwards
    rw [counts_iff]
    by_cases here : u = uri
    · subst here
      by_cases observe : c.request.headers.operation = .observe
      · obtain ⟨nobody, stands⟩ := first observe
        generalize (g.frame.contentOf u).isSome = there
        cases there <;> simp [nobody, stands, observe, named]
      · have same : _ ↔ g.interconnection.subscriptions.Observed u.text := asks.observed fun _ =>
          ⟨observe, fun ends => absurd named (kept ends)⟩
        simp [same, observe]
    · have apart : uri.text ≠ u.text := fun same => here (other.eq_of_text reread same.symm)
      have same := asks.observed fun here => absurd here apart
      simp [same, apart.symm, named, Ne.symm here]
  leaves ends u _ after := by
    rw [counts_iff]
    rcases forwards.asks.only u.text after.1 with before | ⟨_, observe⟩
    · exact before
    · cases ends.symm.trans observe

/-! The ways of a request -/

theorem Asked.observes (asked : Asked g c.origin c.request ic b) (u : ResourceUri) :
    b.frame.Observes u ↔ g.frame.Observes u := by
  rw [asked.frame]
  rfl

theorem Asked.content (asked : Asked g c.origin c.request ic b) (u : ResourceUri) :
    b.frame.contentOf u = g.frame.contentOf u := by
  rw [asked.frame]
  rfl

theorem Attentive.quiet (attentive : g.Attentive forsaken) (asked : Asked g c.origin c.request ic b)
    (named : ResourceUri.parse c.request.headers.path = .ok uri)
    (other : c.request.headers.operation ≠ .delete)
    (same : ∀ key, ic.subscriptions.Observed key ↔ g.interconnection.subscriptions.Observed key)
    (already : c.request.headers.operation = .observe →
      g.interconnection.subscriptions.Observed uri.text) {h : Gateway}
    (ended : h.Ended b.interconnection.subscriptions.Observed b.frame) :
    Reconciled forsaken c g b.frame h := by
  rw [asked.stage] at ended
  refine ended.reconciled (fun u reread => ?_) ?_
  · rw [asked.observes]
    exact attentive.others reread (fun gone => other gone.1) (same u.text)
  · refine shifts_of_same (fun u => (same u.text).trans counts_iff.symm) fun observe u also => ?_
    cases named.symm.trans also
    exact counts_iff.mpr (already observe)

theorem Attentive.unserved (attentive : g.Attentive forsaken) (poised : b.Poised)
    (asked : Asked g c.origin c.request ic b) (forwards : Forwards g c uri ic out)
    (waits : c.request.headers.operation = .observe → ∀ q, ic.subscriptions.Stands uri.text q →
      ∃ n, ic.subscriptions.Awaits uri.text q n)
    (serves : b.frame.serves (.of uri.scheme) = false)
    (orderly : (b.enqueue (.forward (b.keys.onward (g.numbered c.request) c.origin uri))).traffic.Orderly) :
    (b.enqueue (.forward (b.keys.onward (g.numbered c.request) c.origin uri))).Settles
      (Reconciled forsaken c g b.frame) := by
  have stage : b.countForwarded.interconnection = ic := asked.stage
  obtain ⟨detail, leads⟩ := leads_unserved asked.calm (g.numbered c.request) c.origin uri serves
  have nobody : ¬g.frame.Observes uri := (asked.observes uri).not.mp (poised.staffed.unserved serves)
  have absent : (g.frame.contentOf uri).isSome = false := by
    rw [← asked.content, Frame.contentOf, poised.staffed.untargeted serves]
    rfl
  rw [← stage] at waits
  have ends := poised.counted.unserved forwards.reread (g.numbered c.request) detail waits
    (leads.orderly orderly)
  refine leads.settles _ (ends.mono fun h ended => ?_)
  rw [stage] at ended
  have shifts := forwards.shifts
  simp only [absent, and_true] at shifts
  refine ended.reconciled (fun u other => (asked.observes u).trans ?_) shifts
  -- Nothing is there and nothing is observed, before and afterwards.
  have agreed := attentive.onward forwards false false (iff_of_false nobody Bool.false_ne_true) other
  simp only [and_true] at agreed
  refine Iff.trans ?_ agreed
  split
  · rename_i here
    rw [here, Operation.watched_absent]
    exact iff_of_false nobody Bool.false_ne_true
  · rfl

theorem Attentive.served (attentive : g.Attentive forsaken) (poised : b.Poised)
    (asked : Asked g c.origin c.request ic b) (forwards : Forwards g c uri ic out)
    (waits : c.request.headers.operation = .observe → ∀ q, ic.subscriptions.Stands uri.text q →
      ∃ n, ic.subscriptions.Awaits uri.text q n)
    (serves : b.frame.serves (.of uri.scheme) = true)
    (orderly : (b.enqueue (.forward (b.keys.onward (g.numbered c.request) c.origin uri))).traffic.Orderly) :
    ∃ f, b.frame.Keeps f ∧
      (b.enqueue (.forward (b.keys.onward (g.numbered c.request) c.origin uri))).Settles
        (Reconciled forsaken c g f) := by
  have stage : b.countForwarded.interconnection = ic := asked.stage
  have leads := leads_served asked.calm (g.numbered c.request) c.origin uri serves
  obtain ⟨t, t', messages, h, instructed⟩ :=
    asked.calm.counted.instructed poised.staffed forwards.reread serves (g.numbered c.request)
  have told := instructed.told
  have heeds := (poised.staffed.target (f := b.frame) told.found).2
  have after := leads.orderly orderly
  refine ⟨h.frame, instructed.keeps, leads.settles _ ?_⟩
  rw [instructed.speaks] at after ⊢
  rw [← stage] at waits
  refine (poised.counted.told instructed serves waits after).mono fun h' ended => ?_
  have content : b.countForwarded.frame.contentOf uri = g.frame.contentOf uri := asked.content uri
  rw [stage, content] at ended
  refine ended.reconciled (fun u other => ?_) forwards.shifts
  have agreed := attentive.onward forwards (g.frame.contentOf uri).isSome
    (t.isObserved uri.authority uri.pathAndQuery) ((asked.observes uri).symm.trans told.observes_self) other
  rw [instructed.frame, told.observes heeds other, content]
  refine Iff.trans ?_ agreed
  split
  · rfl
  · exact asked.observes u

/-- A request that names a resource takes the gateway from agreement to agreement, whichever way it
goes. -/
theorem Attentive.named (attentive : g.Attentive forsaken) (poised : b.Poised)
    (asked : Asked g c.origin c.request ic b) {envelope : Envelope} {result : StageResult}
    (crossing : g.interconnection.onRequest g.instant envelope = (ic, result))
    (named : ResourceUri.parse c.request.headers.path = .ok uri) (reread : uri.Reread)
    (asks : Interconnection.Asks g.keys g.interconnection (g.numbered c.request) c.origin uri ic out)
    (orderly : (b.follow (.ok out)).traffic.Orderly) :
    ∃ f, g.frame.Keeps f ∧ (b.follow (.ok out)).Settles (Reconciled forsaken c g f) := by
  have keeps : g.frame.Keeps b.frame := asked.keeps ⟨rfl, fun _ known => known⟩
  -- Only a request that goes on can change what is observed; the other ways are quiet.
  cases asks.way with
  | cached hit reads held =>
    have reads : c.request.headers.operation = .read := reads
    have plain : c.request.headers.operation ≠ .observe ∧ c.request.headers.operation ≠ .unobserve ∧
        c.request.headers.operation ≠ .delete := by
      rw [reads]
      decide
    have same (key : String) :
        ic.subscriptions.Observed key ↔ g.interconnection.subscriptions.Observed key :=
      asks.observed fun _ => ⟨plain.1, fun ends => absurd ends plain.2.1⟩
    rw [asked.follow, ← asked.keys] at orderly ⊢
    exact ⟨b.frame, keeps, (poised.turned _ _ _ orderly).mono fun h ended =>
      attentive.quiet asked named plain.2.2 same (fun observe => absurd observe plain.1) ended⟩
  | acknowledged ends =>
    have ends : c.request.headers.operation = .unobserve := ends
    have plain : c.request.headers.operation ≠ .observe ∧ c.request.headers.operation ≠ .delete := by
      rw [ends]
      decide
    have same (key : String) :
        ic.subscriptions.Observed key ↔ g.interconnection.subscriptions.Observed key :=
      asks.observed fun _ => ⟨plain.1, fun _ on => nomatch on⟩
    rw [asked.follow, ← asked.keys] at orderly ⊢
    exact ⟨b.frame, keeps, (poised.turned _ _ _ orderly).mono fun h ended =>
      attentive.quiet asked named plain.2 same (fun observe => absurd observe plain.1) ended⟩
  | joined joins already =>
    have joins : c.request.headers.operation = .observe := joins
    have same (key : String) :
        ic.subscriptions.Observed key ↔ g.interconnection.subscriptions.Observed key := by
      constructor
      · intro observed
        rcases asks.only key observed with before | ⟨here, _⟩
        · exact before
        · exact here ▸ already
      · exact fun before => asks.observers key before fun _ on => nomatch on
    exact ⟨b.frame, keeps, .rest asked.calm.still
      (attentive.quiet asked named (by rw [joins]; decide) same (fun _ => already) (poised.ended orderly))⟩
  | onward _ first last =>
    have forwards : Forwards g c uri ic _ := ⟨named, reread, asks, first, last⟩
    have waits (observe : c.request.headers.operation = .observe) (q : ProtocolName)
        (stands : ic.subscriptions.Stands uri.text q) : ∃ n, ic.subscriptions.Awaits uri.text q n :=
      Interconnection.paired_onRequest attentive.tidy (first observe).1 crossing stands
    rw [asked.follow, ← asked.keys] at orderly ⊢
    cases serves : b.frame.serves (.of uri.scheme) with
    | false => exact ⟨b.frame, keeps, attentive.unserved poised asked forwards waits serves orderly⟩
    | true =>
      obtain ⟨f, kept, settles⟩ := attentive.served poised asked forwards waits serves orderly
      exact ⟨f, asked.keeps kept, settles⟩

end Asked

theorem Attentive.submitted (attentive : g.Attentive forsaken) (orderly : g.traffic.Orderly) {c : Call}
    (proper : c.Proper) (known : (g.frame.outlook c.origin).isSome) :
    ∃ h s k f, g.submit c.origin c.request = (h, .ok (s, k)) ∧ g.frame.Keeps f ∧
      h.Settles (Reconciled forsaken c g f) := by
  obtain ⟨h, s, b, ic, out, submitted, crossing, comes, asked, leads, after⟩ :=
    attentive.calm.submitted attentive.tickets attentive.staffed orderly proper known
  have poised := attentive.asked asked crossing
  cases comes with
  | unnamed cause unreadable =>
    have nameless (u : ResourceUri) : ResourceUri.parse c.request.headers.path ≠ .ok u := by
      rw [unreadable]
      exact nofun
    rw [asked.follow, ← asked.keys] at after leads
    refine ⟨h, s, _, b.frame, submitted, asked.keeps ⟨rfl, fun _ known => known⟩, leads.settles _ ?_⟩
    refine (poised.turned _ _ _ after).mono fun h ended => ?_
    rw [asked.stage] at ended
    refine ended.reconciled (fun u reread => ?_) (shifts_of_same (fun _ => counts_iff.symm) ?_)
    · rw [asked.frame]
      exact attentive.others reread (fun gone => nameless u gone.2) Iff.rfl
    · exact fun _ u named => absurd named (nameless u)
  | named uri named asks =>
    obtain ⟨f, keeps, settles⟩ :=
      attentive.named poised asked crossing named (proper.reread named) asks after
    exact ⟨h, s, _, f, submitted, keeps, leads.settles _ settles⟩

/-! One request after the other -/

theorem Attentive.pass (attentive : g.Attentive forsaken) (ms : Nat) :
    (g.pass ms).Attentive forsaken := by
  have ready : (g.pass ms).frame.Ready :=
    ⟨attentive.staffed.ready.running, attentive.staffed.ready.names, attentive.staffed.ready.listens⟩
  exact ⟨⟨⟨ready, attentive.calm.still, attentive.calm.empty⟩, ⟨ready, attentive.staffed.numbers,
    attentive.staffed.clients, attentive.staffed.targets⟩, attentive.tickets, attentive.tidy⟩,
    attentive.agrees, attentive.stayed⟩

theorem Attentive.concurs {calls : List Call} (attentive : g.Attentive forsaken)
    (orderly : g.traffic.Orderly) (proper : ∀ c ∈ calls, c.Proper)
    (known : ∀ c ∈ calls, (g.frame.outlook c.origin).isSome) : g.Concurs forsaken calls := by
  induction calls generalizing g forsaken with
  | nil => exact attentive.agrees
  | cons c rest ih =>
    obtain ⟨h, s, k, f, submitted, keeps, settles⟩ :=
      attentive.submitted orderly (proper c List.mem_cons_self) (known c List.mem_cons_self)
    refine ⟨attentive.agrees, h, s, k, submitted, settles.mono fun h' reconciled => ⟨reconciled.shifts, ?_⟩⟩
    refine ih (reconciled.attentive.pass c.pause) reconciled.orderly
      (fun c' member => proper c' (List.mem_cons_of_mem c member)) fun c' member => ?_
    change (h'.frame.outlook c'.origin).isSome
    rw [reconciled.frame]
    exact keeps.known _ (known c' (List.mem_cons_of_mem c member))

theorem Opened.attentive {cache : ReplyCache} (opened : g.Opened cache) :
    g.Attentive fun _ => False := by
  have tidy : g.interconnection.subscriptions.Tidy := by
    rw [opened.stage]
    exact Interconnection.tidy_after _ cache []
  have nobody (u : ResourceUri) : ¬g.Counts u := by
    unfold Counts
    rw [opened.stage]
    exact Nat.lt_irrefl 0
  exact ⟨⟨opened.calm, opened.staffed, opened.tickets, tidy⟩, fun u _ =>
    iff_of_false (opened.unobserved u) fun observed => nobody u observed.1, fun _ none => none.elim⟩

/-- From the start and after every request that has settled, the targets of a gateway observe what has
observers there, but for resources that have been deleted while they had some. -/
theorem started_agrees_with_targets {config : ManagerConfig} {cache : ReplyCache}
    {plugins : List Plugin} {g₀ g : Gateway} {calls : List Call} (plain : ∀ x ∈ plugins, x.Plain)
    (registered : plugins.foldlM register (new config cache) = .ok g₀)
    (started : g₀.start = (g, .ok ())) (proper : ∀ c ∈ calls, c.Proper)
    (known : ∀ c ∈ calls, (g.entry? c.origin).isSome) : g.Concurs (fun _ => False) calls := by
  have opened := ((wired_new config cache).registerAll plain registered).opened started
  refine opened.attentive.concurs opened.orderly proper fun c member => ?_
  change ((g.entry? c.origin).map PluginEntry.outlook).isSome
  rw [Option.isSome_map]
  exact known c member

def observingCalls : List Call :=
  [⟨.of "http", .new .observe "/coap/[::1]/t", 0⟩,
    ⟨.of "http", (Request.new .update "/coap/[::1]/t").withPayload [50, 50], 20⟩,
    ⟨.of "http", .new .observe "coap://[::1]/none", 0⟩, ⟨.of "http", .new .delete "/coap/[::1]/t", 0⟩,
    ⟨.of "http", (Request.new .create "/coap/[::1]/t").withPayload [50, 51], 0⟩,
    ⟨.of "http", .new .observe "/coap/[::1]/t", 0⟩, ⟨.of "http", .new .unobserve "/coap/[::1]/t", 0⟩,
    ⟨.of "http", .new .observe "/coap/[::1]/t", 0⟩]

theorem sensor_agrees : sensorWired.start.1.Concurs (fun _ => False) observingCalls := by
  have named : ∀ c ∈ observingCalls,
      (ResourceUri.parse c.request.headers.path).toOption.map (·.scheme) = some "coap" := by
    decide +kernel
  have fresh : ∀ c ∈ observingCalls, c.request.sequence = 0 := by decide +kernel
  have known : ∀ c ∈ observingCalls, (Gateway.entry? sensorWired.start.1 c.origin).isSome := by decide +kernel
  exact started_agrees_with_targets sensor_plain sensor_registered sensor_started
    (fun c member => proper_of_coap (fresh c member) (named c member)) known

/-- A resource is observed and then deleted. The gateway still counts its observer, and the target
observes nothing any more. -/
theorem deletion_parts_agreement :
    ¬∀ h k, sensorWired.start.1.submit (.of "http") (.new .observe "/coap/[::1]/t") = (h, .ok k) →
      h.Settles fun g => ∀ h k, g.submit (.of "http") (.new .delete "/coap/[::1]/t") = (h, .ok k) →
        h.Settles (Agrees fun _ => False) := by
  intro claimed
  have opened := ((wired_new .standard sensorCache).registerAll sensor_plain sensor_registered).opened
    sensor_started
  have named : ResourceUri.parse "/coap/[::1]/t" = .ok ⟨"coap", "[::1]", "/t", []⟩ := by decide +kernel
  have reread : ResourceUri.Reread ⟨"coap", "[::1]", "/t", []⟩ :=
    (by decide +kernel : ResourceUri.ofParts "coap" "[::1]" "/t" = _)
  have proper (o : Operation) : Call.Proper ⟨.of "http", .new o "/coap/[::1]/t", 0⟩ :=
    proper_of_coap rfl (by
      change (ResourceUri.parse "/coap/[::1]/t").toOption.map (·.scheme) = _
      rw [named]
      rfl)
  have known : (sensorWired.start.1.frame.outlook (.of "http")).isSome := by decide +kernel
  have there : (sensorWired.start.1.frame.contentOf ⟨"coap", "[::1]", "/t", []⟩).isSome := by
    decide +kernel
  -- The OBSERVE brings an observer, and the DELETE leaves it.
  obtain ⟨h, s, k, f, submitted, keeps, settles⟩ :=
    opened.attentive.submitted opened.orderly (proper .observe) known
  obtain ⟨g, reconciled, claimed⟩ := (settles.and (claimed h _ submitted)).exists
  have counted := (reconciled.shifts.stays _ reread nofun).mpr (Or.inr ⟨rfl, named, there⟩)
  have known : (g.frame.outlook (.of "http")).isSome := by
    rw [reconciled.frame]
    exact keeps.known _ known
  obtain ⟨h', s', k', _, submitted', _, settles'⟩ :=
    reconciled.attentive.submitted reconciled.orderly (proper .delete) known
  obtain ⟨g', reconciled', agrees⟩ := (settles'.and (claimed h' _ submitted')).exists
  have counted' := (reconciled'.shifts.stays _ reread nofun).mpr (Or.inl counted)
  have observes := (agrees _ reread).mpr ⟨counted', id⟩
  exact ((reconciled'.attentive.agrees _ reread).mp observes).2 ⟨Or.inr ⟨rfl, named⟩, counted'⟩

end Gateway

end ProtocolGateway
