import Mathlib
import ProtocolGateway.Proofs.Gateway.Custody

/-!
Where outcomes come from. Every message that a request may be resolved by is followed back to what
the interconnection stage has taken in, or to the request itself.
-/

namespace ProtocolGateway

/-- How a message comes to answer an accepted request: it was the first about the request's resource
after the request itself; or it is a copy from the cache of an earlier one; or the gateway made it for
the request. -/
inductive Answers (log : List Note) (a : Acceptance) (m : Message) : Prop where
  | heard (uri : ResourceUri) (before between after : List Note) (q : ProtocolName)
      (named : ResourceUri.parse a.path = .ok uri)
      (split : log = before ++ .crossed a.protocol (.request a.sealed) :: between ++ .crossed q m :: after)
      (about : m.isAbout q uri.text)
      (first : ∀ q' m', .crossed q' m' ∈ between → ¬m'.isAbout q' uri.text)
  | cached (uri : ResourceUri) (q : ProtocolName) (hit : Reply)
      (named : ResourceUri.parse a.path = .ok uri) (reads : a.operation = .read)
      (copy : m = .reply (hit.retagged a.sequence)) (crossed : .crossed q (.reply hit) ∈ log)
      (about : Message.isAbout (.reply hit) q uri.text)
      (kept : hit.headers.operation = .read ∨ hit.headers.operation = .observe)
  | acknowledged (ends : a.operation = .unobserve)
      (made : m = .reply (Reply.forRequest a.sealed []))
  | refused (cause : ProtocolError) (unreadable : ResourceUri.parse a.path = .error cause)
      (made : m = .error (a.sealed.refusal cause))

/-- A request is on record under a resource, and no answer about it has come since. -/
def Awaits (log : List Note) (a : Acceptance) (key : String) : Prop :=
  ∃ uri before after, ResourceUri.parse a.path = .ok uri ∧ uri.text = key ∧
    log = before ++ .crossed a.protocol (.request a.sealed) :: after ∧
    ∀ q m, .crossed q m ∈ after → ¬m.isAbout q key

def Fits (log : List Note) (a : Acceptance) : Message → Prop
  | .request r => r = a.sealed
  | m => Answers log a m

theorem Answers.mono {log : List Note} {a : Acceptance} {m : Message} (answers : Answers log a m)
    (notes : List Note) : Answers (log ++ notes) a m := by
  cases answers with
  | heard uri before between after q named split about first =>
    refine .heard uri before between (after ++ notes) q named ?_ about first
    rw [split]
    simp
  | cached uri q hit named reads copy crossed about kept =>
    exact .cached uri q hit named reads copy (List.mem_append_left _ crossed) about kept
  | acknowledged ends made => exact .acknowledged ends made
  | refused cause unreadable made => exact .refused cause unreadable made

theorem Fits.mono {log : List Note} {a : Acceptance} {m : Message} (fits : Fits log a m)
    (notes : List Note) : Fits (log ++ notes) a m := by
  cases m with
  | request r => exact fits
  | reply r | error e => exact Answers.mono fits notes

theorem fits_iff {log : List Note} {a : Acceptance} {m : Message} (answer : m.isReplyLike = true) :
    Fits log a m ↔ Answers log a m := by
  cases m with
  | request r => cases answer
  | reply r | error e => exact Iff.rfl

theorem Awaits.later {log : List Note} {a : Acceptance} {key : String} (awaits : Awaits log a key)
    {notes : List Note} (other : ∀ q m, .crossed q m ∈ notes → ¬m.isAbout q key) :
    Awaits (log ++ notes) a key := by
  obtain ⟨uri, before, after, named, text, split, silent⟩ := awaits
  refine ⟨uri, before, after ++ notes, named, text, ?_, fun q m member => ?_⟩
  · rw [split]
    simp
  · exact (List.mem_append.mp member).elim (silent q m) (other q m)

theorem Awaits.answers {log notes : List Note} {a : Acceptance} {key : String}
    (awaits : Awaits log a key) {q : ProtocolName} {m : Message} (about : m.isAbout q key) :
    Answers (log ++ .crossed q m :: notes) a m := by
  obtain ⟨uri, before, after, named, rfl, split, silent⟩ := awaits
  refine .heard uri before after notes q named ?_ about silent
  rw [split]

/-! What is under way for a request -/

/-- All that is under way under the number of a request belongs to it. -/
structure Traced (t : Traffic) (log : List Note) (a : Acceptance) : Prop where
  asked : ∀ r ∈ t.asked a.protocol, r.sequence = a.sequence → r = a.sealed
  hops : ∀ hop ∈ t.hops, hop.load a.protocol a.sequence ≠ 0 → Fits log a hop.envelope.content
  waits : ∀ key, t.interconnection.subscriptions.waits key a.protocol a.sequence ≠ 0 →
    Awaits log a key

namespace Traced

variable {t : Traffic} {log notes : List Note} {a : Acceptance}

theorem hop (traced : Traced t log a) {before after : List Hop} {taken : Hop}
    (split : t.hops = before ++ taken :: after) {ic : Interconnection} {out : Option Hop}
    (next : ∀ hop, out = some hop → hop.load a.protocol a.sequence ≠ 0 →
      Fits (log ++ notes) a hop.envelope.content)
    (waits : ∀ key, ic.subscriptions.waits key a.protocol a.sequence ≠ 0 →
      Awaits (log ++ notes) a key) :
    Traced { t with interconnection := ic, hops := t.onward (before ++ after) out } (log ++ notes) a where
  asked := traced.asked
  hops hop member load := by
    rcases Traffic.mem_onward member with old | new
    · exact (traced.hops hop (split ▸ Traffic.mem_left old) load).mono notes
    · exact next hop new load
  waits := waits

theorem taken (traced : Traced t log a) {before after : List Hop} {taken : Hop}
    (split : t.hops = before ++ taken :: after) (load : taken.load a.protocol a.sequence ≠ 0) :
    Fits log a taken.envelope.content :=
  traced.hops taken (split ▸ List.mem_append_right before List.mem_cons_self) load

theorem same (traced : Traced t log a) (silent : ∀ q m, .crossed q m ∉ notes) :
    Traced t (log ++ notes) a where
  asked := traced.asked
  hops hop member load := (traced.hops hop member load).mono notes
  waits key on := (traced.waits key on).later fun q m member => absurd member (silent q m)

theorem relay (traced : Traced t log a) {before after : List Hop} {taken : Hop}
    (split : t.hops = before ++ taken :: after) {out : Option Hop}
    (next : ∀ hop, out = some hop → hop.load a.protocol a.sequence ≠ 0 →
      taken.load a.protocol a.sequence ≠ 0 ∧ hop.envelope.content = taken.envelope.content) :
    Traced { t with hops := t.onward (before ++ after) out } (log ++ []) a := by
  refine traced.hop split (fun hop sent load => ?_) fun key on => ?_
  · obtain ⟨carried, content⟩ := next hop sent load
    rw [content]
    exact (traced.taken split carried).mono []
  · exact (traced.waits key on).later fun q m member => nomatch member

theorem enter (traced : Traced t log a) {p : ProtocolName} {r : Request} {rest : List Request}
    (queue : t.asked p = r :: rest) :
    Traced { t with
      asked := Function.update t.asked p rest
      hops := t.onward t.hops (some ⟨.manager, .input, t.keys.asking r p 0⟩) } (log ++ []) a where
  asked r' member number := by
    change r' ∈ Function.update t.asked p rest a.protocol at member
    rw [Function.update_apply] at member
    split at member
    · rename_i same
      exact traced.asked r' (same ▸ queue ▸ List.mem_cons_of_mem r member) number
    · exact traced.asked r' member number
  hops hop member load := by
    rcases Traffic.mem_onward (show hop ∈ t.onward t.hops (some _) from member) with old | new
    · exact (traced.hops hop old load).mono []
    · cases new
      rw [Keyring.load_entering] at load
      split at load
      · rename_i both
        obtain ⟨rfl, number⟩ := both
        exact traced.asked r (queue ▸ List.mem_cons_self) number
      · exact absurd rfl load
  waits key on := (traced.waits key on).later fun q m member => nomatch member

/-- What becomes of a request at the interconnection stage answers it, or it goes on record. -/
theorem takes (traced : Traced t log a) {before after : List Hop} {r : Request} {q : ProtocolName}
    (split : t.hops = before ++ ⟨.input, .interconnection, t.keys.asking r q 1⟩ :: after)
    {ic : Interconnection} {out : Option Hop}
    (takes : Interconnection.Takes t.keys t.interconnection r q ic out)
    (cached : ∀ key reply, t.interconnection.cache.Holds key reply →
      ∃ q, .crossed q (.reply reply) ∈ log ∧ Message.isAbout (.reply reply) q key ∧
        (reply.headers.operation = .read ∨ reply.headers.operation = .observe)) :
    Traced { t with interconnection := ic, hops := t.onward (before ++ after) out }
      (log ++ [.crossed q (.request r)]) a := by
  have mine (here : q = a.protocol) (number : r.sequence = a.sequence) : r = a.sealed :=
    traced.taken split (by rw [Keyring.load_admitted, if_pos ⟨here, number⟩]; exact Nat.one_ne_zero)
  have later {key : String} (awaits : Awaits log a key) :
      Awaits (log ++ [.crossed q (.request r)]) a key := by
    refine awaits.later fun q' m member about => ?_
    cases List.mem_singleton.mp member
    cases about.1
  -- The answer of a turned envelope is for its own request.
  have turned {m : Message} (answer : m.isReplyLike = true)
      (answers : r = a.sealed → Answers log a m) (hop : Hop)
      (sent : some (t.keys.turned m q r.sequence) = some hop)
      (load : hop.load a.protocol a.sequence ≠ 0) :
      Fits (log ++ [.crossed q (.request r)]) a hop.envelope.content := by
    cases sent
    rw [Keyring.load_turned] at load
    split at load
    · rename_i both
      exact ((fits_iff answer).mpr (answers (mine both.1 both.2))).mono _
    · exact absurd rfl load
  -- Three ways answer the request at once; the last one puts it on record.
  cases takes with
  | refused cause unreadable =>
    refine traced.hop split (turned rfl fun same => ?_) fun key on => later (traced.waits key on)
    subst same
    exact .refused cause unreadable rfl
  | cached uri hit named reads held =>
    refine traced.hop split (turned rfl fun same => ?_) fun key on => later (traced.waits key on)
    subst same
    obtain ⟨q', crossed, about, kept⟩ := cached uri.text hit held
    exact .cached uri q' hit named reads rfl crossed about kept
  | acknowledged uri subscriptions named ends kept =>
    refine traced.hop split (turned rfl fun same => ?_) fun key on => ?_
    · subst same
      exact .acknowledged ends rfl
    · exact later (traced.waits key (by rw [← kept.waits]; exact on))
  | enrolled uri subscriptions cache n out named more alone less next =>
    refine traced.hop split (fun hop sent load => ?_) fun key on => ?_
    · rcases next with rfl | rfl
      · cases sent
      · cases sent
        exact absurd rfl load
    · change subscriptions.waits key a.protocol a.sequence ≠ 0 at on
      rw [more.waits] at on
      split at on
      · rename_i all
        obtain ⟨rfl, here, number⟩ := all
        have same := mine here number
        subst here same
        exact ⟨uri, log, [], named, rfl, rfl, fun _ _ member => nomatch member⟩
      · exact later (traced.waits key on)

theorem hears (traced : Traced t log a) {before after : List Hop} {m : Message} {q : ProtocolName}
    (split : t.hops = before ++ ⟨.manager, .interconnection, t.keys.wrap m q⟩ :: after)
    {ic : Interconnection} {result : StageResult}
    (hears : Interconnection.Hears t.keys t.interconnection m q ic result) :
    Traced { t with interconnection := ic, hops := t.onward (before ++ after) (Traffic.sent result) }
      (log ++ .crossed q m :: Gateway.breakNotes result) a := by
  have later {key : String} (awaits : Awaits log a key) (other : ¬m.isAbout q key) :
      Awaits (log ++ .crossed q m :: Gateway.breakNotes result) a key := by
    refine awaits.later fun q' m' member => ?_
    rcases List.mem_cons.mp member with crossed | broken
    · cases crossed
      exact other
    · cases mem_breakNotes broken
  -- An answer is about one resource only, so what waits under another one still does.
  have elsewhere {key : String} {subscriptions : Subscriptions} {l : ReplyTo}
      (about : m.isAbout q key)
      (drained : Subscriptions.Drains t.interconnection.subscriptions subscriptions key l)
      (key' : String) (on : subscriptions.waits key' a.protocol a.sequence ≠ 0) :
      Awaits (log ++ .crossed q m :: Gateway.breakNotes result) a key' := by
    rw [drained.waits] at on
    split at on
    · exact absurd rfl on
    · rename_i apart
      exact later (traced.waits key' on) fun also => apart (Message.isAbout_unique about also)
  cases hears with
  | unreadable cause lost =>
    exact traced.hop split (fun hop sent => nomatch sent) fun key on =>
      later (traced.waits key on) (lost key)
  | unmatched key subscriptions cause about drained
  | brokenOff key subscriptions cache l about drained less =>
    exact traced.hop split (fun hop sent => nomatch sent) (elsewhere about drained)
  | matched key subscriptions cache l about drained stored receivers =>
    refine traced.hop split (fun hop sent load => ?_) (elsewhere about drained)
    cases sent
    change listed l a.protocol a.sequence ≠ 0 at load
    rw [drained.listed] at load
    exact (fits_iff about.1).mpr ((traced.waits key load).answers about)

end Traced

structure Sourced (t : Traffic) (log : List Note) : Prop where
  traced : ∀ a, .accepted a ∈ log → Table.at? (t.pending a.protocol) a.sequence = some a.ticket →
    .cameRound a.protocol a.sequence ∉ log → Traced t log a
  cached : ∀ key reply, t.interconnection.cache.Holds key reply →
    ∃ q, .crossed q (.reply reply) ∈ log ∧ Message.isAbout (.reply reply) q key ∧
      (reply.headers.operation = .read ∨ reply.headers.operation = .observe)
  ended : ∀ a, .accepted a ∈ log → .cameRound a.protocol a.sequence ∉ log →
    ∀ x, t.exchanges[a.ticket]? = some (.resolved x) →
      x = .dropped ∨ ∃ m, Answers log a m ∧ x = Gateway.resolutionOf m a.sequence

namespace Sourced

variable {t t' : Traffic} {log notes : List Note}

theorem new (config : ManagerConfig) {cache : ReplyCache}
    (empty : ∀ key reply, ¬cache.Holds key reply) :
    Sourced (Gateway.new config cache).traffic [] where
  traced _ member := nomatch member
  cached key reply held := absurd held (empty key reply)
  ended _ member := nomatch member

theorem frame (sourced : Sourced t log) (pending : t'.pending = t.pending)
    (exchanges : t'.exchanges = t.exchanges) (old : ∀ a, .accepted a ∉ notes)
    (cache : ∀ key reply, t'.interconnection.cache.Holds key reply →
      t.interconnection.cache.Holds key reply ∨
        ∃ q, .crossed q (.reply reply) ∈ notes ∧ Message.isAbout (.reply reply) q key ∧
          (reply.headers.operation = .read ∨ reply.headers.operation = .observe))
    (trace : ∀ a, Traced t log a → Traced t' (log ++ notes) a) : Sourced t' (log ++ notes) where
  traced a member waits once := by
    rw [pending] at waits
    exact trace a (sourced.traced a ((List.mem_append.mp member).resolve_right (old a)) waits
      fun round => once (List.mem_append_left _ round))
  cached key reply held := by
    rcases cache key reply held with before | ⟨q, crossed, rest⟩
    · obtain ⟨q, crossed, rest⟩ := sourced.cached key reply before
      exact ⟨q, List.mem_append_left _ crossed, rest⟩
    · exact ⟨q, List.mem_append_right _ crossed, rest⟩
  ended a member once x outcome := by
    rw [exchanges] at outcome
    refine (sourced.ended a ((List.mem_append.mp member).resolve_right (old a))
      (fun round => once (List.mem_append_left _ round)) x outcome).imp_right ?_
    rintro ⟨m, answers, same⟩
    exact ⟨m, answers.mono notes, same⟩

theorem resolveAll (sourced : Sourced t log) (accounted : Accounted t log) {m : Message}
    (answer : m.isReplyLike = true) (xs : List (ProtocolName × Sequence))
    (own : ∀ x ∈ xs, ∀ a, .accepted a ∈ log → Table.at? (t.pending x.1) x.2 = some a.ticket →
      .cameRound a.protocol a.sequence ∉ log → Answers log a m) :
    Sourced (xs.foldl (·.resolve m) t) log := by
  induction xs generalizing t with
  | nil => exact sourced
  | cons x rest ih =>
    -- Each answer ends one exchange and leaves all that travels alone.
    have beside := t.beside_resolve m x
    refine ih ⟨fun a member waits once => ?_, fun key reply held => ?_, fun a member once y outcome => ?_⟩
      (accounted.resolve answer x) fun y later a member waits once =>
        own y (List.mem_cons_of_mem x later) a member (Traffic.waits_resolve waits).2 once
    · have traced := sourced.traced a member (Traffic.waits_resolve waits).2 once
      constructor
      case asked =>
        rw [beside.asked]
        exact traced.asked
      case hops =>
        rw [beside.hops]
        exact traced.hops
      case waits =>
        rw [beside.interconnection]
        exact traced.waits
    · rw [beside.interconnection] at held
      exact sourced.cached key reply held
    · rw [Traffic.exchange_resolve] at outcome
      split at outcome
      · rename_i both
        cases outcome
        obtain ⟨_, number⟩ := accounted.owner member both.1
        exact Or.inr ⟨m, own x List.mem_cons_self a member both.1 once, by rw [number]⟩
      · exact sourced.ended a member once y outcome

/-- A later request changes nothing of what has come of an older one, unless it supersedes it: the
older one is dropped then. -/
theorem ended_old (sourced : Sourced t log) (accounted : Accounted t log) {p : ProtocolName}
    {s : Sequence} (supersedes : t.Supersedes t' p s) {a : Acceptance} (member : .accepted a ∈ log)
    (once : .cameRound a.protocol a.sequence ∉ log) {x : Resolution}
    (outcome : t'.exchanges[a.ticket]? = some (.resolved x)) :
    x = .dropped ∨ ∃ m, Answers (log ++ notes) a m ∧ x = Gateway.resolutionOf m a.sequence := by
  rw [supersedes.exchange _ (accounted.issued a member)] at outcome
  split at outcome
  · cases outcome
    exact Or.inl rfl
  · refine (sourced.ended a member once x outcome).imp_right ?_
    rintro ⟨m, answers, same⟩
    exact ⟨m, answers.mono _, same⟩

theorem refuse (sourced : Sourced t log) (accounted : Accounted t log) (p : ProtocolName)
    (r : Request) :
    Sourced { t with
      sequencer := (t.draw r).2
      pending := Function.update t.pending p (Table.erase (t.pending p) (t.draw r).1)
      exchanges := Traffic.concluded
        (Traffic.superseded (t.exchanges ++ [.waiting]) (Table.at? (t.pending p) (t.draw r).1))
        t.exchanges.length .dropped } (log ++ .drew (t.draw r).1 :: t.round p (t.draw r).1) := by
  have silent (q : ProtocolName) (m : Message) :
      .crossed q m ∉ .drew (t.draw r).1 :: t.round p (t.draw r).1 := fun member => by
    rcases Traffic.mem_refused member with drew | round
    · cases drew
    · cases (Traffic.mem_round round).1
  refine ⟨fun a member waits once => ?_, fun key reply held => ?_, fun a member once x outcome => ?_⟩
  · have still : Table.at? (t.pending a.protocol) a.sequence = some a.ticket := by
      rw [Traffic.at?_refused] at waits
      split at waits
      · cases waits
      · exact waits
    have traced := (sourced.traced a (Traffic.accepted_before member) still fun old =>
      once (List.mem_append_left _ old)).same silent
    exact ⟨traced.asked, traced.hops, traced.waits⟩
  · obtain ⟨q, crossed, rest⟩ := sourced.cached key reply held
    exact ⟨q, List.mem_append_left _ crossed, rest⟩
  · exact sourced.ended_old accounted (t.supersedes_refused p r) (Traffic.accepted_before member)
      (fun old => once (List.mem_append_left _ old)) outcome

theorem free_number (balanced : Balanced t log) (running : t.phase = .running) {p : ProtocolName}
    {s : Sequence} (once : .cameRound p s ∉ log) (free : Table.at? (t.pending p) s = none) :
    t.queued p s = 0 ∧ (∀ hop ∈ t.hops, hop.load p s = 0) ∧
      ∀ key, t.interconnection.subscriptions.waits key p s = 0 := by
  have none := balanced.within (Or.inr running) p s once
  unfold Traffic.waiting Traffic.held at none
  rw [free] at none
  simp only [Option.isSome_none, Bool.false_eq_true, ↓reduceIte] at none
  refine ⟨by omega, fun hop member => ?_, fun key => ?_⟩
  · have some := le_total (·.load p s) member
    change _ ≤ total _ t.hops at some
    omega
  · have some := t.interconnection.subscriptions.waits_le_registered key p s
    omega

theorem traced_new (balanced : Balanced t log) (running : t.phase = .running) {a : Acceptance}
    (once : .cameRound a.protocol a.sequence ∉ log)
    (free : Table.at? (t.pending a.protocol) a.sequence = none) (q : Sequencer) (notes : List Note) :
    Traced { t.accepting a with sequencer := q } notes a := by
  obtain ⟨queued, hops, records⟩ := free_number balanced running once free
  constructor
  case asked =>
    intro r member number
    rcases Traffic.asked_accepting (t := t) (a := a) member with old | ⟨_, same⟩
    · have some : 0 < t.queued a.protocol a.sequence :=
        List.countP_pos_iff.mpr ⟨r, old, beq_iff_eq.mpr number⟩
      omega
    · exact same
  case hops => exact fun hop member load => absurd (hops hop member) load
  case waits => exact fun key on => absurd (records key) on

theorem traced_beside {a b : Acceptance} (traced : Traced t log b)
    (other : ¬(b.protocol = a.protocol ∧ a.sequence = b.sequence)) (q : Sequencer) :
    Traced { t.accepting a with sequencer := q } log b := by
  refine ⟨fun r member number => ?_, traced.hops, traced.waits⟩
  rcases Traffic.asked_accepting (t := t) (a := a) member with before | ⟨same, rfl⟩
  · exact traced.asked r before number
  · exact absurd ⟨same, number⟩ other

theorem accept (sourced : Sourced t log) (accounted : Accounted t log) (balanced : Balanced t log)
    {a : Acceptance} (running : t.phase = .running) (new : a.ticket = t.exchanges.length)
    (q : Sequencer) :
    Sourced { t.accepting a with sequencer := q }
      (log ++ (.drew a.sequence :: t.round a.protocol a.sequence ++ [.accepted a])) := by
  have silent (q : ProtocolName) (m : Message) :
      .crossed q m ∉ .drew a.sequence :: t.round a.protocol a.sequence ++ [.accepted a] :=
    fun member => by
      rcases Traffic.mem_accepted member with drew | round | last
      · cases drew
      · cases (Traffic.mem_round round).1
      · cases last
  have early {b : Acceptance} (member : .accepted b ∈ log) : b.ticket < t.exchanges.length :=
    accounted.issued b member
  refine ⟨fun b member waits once => ?_, fun key reply held => ?_, fun b member once x outcome => ?_⟩
  · change Table.at? ((t.accepting a).pending b.protocol) b.sequence = _ at waits
    rw [Traffic.at?_accepting] at waits
    by_cases mine : b.protocol = a.protocol ∧ a.sequence = b.sequence
    -- The new ticket is nobody else's, so this is the new request, and its number is free.
    · rw [if_pos mine] at waits
      have same : b = a := (Traffic.accepted_or_new member).resolve_left fun old =>
        absurd (early old) (Option.some.inj waits ▸ new ▸ Nat.lt_irrefl _)
      subst same
      have free : Table.at? (t.pending b.protocol) b.sequence = none :=
        Traffic.absent_of_fresh fun round =>
          once (List.mem_append_right _ (List.mem_append_left _ (List.mem_cons_of_mem _ round)))
      exact traced_new balanced running (fun old => once (List.mem_append_left _ old)) free q _
    · rw [if_neg mine] at waits
      have old : .accepted b ∈ log := (Traffic.accepted_or_new member).resolve_right fun same =>
        mine (by
          rw [same]
          exact ⟨rfl, rfl⟩)
      have traced := sourced.traced b old waits fun old => once (List.mem_append_left _ old)
      exact traced_beside (traced.same silent) mine q
  · obtain ⟨q, crossed, rest⟩ := sourced.cached key reply held
    exact ⟨q, List.mem_append_left _ crossed, rest⟩
  · rcases Traffic.accepted_or_new member with old | rfl
    · exact sourced.ended_old accounted (t.supersedes_accepted a q) old
        (fun old => once (List.mem_append_left _ old)) outcome
    · cases (accounted.fresh new).symm.trans outcome

theorem resolve (sourced : Sourced t log) (accounted : Accounted t log) {before after : List Hop}
    {m : Message} {p : ProtocolName} {l : ReplyTo} {hops : Nat}
    (split : t.hops = before ++ ⟨.output, .manager, t.keys.answering m p l hops⟩ :: after)
    (answer : m.isReplyLike = true) :
    Sourced ((receipts l).foldl (·.resolve m) { t with hops := before ++ after })
      (log ++ t.missed m (receipts l)) := by
  have left : Sourced { t with hops := before ++ after } log := by
    have framed : Sourced { t with hops := before ++ after } (log ++ []) := sourced.frame rfl rfl
      (fun a => List.not_mem_nil) (fun _ _ held => Or.inl held) fun a traced =>
        ⟨traced.asked, fun hop member load =>
          (traced.hops hop (split ▸ Traffic.mem_left member) load).mono [], fun key on =>
          (traced.waits key on).later fun q m member => nomatch member⟩
    rw [List.append_nil] at framed
    exact framed
  have record : Accounted { t with hops := before ++ after } log := by
    have framed : Accounted { t with hops := before ++ after } (log ++ []) := accounted.frame rfl rfl
      id (fun a => List.not_mem_nil) (fun q s => List.not_mem_nil)
    rw [List.append_nil] at framed
    exact framed
  have resolved := left.resolveAll record answer (receipts l) fun x receipt a member waits once => by
    obtain ⟨protocol, number⟩ := accounted.owner member waits
    have traced := sourced.traced a member (protocol ▸ number ▸ waits) once
    have load : listed l a.protocol a.sequence ≠ 0 := by
      rw [← count_receipts, protocol, number]
      exact Nat.ne_of_gt (List.count_pos_iff.mpr receipt)
    exact (fits_iff answer).mp (traced.taken split load)
  refine resolved.frame rfl rfl (fun a member => ?_) (fun _ _ held => Or.inl held)
    fun a traced => traced.same fun q m' member => ?_
  · obtain ⟨_, _, same⟩ := Traffic.mem_missed member
    cases same
  · obtain ⟨_, _, same⟩ := Traffic.mem_missed member
    cases same

theorem stop (sourced : Sourced t log) {exchanges : List Exchange}
    (drops : Traffic.Drops t.exchanges exchanges) :
    Sourced { t with phase := .stopped, pending := fun _ => [], exchanges := exchanges } log where
  traced _ _ waits := nomatch waits
  cached := sourced.cached
  ended a member once x outcome := by
    rcases drops a.ticket with same | ⟨_, dropped⟩
    · exact sourced.ended a member once x (same ▸ outcome)
    · cases outcome.symm.trans dropped
      exact Or.inl rfl

theorem abandon (sourced : Sourced t log) {k : Ticket} (waiting : t.exchanges[k]? = some .waiting) :
    Sourced { t with exchanges := t.exchanges.set k .abandoned } log where
  traced a member waits once := by
    have traced := sourced.traced a member waits once
    exact ⟨traced.asked, traced.hops, traced.waits⟩
  cached := sourced.cached
  ended a member once x outcome := by
    change (t.exchanges.set k .abandoned)[a.ticket]? = _ at outcome
    refine sourced.ended a member once x ?_
    by_cases same : k = a.ticket
    · obtain ⟨bound, _⟩ := List.getElem?_eq_some_iff.mp waiting
      rw [← same, List.getElem?_set_self bound] at outcome
      cases outcome
    · rw [List.getElem?_set_ne same] at outcome
      exact outcome

theorem arrive (sourced : Sourced t log) (p : ProtocolName) (m : Message) :
    Sourced { t with
      hops := t.onward t.hops (some ⟨.manager, .interconnection, t.keys.wrap m p⟩) }
      (log ++ []) := by
  refine sourced.frame rfl rfl (fun a => List.not_mem_nil) (fun _ _ held => Or.inl held)
    fun a traced => ⟨traced.asked, fun hop member load => ?_, fun key on =>
      (traced.waits key on).later fun q m member => nomatch member⟩
  rcases Traffic.mem_onward (show hop ∈ t.onward t.hops (some _) from member) with old | new
  · exact (traced.hops hop old load).mono []
  · cases new
    exact absurd rfl load

theorem take (sourced : Sourced t log) {before after : List Hop} {r : Request} {q : ProtocolName}
    {ic : Interconnection} {out : Option Hop}
    (split : t.hops = before ++ ⟨.input, .interconnection, t.keys.asking r q 1⟩ :: after)
    (takes : Interconnection.Takes t.keys t.interconnection r q ic out) :
    Sourced { t with interconnection := ic, hops := t.onward (before ++ after) out }
      (log ++ [.crossed q (.request r)]) := by
  refine sourced.frame rfl rfl (fun a member => ?_) (fun key reply held => Or.inl ?_)
    fun a traced => traced.takes split takes sourced.cached
  · cases List.mem_singleton.mp member
  · cases takes with
    | refused | cached | acknowledged => exact held
    | enrolled uri subscriptions cache n out named more alone less next => exact less key reply held

theorem hear (sourced : Sourced t log) {before after : List Hop} {m : Message} {q : ProtocolName}
    {ic : Interconnection} {result : StageResult}
    (split : t.hops = before ++ ⟨.manager, .interconnection, t.keys.wrap m q⟩ :: after)
    (hears : Interconnection.Hears t.keys t.interconnection m q ic result) :
    Sourced { t with
      interconnection := ic
      hops := t.onward (before ++ after) (Traffic.sent result) }
      (log ++ .crossed q m :: Gateway.breakNotes result) := by
  refine sourced.frame rfl rfl (fun a member => ?_) (fun key reply held => ?_)
    fun a traced => traced.hears split hears
  · rcases List.mem_cons.mp member with crossed | broken
    · cases crossed
    · cases mem_breakNotes broken
  · cases hears with
    | unreadable | unmatched => exact Or.inl held
    | brokenOff key' subscriptions cache l about drained less => exact Or.inl (less key reply held)
    | matched key' subscriptions cache l about drained stored receivers =>
      rcases stored key reply held with old | ⟨rfl, rfl, operation⟩
      · exact Or.inl old
      · exact Or.inr ⟨q, List.mem_cons_self, about, operation⟩

theorem step (sourced : Sourced t log) (accounted : Accounted t log)
    (balanced : Balanced t log) (step : t.Step notes t') : Sourced t' (log ++ notes) := by
  cases step with
  | refused p r running => exact sourced.refuse accounted p r
  | accepted a running number nonzero new => exact sourced.accept accounted balanced running new _
  | entered p r rest queue =>
    exact sourced.frame rfl rfl (fun a => List.not_mem_nil) (fun _ _ held => Or.inl held)
      fun a traced => traced.enter queue
  | arrived p m => exact sourced.arrive p m
  | admitted before after r p sequenced split =>
    refine sourced.frame rfl rfl (fun a => List.not_mem_nil) (fun _ _ held => Or.inl held)
      fun a traced => traced.relay split fun hop sent load => ?_
    cases sent
    rw [Keyring.load_admitted] at load
    rw [Keyring.load_entering]
    exact ⟨load, rfl⟩
  | delivered before after r p target out split next =>
    refine sourced.frame rfl rfl (fun a => List.not_mem_nil) (fun _ _ held => Or.inl held)
      fun a traced => traced.relay split fun hop sent load => ?_
    rcases next with rfl | ⟨m, q, rfl⟩
    · cases sent
    · cases sent
      exact absurd rfl load
  | released before after m p l hops answer receivers early split =>
    refine sourced.frame rfl rfl (fun a => List.not_mem_nil) (fun _ _ held => Or.inl held)
      fun a traced => traced.relay split fun hop sent load => ?_
    cases sent
    exact ⟨load, rfl⟩
  | taken before after r q ic out split takes => exact sourced.take split takes
  | heard before after m q ic result split hears => exact sourced.hear split hears
  | resolved before after m p l hops split answer => exact sourced.resolve accounted split answer
  | stopped exchanges drops =>
    rw [List.append_nil]
    exact sourced.stop drops
  | abandoned k waiting =>
    rw [List.append_nil]
    exact sourced.abandon waiting
  -- What is left changes no hop and nothing on record.
  | drawn r running =>
    refine sourced.frame rfl rfl (fun a member => ?_) (fun _ _ held => Or.inl held) fun a traced => ?_
    · cases List.mem_singleton.mp member
    · have same : Traced t (log ++ [.drew (t.draw r).1]) a := traced.same fun q m member => by
        cases List.mem_singleton.mp member
      exact ⟨same.asked, same.hops, same.waits⟩
  | quiet | started | gone =>
    refine sourced.frame rfl rfl (fun a => List.not_mem_nil) (fun _ _ held => Or.inl held)
      fun a traced => ?_
    have same : Traced t (log ++ []) a := traced.same fun q m => List.not_mem_nil
    exact ⟨same.asked, same.hops, same.waits⟩

end Sourced

/-! Histories -/

theorem History.sourced (config : ManagerConfig) (cache : ReplyCache) (moves : List Move) :
    Sourced (run config cache.clear moves).gateway.traffic (run config cache.clear moves).log := by
  have empty : ∀ key reply, ¬cache.clear.Holds key reply := by
    intro key reply held
    cases cache with
    | off => exact held
    | memory m =>
      obtain ⟨e, member, _⟩ := held
      cases member
  exact (holds (P := fun t log => Numbered t log ∧ Accounted t log ∧ Balanced t log ∧ Sourced t log)
    ⟨numbered_new config cache.clear, .new config cache.clear, .new config cache.clear,
      .new config empty⟩
    (fun _ _ _ _ orderly ⟨numbered, accounted, balanced, sourced⟩ step =>
      ⟨numbered.step step, accounted.step numbered step, balanced.step orderly step,
        sourced.step accounted balanced step⟩) moves).2.2.2.2

end ProtocolGateway
