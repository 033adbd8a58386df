import Mathlib
import ProtocolGateway.Proofs.Gateway.Provenance
import ProtocolGateway.Proofs.Web.Scheme

/-!
What a request may be resolved by: which resource the message is about, and which operation it may
be of.
-/

namespace ProtocolGateway

/-- The interconnection stage took the message in, and its sender and route name the resource. A
sender that is the name of a scheme serves the resource then. -/
def Note.Hears (log : List Note) (uri : ResourceUri) (m : Message) : Prop :=
  ∃ q, .crossed q m ∈ log ∧ m.isAbout q uri.text ∧ (q.isScheme = true → uri.scheme = q.text)

/-- Nobody can speak of another protocol's resources. -/
theorem Message.isAbout_scheme {m : Message} {q : ProtocolName} {path : String} {uri : ResourceUri}
    (named : ResourceUri.parse path = .ok uri) (about : m.isAbout q uri.text)
    (valid : q.isScheme = true) : uri.scheme = q.text := by
  obtain ⟨_, given, parsed, text⟩ := about
  rw [← ResourceUri.ofParts_scheme valid parsed]
  exact ResourceUri.scheme_of_text (ResourceUri.parse_chars named) (ResourceUri.ofUrl_chars parsed)
    text.symm

theorem Note.hears_of_crossed {log : List Note} {q : ProtocolName} {m : Message} {path : String}
    {uri : ResourceUri} (named : ResourceUri.parse path = .ok uri) (crossed : .crossed q m ∈ log)
    (about : m.isAbout q uri.text) : Hears log uri m :=
  ⟨q, crossed, about, Message.isAbout_scheme named about⟩

namespace History

/-- An outcome that is not a drop is a message that answers the request, unless its number came
round, and that takes as many requests as a range has numbers. -/
theorem answered (config : ManagerConfig) (cache : ReplyCache) (moves : List Move) {a : Acceptance}
    {x : Resolution} (accepted : .accepted a ∈ (run config cache.clear moves).log)
    (ended : (run config cache.clear moves).gateway.exchanges[a.ticket]? = some (.resolved x)) :
    x = .dropped ∨
    (.cameRound a.protocol a.sequence ∈ (run config cache.clear moves).log ∧
      0x7FFFFFFF ≤ submissions a.sequence.isObserve moves) ∨
    ∃ m, Answers (run config cache.clear moves).log a m ∧ x = Gateway.resolutionOf m a.sequence := by
  by_cases once : .cameRound a.protocol a.sequence ∈ (run config cache.clear moves).log
  · have spent := (facts config cache.clear moves).2.2.spent _ _ once
    exact Or.inr (Or.inl ⟨once, spent.trans (drawn_le_submissions config cache.clear _ moves)⟩)
  · exact ((sourced config cache moves).ended a accepted once x ended).imp_right Or.inr

end History

/-- The outcome is about the request's own resource: a message that was heard about it, a copy from
the cache of one that was heard, or the acknowledgement made for the request. -/
def Resolution.IsOwn (log : List Note) (a : Acceptance) (uri : ResourceUri) (x : Resolution) : Prop :=
  ∃ m, x = Gateway.resolutionOf m a.sequence ∧
    (Note.Hears log uri m ∨
      (a.operation = .read ∧ ∃ hit, m = .reply (hit.retagged a.sequence) ∧
        Note.Hears log uri (.reply hit)) ∨
      (a.operation = .unobserve ∧ m = .reply (Reply.forRequest a.sealed [])))

open History in
/-- A request is resolved by what is about its own resource. A number that came round is the one
exception. -/
theorem outcomes_of_own_resource (config : ManagerConfig) (cache : ReplyCache) (moves : List Move)
    {a : Acceptance} {x : Resolution} {uri : ResourceUri}
    (accepted : .accepted a ∈ (run config cache.clear moves).log)
    (named : ResourceUri.parse a.path = .ok uri)
    (ended : (run config cache.clear moves).gateway.exchanges[a.ticket]? = some (.resolved x)) :
    x = .dropped ∨
    (.cameRound a.protocol a.sequence ∈ (run config cache.clear moves).log ∧
      0x7FFFFFFF ≤ submissions a.sequence.isObserve moves) ∨
    x.IsOwn (run config cache.clear moves).log a uri := by
  refine (answered config cache moves accepted ended).imp_right (Or.imp_right ?_)
  rintro ⟨m, answers, same⟩
  refine ⟨m, same, ?_⟩
  have only {uri' : ResourceUri} (also : ResourceUri.parse a.path = .ok uri') : uri' = uri := by
    rw [named] at also
    exact (Except.ok.inj also).symm
  cases answers with
  | heard uri' before between after q named' split about first =>
    cases only named'
    left
    refine Note.hears_of_crossed named ?_ about
    rw [split]
    exact List.mem_append_right _ List.mem_cons_self
  | cached uri' q hit named' reads copy crossed about kept =>
    cases only named'
    exact Or.inr (Or.inl ⟨reads, hit, copy, Note.hears_of_crossed named crossed about⟩)
  | acknowledged ends made => exact Or.inr (Or.inr ⟨ends, made⟩)
  | refused cause unreadable made =>
    rw [named] at unreadable
    cases unreadable

def inOrder (n : Nat) : List Move := List.replicate n (.event (.run 0))

def readFromMemory : List Move :=
  .register (.origin (.new (.of "app"))) ::
  .register (.target ((MemoryTarget.new (.of "coap")).insert "dev" "/temp" [21])) ::
  .start :: .event (.submit (.of "app") (.new .read "/coap/dev/temp")) :: inOrder 14

theorem read_of_own_resource :
    ∃ m, Resolution.reply (.notification .read "dev" "/temp" ⟨[21], none, none, some 1⟩) =
        Gateway.resolutionOf m 1 ∧
      (Note.Hears (History.run .standard .off readFromMemory).log ⟨"coap", "dev", "/temp", []⟩ m ∨
        ∃ hit, m = .reply (hit.retagged 1) ∧
          Note.Hears (History.run .standard .off readFromMemory).log ⟨"coap", "dev", "/temp", []⟩
            (.reply hit)) := by
  have accepted : .accepted ⟨.of "app", .new .read "/coap/dev/temp", 1, 0⟩ ∈
      (History.run .standard .off readFromMemory).log := by decide +kernel
  have named : ResourceUri.parse "/coap/dev/temp" = .ok ⟨"coap", "dev", "/temp", []⟩ := by
    decide +kernel
  have ended : (History.run .standard .off readFromMemory).gateway.exchanges[0]? =
      some (.resolved (.reply (.notification .read "dev" "/temp" ⟨[21], none, none, some 1⟩))) := by
    decide +kernel
  rcases outcomes_of_own_resource .standard .off readFromMemory accepted named ended with
    dropped | ⟨_, many⟩ | ⟨m, same, hears | ⟨_, hit⟩ | ⟨ends, _⟩⟩
  · cases dropped
  · exact absurd many (by decide)
  · exact ⟨m, same, Or.inl hears⟩
  · exact ⟨m, same, Or.inr hit⟩
  · cases ends

/-! Numbers that come round -/

theorem Sequencer.next_round {s o : Sequence} {n : Nat} (rest : s.toNat + n = 0x7FFFFFFF) :
    (fun q => (Sequencer.next q .read).2)^[n + 1] ⟨s, o⟩ = ⟨1, o⟩ := by
  have one (s : Sequence) : (Sequencer.next ⟨s, o⟩ .read).2 = ⟨advance false s, o⟩ := rfl
  induction n generalizing s with
  | zero =>
    have last : s ≥ Sequence.normalEnd := by
      rw [ge_iff_le, UInt32.le_iff_toNat_le]
      exact Nat.le_of_eq rest.symm
    rw [Function.iterate_succ_apply, one]
    unfold advance Sequence.following
    simp only [Bool.false_eq_true, ↓reduceIte, last]
    rfl
  | succ n ih =>
    have early : s.toNat < start false + 0x7FFFFFFE := by
      simp only [start, Bool.false_eq_true, ↓reduceIte]
      omega
    rw [Function.iterate_succ_apply, one]
    apply ih
    rw [toNat_advance_early early]
    omega

/-- A request that has its number already uses one up, and nothing else changes. -/
theorem Gateway.submit_sequenced {g : Gateway} (running : g.phase = .running) (p : ProtocolName)
    {r : Request} (sequenced : r.isSequenced = true) :
    (g.submit p r).1 = { g with sequencer := (g.sequencer.next r.headers.operation).2 } := by
  simp only [submit, admission, running, Request.assignSequence, sequenced, ↓reduceIte]

theorem Gateway.notes_sequenced {g : Gateway} (running : g.phase = .running) (p : ProtocolName)
    {r : Request} (sequenced : r.isSequenced = true) :
    g.notes (.event (.submit p r)) = [.drew (g.sequencer.next r.headers.operation).1] := by
  simp only [notes, submitNotes, admission, running, Request.assignSequence, sequenced, ↓reduceIte]

namespace History

/-- What a run notes from here on depends on the gateway alone. -/
theorem log_foldl (h : History) (moves : List Move) :
    (moves.foldl next h).log = h.log ++ (moves.foldl next ⟨h.gateway, []⟩).log := by
  induction moves generalizing h with
  | nil => exact (List.append_nil _).symm
  | cons m rest ih =>
    rw [List.foldl_cons, List.foldl_cons, ih, ih (next ⟨h.gateway, []⟩ m)]
    exact List.append_assoc _ _ _

theorem gateway_foldl (h : History) (moves : List Move) :
    (moves.foldl next h).gateway = moves.foldl Gateway.move h.gateway := by
  induction moves generalizing h with
  | nil => rfl
  | cons m rest ih => exact ih (h.next m)

variable {config : ManagerConfig} {cache : ReplyCache}

theorem gateway_append (before after : List Move) :
    (run config cache (before ++ after)).gateway =
      after.foldl Gateway.move (run config cache before).gateway := by
  unfold run
  rw [List.foldl_append, gateway_foldl]

theorem log_append (before after : List Move) :
    (run config cache (before ++ after)).log = (run config cache before).log ++
      (after.foldl next ⟨(run config cache before).gateway, []⟩).log := by
  unfold run
  rw [List.foldl_append, log_foldl]

theorem sequenced_often {g : Gateway} (running : g.phase = .running) (p : ProtocolName) {r : Request}
    (sequenced : r.isSequenced = true) (n : Nat) :
    let h := (List.replicate n (.event (.submit p r))).foldl next ⟨g, []⟩
    h.gateway = { g with sequencer := (fun q => (q.next r.headers.operation).2)^[n] g.sequencer } ∧
      ∀ note ∈ h.log, ∃ s, note = .drew s := by
  induction n generalizing g with
  | zero => exact ⟨rfl, fun note member => nomatch member⟩
  | succ n ih =>
    -- the request is refused after its number has been drawn
    have first : next ⟨g, []⟩ (.event (.submit p r)) =
        ⟨{ g with sequencer := (g.sequencer.next r.headers.operation).2 },
          [.drew (g.sequencer.next r.headers.operation).1]⟩ := by
      rw [next, Gateway.notes_sequenced running p sequenced]
      exact congrArg (History.mk · _) (Gateway.submit_sequenced running p sequenced)
    obtain ⟨gateway, drew⟩ :=
      ih (g := { g with sequencer := (g.sequencer.next r.headers.operation).2 }) running
    dsimp only
    rw [List.replicate_succ, List.foldl_cons, first, Function.iterate_succ_apply, log_foldl]
    refine ⟨?_, fun note member => ?_⟩
    · rw [gateway_foldl] at gateway ⊢
      exact gateway
    · rcases List.mem_append.mp member with now | later
      · exact ⟨_, List.mem_singleton.mp now⟩
      · exact drew note later

end History

def Move.isNamed : Move → Bool
  | .register plugin => plugin.protocol.isScheme
  | _ => true

def Note.repliesFrom (p : ProtocolName) : Note → Bool
  | .crossed q (.reply _) => q = p
  | _ => true

def holding (p : ProtocolName) : Plugin := .scripted ⟨p, .empty, true, false, none, none, false, [], []⟩

def readUnanswered : List Move :=
  [.register (.origin (.new (.of "app"))), .register (holding (.of "coap")),
    .register (holding (.of "mqtt")), .start,
    .event (.submit (.of "app") (.new .read "/coap/dev/a"))] ++ inOrder 5

def numbered : Request := { Request.new .read "" with sequence := 1 }

def otherNumbers : List Move := List.replicate (0x7FFFFFFD + 1) (.event (.submit (.of "app") numbered))

/-- A READ of another protocol's resource, and then the answer to the first one. -/
def secondRead : List Move :=
  .event (.submit (.of "app") (.new .read "/mqtt/hub/b")) :: inOrder 5 ++
    .event (.reply (.of "coap") (.reply (.notification .read "dev" "/a" ⟨[21], none, none, some 1⟩))) ::
      inOrder 4

/-- Where the second READ finds the gateway: the first one still waits, and its number is the next. -/
def roundComplete : Gateway :=
  { (History.run .standard .off readUnanswered).gateway with sequencer := ⟨1, 0x80000000⟩ }

theorem roundComplete_reached :
    (History.run .standard .off (readUnanswered ++ otherNumbers)).gateway = roundComplete ∧
      ∀ note ∈ (otherNumbers.foldl History.next
        ⟨(History.run .standard .off readUnanswered).gateway, []⟩).log, ∃ s, note = .drew s := by
  have running : (History.run .standard .off readUnanswered).gateway.phase = .running := by
    decide +kernel
  have next : (History.run .standard .off readUnanswered).gateway.sequencer = ⟨2, 0x80000000⟩ := by
    decide +kernel
  obtain ⟨gateway, drew⟩ :=
    History.sequenced_often running (.of "app") (r := numbered) rfl (0x7FFFFFFD + 1)
  refine ⟨?_, drew⟩
  rw [History.gateway_foldl, next] at gateway
  rw [History.gateway_append]
  exact gateway.trans (congrArg
    (fun q => { (History.run .standard .off readUnanswered).gateway with sequencer := q })
    (Sequencer.next_round (s := 2) (o := 0x80000000) (n := 0x7FFFFFFD) rfl))

def pastRound : List Move := (readUnanswered ++ otherNumbers) ++ secondRead

theorem pastRound_log :
    (History.run .standard .off pastRound).log =
      (History.run .standard .off (readUnanswered ++ otherNumbers)).log ++
        (secondRead.foldl History.next ⟨roundComplete, []⟩).log := by
  unfold pastRound
  rw [History.log_append, roundComplete_reached.1]

theorem pastRound_repliesFrom {note : Note} (noted : note ∈ (History.run .standard .off pastRound).log) :
    note.repliesFrom (.of "coap") = true := by
  -- Two short stretches are looked through; the long one between them notes draws alone.
  rw [pastRound_log, History.log_append] at noted
  rcases List.mem_append.mp noted with before | after
  · rcases List.mem_append.mp before with first | between
    · have all : (History.run .standard .off readUnanswered).log.all (Note.repliesFrom (.of "coap")) =
          true := by decide +kernel
      exact List.all_eq_true.mp all note first
    · obtain ⟨s, rfl⟩ := roundComplete_reached.2 note between
      rfl
  · have all : (secondRead.foldl History.next ⟨roundComplete, []⟩).log.all
        (Note.repliesFrom (.of "coap")) = true := by decide +kernel
    exact List.all_eq_true.mp all note after

theorem pastRound_not_hears (authority path : String) (query : List (String × String)) (r : Reply) :
    ¬Note.Hears (History.run .standard .off pastRound).log ⟨"mqtt", authority, path, query⟩
      (.reply r) := by
  rintro ⟨q, crossed, -, scheme⟩
  have coap : q = .of "coap" := of_decide_eq_true (pastRound_repliesFrom crossed)
  rw [coap] at scheme
  have same : "mqtt" = "coap" := scheme (by decide)
  exact absurd same (by decide)

/-- A request is resolved by an answer about another protocol's resource when its number came round
while the older request still waited. -/
theorem answered_past_round :
    ¬∀ (config : ManagerConfig) (cache : ReplyCache) (moves : List Move) (a : Acceptance)
        (x : Resolution) (uri : ResourceUri),
      moves.all Move.isNamed = true →
      .accepted a ∈ (History.run config cache.clear moves).log →
      ResourceUri.parse a.path = .ok uri →
      (History.run config cache.clear moves).gateway.exchanges[a.ticket]? = some (.resolved x) →
      x = .dropped ∨ x.IsOwn (History.run config cache.clear moves).log a uri := by
  intro always
  have own := always .standard .off pastRound
  rw [show ReplyCache.off.clear = .off from rfl] at own
  have named : pastRound.all Move.isNamed = true := by
    unfold pastRound otherNumbers
    rw [List.all_append, List.all_append, List.all_replicate]
    decide +kernel
  have accepted : .accepted ⟨.of "app", .new .read "/mqtt/hub/b", 1, 1⟩ ∈
      (History.run .standard .off pastRound).log := by
    rw [pastRound_log]
    refine List.mem_append_right _ ?_
    decide +kernel
  -- The one-shot that the first READ left on record goes by the number that both share.
  have ended : (History.run .standard .off pastRound).gateway.exchanges[1]? =
      some (.resolved (.reply (.notification .read "dev" "/a" ⟨[21], none, none, some 1⟩))) := by
    unfold pastRound
    rw [History.gateway_append, roundComplete_reached.1]
    decide +kernel
  have parsed : ResourceUri.parse "/mqtt/hub/b" = .ok ⟨"mqtt", "hub", "/b", []⟩ := by decide +kernel
  rcases own _ _ _ named accepted parsed ended with
    dropped | ⟨m, same, hears | ⟨_, hit, _, hears⟩ | ⟨ends, _⟩⟩
  · cases dropped
  · cases m with
    | request r | error e => cases same
    | reply r => exact pastRound_not_hears _ _ _ r hears
  · exact pastRound_not_hears _ _ _ hit hears
  · cases ends

/-! Operations -/

/-- READ and OBSERVE ask for a value, which either brings; each of the others asks for its own end. -/
def Operation.isAnsweredBy (asked given : Operation) : Bool :=
  match asked with
  | .read | .observe => given = .read ∨ given = .observe
  | _ => given = asked

def Resolution.operation? : Resolution → Option Operation
  | .reply r => some r.headers.operation
  | .error e => some e.headers.operation
  | .dropped => none

def Note.First (log : List Note) (a : Acceptance) (uri : ResourceUri) (m : Message) : Prop :=
  ∃ (q : ProtocolName) (before between after : List Note),
    log = before ++ .crossed a.protocol (.request a.sealed) :: between ++ .crossed q m :: after ∧
      m.isAbout q uri.text ∧ ∀ q' m', .crossed q' m' ∈ between → ¬m'.isAbout q' uri.text

open History in
/-- A request is resolved by the first answer about its resource, whatever operation this is of. Only
what the gateway makes by itself fits the operation that was asked for. -/
theorem outcomes_of_first_answer (config : ManagerConfig) (cache : ReplyCache) (moves : List Move)
    {a : Acceptance} {x : Resolution}
    (accepted : .accepted a ∈ (run config cache.clear moves).log)
    (ended : (run config cache.clear moves).gateway.exchanges[a.ticket]? = some (.resolved x)) :
    x = .dropped ∨
    (.cameRound a.protocol a.sequence ∈ (run config cache.clear moves).log ∧
      0x7FFFFFFF ≤ submissions a.sequence.isObserve moves) ∨
    ∃ m, x = Gateway.resolutionOf m a.sequence ∧
      ((∃ uri, ResourceUri.parse a.path = .ok uri ∧
          Note.First (run config cache.clear moves).log a uri m) ∨
        (a.operation.isAnsweredBy m.headers.operation = true ∧
          ((a.operation = .read ∧ ∃ uri hit, ResourceUri.parse a.path = .ok uri ∧
              m = .reply (hit.retagged a.sequence) ∧
              Note.Hears (run config cache.clear moves).log uri (.reply hit)) ∨
            (a.operation = .unobserve ∧ m = .reply (Reply.forRequest a.sealed [])) ∨
            ∃ cause, ResourceUri.parse a.path = .error cause ∧
              m = .error (a.sealed.refusal cause)))) := by
  refine (answered config cache moves accepted ended).imp_right (Or.imp_right ?_)
  rintro ⟨m, answers, same⟩
  refine ⟨m, same, ?_⟩
  cases answers with
  | heard uri before between after q named split about first =>
    exact Or.inl ⟨uri, named, q, before, between, after, split, about, first⟩
  | cached uri q hit named reads copy crossed about kept =>
    refine Or.inr ⟨?_, Or.inl ⟨reads, uri, hit, named, copy, Note.hears_of_crossed named crossed about⟩⟩
    rw [reads, copy]
    exact decide_eq_true kept
  | acknowledged ends made =>
    refine Or.inr ⟨?_, Or.inr (Or.inl ⟨ends, made⟩)⟩
    rw [made]
    change a.operation.isAnsweredBy a.operation = true
    rw [ends]
    rfl
  | refused cause unreadable made =>
    refine Or.inr ⟨?_, Or.inr (Or.inr ⟨cause, unreadable, made⟩)⟩
    rw [made]
    change a.operation.isAnsweredBy a.operation = true
    cases a.operation <;> rfl

/-- A target tells of a change before it acknowledges the UPDATE that made it, and a READ comes in
between. -/
def overlap : List Move :=
  List.flatten [
    [.register (.origin (.new (.of "app"))),
      .register (.scripted ⟨.of "coap", .empty, true, false, none, none, false, [], []⟩), .start,
      .event (.submit (.of "app") (.new .update "/coap/dev/temp"))],
    inOrder 5,
    [.event (.reply (.of "coap") (.reply (MemoryTarget.notification "dev" "/temp" [22])))],
    inOrder 4,
    [.event (.submit (.of "app") (.new .read "/coap/dev/temp"))],
    inOrder 5,
    [.event (.reply (.of "coap")
      (.reply (.notification .update "dev" "/temp" ⟨[], none, none, some 1⟩)))],
    inOrder 4]

theorem overlap_read :
    .accepted ⟨.of "app", .new .read "/coap/dev/temp", 2, 1⟩ ∈
        (History.run .standard .off overlap).log ∧
      (History.run .standard .off overlap).gateway.exchanges[1]? =
        some (.resolved (.reply (.notification .update "dev" "/temp" ⟨[], none, none, some 2⟩))) := by
  decide +kernel

theorem overlap_update :
    .accepted ⟨.of "app", .new .update "/coap/dev/temp", 1, 0⟩ ∈
        (History.run .standard .off overlap).log ∧
      (History.run .standard .off overlap).gateway.exchanges[0]? =
        some (.resolved (.reply (.notification .observe "dev" "/temp" ⟨[22], none, none, some 1⟩))) := by
  decide +kernel

theorem read_of_first_answer :
    ∃ m, Resolution.reply (.notification .update "dev" "/temp" ⟨[], none, none, some 2⟩) =
        Gateway.resolutionOf m 2 ∧
      ∃ uri, ResourceUri.parse "/coap/dev/temp" = .ok uri ∧
        Note.First (History.run .standard .off overlap).log
          ⟨.of "app", .new .read "/coap/dev/temp", 2, 1⟩ uri m := by
  obtain ⟨accepted, ended⟩ := overlap_read
  rcases outcomes_of_first_answer .standard .off overlap accepted ended with
    dropped | ⟨_, many⟩ | ⟨m, same, first | ⟨fits, _⟩⟩
  · cases dropped
  · exact absurd many (by decide)
  · exact ⟨m, same, first⟩
  · cases m with
    | request r | error e => cases same
    | reply r =>
      have other : Operation.update = r.headers.operation :=
        Option.some.inj (congrArg Resolution.operation? same)
      change Operation.isAnsweredBy .read r.headers.operation = true at fits
      rw [← other] at fits
      cases fits

/-- The READ gets the acknowledgement of the UPDATE, and the UPDATE the notification. -/
theorem outcomes_of_other_operations :
    (¬∀ config cache moves a x o, .accepted a ∈ (History.run config cache moves).log →
      (History.run config cache moves).gateway.exchanges[a.ticket]? = some (.resolved x) →
      x.operation? = some o → a.operation = .read ∨ a.operation = .observe →
      a.operation.isAnsweredBy o = true) ∧
    (¬∀ config cache moves a x o, .accepted a ∈ (History.run config cache moves).log →
      (History.run config cache moves).gateway.exchanges[a.ticket]? = some (.resolved x) →
      x.operation? = some o → a.operation ≠ .read ∧ a.operation ≠ .observe →
      a.operation.isAnsweredBy o = true) := by
  constructor
  · intro fits
    obtain ⟨accepted, ended⟩ := overlap_read
    have read := fits .standard .off overlap _ _ .update accepted ended rfl (Or.inl rfl)
    cases read
  · intro fits
    obtain ⟨accepted, ended⟩ := overlap_update
    have update := fits .standard .off overlap _ _ .observe accepted ended rfl (by decide)
    cases update

end ProtocolGateway
