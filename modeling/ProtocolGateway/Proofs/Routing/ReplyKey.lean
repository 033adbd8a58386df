import Mathlib
import ProtocolGateway.Proofs.CanonicalUri
import ProtocolGateway.Proofs.Routing.Waiting
import ProtocolGateway.Routing.Keyring
import ProtocolGateway.Routing.Stages

/-!
The keys of requests and of answers. A request is put on record under the name that its path has, and
goes on with a rewritten route. An answer with this route is about the same name.
-/

namespace ProtocolGateway

open Web.Url

/-! Records -/

theorem Subscribers.mem_add (ss : Subscribers) (p : ProtocolName) (s : Subscriber) :
    s ∈ (ss.add p s).of p := by
  unfold add of
  rw [Table.at?_put, if_pos rfl]
  split
  · rename_i known
    exact List.contains_iff_mem.mp known
  · exact List.mem_append_right _ (List.mem_singleton.mpr rfl)

def Subscriptions.Awaits (r : Subscriptions) (key : String) (p : ProtocolName) (s : Sequence) : Prop :=
  Subscriber.once s ∈ (r.under key).of p

theorem Subscriptions.awaits_store (r : Subscriptions) (key : String) (ss : Subscribers)
    (p : ProtocolName) (s : Sequence) : (r.store key (ss.add p (.once s))).Awaits key p s := by
  unfold Awaits
  rw [under_store, if_pos rfl]
  exact ss.mem_add p (.once s)

namespace Interconnection

/-! Hops -/

theorem write_ok {e e' : Envelope} {t : Token} {v : FieldValue}
    (written : guarded (e.write t v) = .ok e') : e' = e.put v := by
  unfold Envelope.write at written
  cases check : e.check t v.field with
  | error cause =>
    rw [check] at written
    cases written
  | ok _ =>
    rw [check] at written
    cases written
    rfl

theorem route_ok {token : Token} {e : Envelope} {r : Request} {uri : ResourceUri} {hop : Hop}
    (routed : route token e r uri = .ok (some hop)) :
    hop.envelope.content = .request (r.rerouted uri.authority uri.pathAndQuery) ∧
      hop.envelope.targetProtocol = some (.of uri.scheme) := by
  unfold route at routed
  simp only [bind, Except.bind] at routed
  split at routed
  · cases routed
  · rename_i e' first
    split at routed
    · cases routed
    · rename_i e'' second
      cases routed
      rw [write_ok second, write_ok first]
      exact ⟨rfl, rfl⟩

theorem answer_ok {token : Token} {e : Envelope} {m : Message} {p : ProtocolName} {s : Sequence}
    {hop : Hop} (turned : answer token e m p s = .ok (some hop)) : hop.target = .output := by
  unfold answer at turned
  simp only [bind, Except.bind] at turned
  split at turned
  · cases turned
  · split at turned
    · cases turned
    · cases turned
      rfl

theorem resolved_onward {ic ic' : Interconnection} {now : Instant} {e : Envelope} {r : Request}
    {p : ProtocolName} {uri : ResourceUri} {hop : Hop}
    (taken : ic.resolved now e r p uri = (ic', .ok (some hop))) (onward : hop.target = .manager) :
    ic'.subscriptions.Awaits uri.text p r.sequence ∧ route ic.token e r uri = .ok (some hop) := by
  -- A turned answer goes to the output stage, so it is not the hop that goes on.
  have back {m : Message} {s : Sequence} (turned : answer ic.token e m p s = .ok (some hop)) : False := by
    rw [answer_ok turned] at onward
    cases onward
  unfold resolved at taken
  dsimp only at taken
  cases operation : r.headers.operation with
  | read =>
    simp only [operation] at taken
    split at taken
    · exact (back (Prod.mk.inj taken).2).elim
    · obtain ⟨rfl, sent⟩ := Prod.mk.inj taken
      exact ⟨Subscriptions.awaits_store _ _ _ p r.sequence, sent⟩
  | observe =>
    simp only [operation] at taken
    obtain ⟨rfl, sent⟩ := Prod.mk.inj taken
    split at sent
    · cases sent
    · exact ⟨Subscriptions.awaits_store _ _ _ p r.sequence, sent⟩
  | unobserve =>
    simp only [operation] at taken
    obtain ⟨rfl, sent⟩ := Prod.mk.inj taken
    split at sent
    · exact (back sent).elim
    · rename_i none
      refine ⟨?_, sent⟩
      have empty : (((ic.subscriptions.under uri.text).remove p .standing)).observers = 0 :=
        Nat.eq_zero_of_not_pos none
      dsimp only [Subscriptions.unobserve]
      rw [if_pos empty]
      exact Subscriptions.awaits_store _ _ _ p r.sequence
  | create | update | delete =>
    simp only [operation] at taken
    obtain ⟨rfl, sent⟩ := Prod.mk.inj taken
    exact ⟨Subscriptions.awaits_store _ _ _ p r.sequence, sent⟩

/-! Answers -/

/-- An answer, from the protocol that a request was routed to, with the route of this request. -/
structure CopiesRoute (token : Token) (routed answer : Envelope) (m : Message) : Prop where
  message : answer.message token = .ok m
  answers : m.isReplyLike = true
  sender : answer.source token = .ok routed.targetProtocol
  target : m.headers.target = routed.content.headers.target
  path : m.headers.path = routed.content.headers.path

theorem readAnswer_copied {token : Token} {routed answer : Envelope} {m : Message}
    {r : Request} {uri : ResourceUri}
    (content : routed.content = .request (r.rerouted uri.authority uri.pathAndQuery))
    (target : routed.targetProtocol = some (.of uri.scheme))
    (again : ResourceUri.ofParts (ProtocolName.of uri.scheme).text uri.authority uri.pathAndQuery =
      .ok uri) (copied : CopiesRoute token routed answer m) :
    readAnswer token answer = .ok (m, uri.text) := by
  have authority : m.headers.target = uri.authority := by
    rw [copied.target, content]
    rfl
  have path : m.headers.path = uri.pathAndQuery := by
    rw [copied.path, content]
    rfl
  have sender := copied.sender
  rw [target] at sender
  simp only [readAnswer, guarded, bind, Except.bind, copied.message, copied.answers, sender, authority,
    path, again, Bool.not_true, Bool.false_eq_true, ↓reduceIte]

end Interconnection

/-- The key of a request is the key of every answer that copies its route. For the schemes that have
a class of their own this rests on the name's being read as its parts again. -/
theorem copied_route_names_key {path : String} {u : ResourceUri}
    (named : ResourceUri.parse path = .ok u)
    (back : Web.SchemeClass.of u.scheme ≠ .other → u.ReadsBack) :
    ResourceUri.ofParts (ProtocolName.of u.scheme).text u.authority u.pathAndQuery = .ok u ∧
    ∀ (ic ic' : Interconnection) (now : Instant) (e : Envelope) (r : Request) (p : ProtocolName)
      (hop : Hop), Interconnection.readRequest ic.token e = .ok (r, p) → r.headers.path = path →
      ic.onRequest now e = (ic', .ok (some hop)) → hop.target = .manager →
      ic'.subscriptions.Awaits u.text p r.sequence ∧
      ∀ (answer : Envelope) (m : Message),
        Interconnection.CopiesRoute ic.token hop.envelope answer m →
        Interconnection.readAnswer ic.token answer = .ok (m, u.text) := by
  obtain ⟨raw, url⟩ := ResourceUri.ofUrl_of_parse named
  obtain ⟨host, port, parts⟩ := ResourceUri.parts_of_ofUrl url
  have readable : u.ReadsBack := by
    by_cases other : Web.SchemeClass.of u.scheme = .other
    · exact ResourceUri.readsBack_other parts other
    · exact back other
  have again : ResourceUri.ofParts (ProtocolName.of u.scheme).text u.authority u.pathAndQuery =
      .ok u := by
    rw [ResourceUri.ofParts_text parts, ResourceUri.ofUrl_text parts readable]
  refine ⟨again, ?_⟩
  intro ic ic' now e r p hop read same taken onward
  unfold Interconnection.onRequest at taken
  rw [read] at taken
  dsimp only at taken
  rw [same, named] at taken
  obtain ⟨waiting, routed⟩ := Interconnection.resolved_onward taken onward
  obtain ⟨content, target⟩ := Interconnection.route_ok routed
  refine ⟨waiting, fun answer m copied => ?_⟩
  exact Interconnection.readAnswer_copied content target again copied

def addressedRead : Request :=
  { Request.new .read "/HTTP/[0:0::1]:8080/a/../b?x=1" with sequence := 1 }

def addressedName : ResourceUri := ⟨"http", "[::1]:8080", "/b", [("x", "1")]⟩

theorem key_of_addressed_read :
    let k := Keyring.minted 0
    let answer := Reply.forRequest (addressedRead.rerouted "[::1]:8080" "/b?x=1") []
    ResourceUri.ofParts "http" "[::1]:8080" "/b?x=1" = .ok addressedName ∧
    Interconnection.readAnswer k.interconnection (k.wrap (.reply answer) (.of "http")) =
      .ok (.reply answer, "http://[::1]:8080/b?x=1") := by
  intro k answer
  have named : ResourceUri.parse addressedRead.headers.path = .ok addressedName := by decide +kernel
  have back : addressedName.ReadsBack := ⟨"[::1]", some 8080, by decide, by decide +kernel⟩
  have whole := copied_route_names_key named fun _ => back
  let ic := Interconnection.new k.interconnection .off
  let e := k.wrap (.request addressedRead) (.of "app")
  let hop : Hop := ⟨.interconnection, .manager,
    { k.wrap (.request (addressedRead.rerouted "[::1]:8080" "/b?x=1")) (.of "app") with
      targetProtocol := some (.of "http") }⟩
  have taken : ic.onRequest ⟨0⟩ e = ((ic.onRequest ⟨0⟩ e).1, .ok (some hop)) := by decide +kernel
  refine ⟨whole.1, ?_⟩
  obtain ⟨_, answers⟩ := whole.2 ic _ ⟨0⟩ e addressedRead (.of "app") hop rfl rfl taken rfl
  exact answers (k.wrap (.reply answer) (.of "http")) (.reply answer) ⟨rfl, rfl, rfl, rfl, rfl⟩

end ProtocolGateway
