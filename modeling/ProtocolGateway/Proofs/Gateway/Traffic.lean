import Mathlib
import ProtocolGateway.Proofs.Gateway.Acting
import ProtocolGateway.Proofs.Gateway.History
import ProtocolGateway.Proofs.Routing.Crossing

/-!
The part of a gateway that requests pass through: pending maps, requests in sinks, hops, exchanges
and the interconnection stage. Most of what a gateway does leaves it as it is.
-/

namespace ProtocolGateway

structure Traffic where
  phase : ManagerPhase
  keys : Keyring
  sequencer : Sequencer
  interconnection : Interconnection
  pending : ProtocolName → Table Sequence Ticket
  asked : ProtocolName → List Request
  exchanges : List Exchange
  hops : List Hop

namespace Traffic

def concluded (exchanges : List Exchange) (k : Ticket) (x : Resolution) : List Exchange :=
  match exchanges[k]? with
  | some .waiting => exchanges.set k (.resolved x)
  | _ => exchanges

def resolve (t : Traffic) (m : Message) (x : ProtocolName × Sequence) : Traffic :=
  match Table.at? (t.pending x.1) x.2 with
  | none => t
  | some k =>
    { t with
      pending := Function.update t.pending x.1 (Table.erase (t.pending x.1) x.2)
      exchanges := concluded t.exchanges k (Gateway.resolutionOf m x.2) }

def missed (t : Traffic) (m : Message) : List (ProtocolName × Sequence) → List Note
  | [] => []
  | x :: rest =>
    (if (Table.at? (t.pending x.1) x.2).isNone then [.missed x.1 x.2] else []) ++
      (t.resolve m x).missed m rest

theorem missed_append (t : Traffic) (m : Message) (xs ys : List (ProtocolName × Sequence)) :
    t.missed m (xs ++ ys) = t.missed m xs ++ (xs.foldl (·.resolve m) t).missed m ys := by
  induction xs generalizing t with
  | nil => rfl
  | cons x rest ih => simp only [List.cons_append, missed, ih, List.append_assoc, List.foldl_cons]

def onward (t : Traffic) (hops : List Hop) : Option Hop → List Hop
  | none => hops
  | some hop => if t.phase = .running then hops ++ [hop] else hops

end Traffic

def receipts (l : ReplyTo) : List (ProtocolName × Sequence) :=
  l.flatMap fun e => (e.2.filterMap Subscriber.sequence?).map fun s => (e.1, s)

def Parcel.asking? : Parcel Outbound Inbound → Option Request
  | .toA (.request r) => some r
  | _ => none

def PluginEntry.asked (e : PluginEntry) : List Request := e.sink.queue.filterMap Parcel.asking?

def Task.hop? : Task → Option Hop
  | .forward hop => some hop
  | .consume _ | .respond .. => none

namespace Gateway

def askedOf (g : Gateway) (p : ProtocolName) : List Request :=
  ((g.entry? p).map PluginEntry.asked).getD []

def hops (g : Gateway) : List Hop := g.tasks.filterMap Task.hop?

def traffic (g : Gateway) : Traffic :=
  { phase := g.phase, keys := g.keys, sequencer := g.sequencer
    interconnection := g.interconnection, pending := g.pendingOf, asked := g.askedOf
    exchanges := g.exchanges, hops := g.hops }

theorem pending?_eq (g : Gateway) (p : ProtocolName) (s : Sequence) :
    g.pending? p s = Table.at? (g.pendingOf p) s := by
  unfold pending? pendingOf
  cases g.entry? p <;> rfl

/-! Entries -/

theorem entry?_updateEntry (g : Gateway) (p q : ProtocolName) (f : PluginEntry → PluginEntry) :
    Gateway.entry? (g.updateEntry p f) q = if p = q then (g.entry? q).map f else g.entry? q :=
  Table.at?_update g.plugins p q f

theorem readings_updateEntry {α : Type} (read : PluginEntry → List α) (g : Gateway) (p : ProtocolName)
    (f : PluginEntry → PluginEntry) :
    (fun q => ((Gateway.entry? (g.updateEntry p f) q).map read).getD []) =
      Function.update (fun q => ((g.entry? q).map read).getD []) p
        (((g.entry? p).map fun e => read (f e)).getD []) := by
  funext q
  rw [entry?_updateEntry, Function.update_apply]
  by_cases same : p = q
  · subst same
    simp only [↓reduceIte, Option.map_map]
    rfl
  · have other : q ≠ p := fun eq => same eq.symm
    simp only [same, other, ↓reduceIte]

theorem pendingOf_updateEntry (g : Gateway) (p : ProtocolName) (f : PluginEntry → PluginEntry) :
    (g.updateEntry p f).pendingOf =
      Function.update g.pendingOf p (((g.entry? p).map fun e => (f e).pending).getD []) :=
  readings_updateEntry PluginEntry.pending g p f

theorem askedOf_updateEntry (g : Gateway) (p : ProtocolName) (f : PluginEntry → PluginEntry) :
    (g.updateEntry p f).askedOf =
      Function.update g.askedOf p (((g.entry? p).map fun e => (f e).asked).getD []) :=
  readings_updateEntry PluginEntry.asked g p f

theorem traffic_updateEntry (g : Gateway) (p : ProtocolName) (f : PluginEntry → PluginEntry) :
    (g.updateEntry p f).traffic =
      { g.traffic with
        pending := Function.update g.pendingOf p (((g.entry? p).map fun e => (f e).pending).getD [])
        asked := Function.update g.askedOf p (((g.entry? p).map fun e => (f e).asked).getD []) } := by
  rw [← pendingOf_updateEntry, ← askedOf_updateEntry]
  rfl

theorem update_pendingOf (g : Gateway) (p : ProtocolName) :
    Function.update g.pendingOf p (((g.entry? p).map PluginEntry.pending).getD []) = g.pendingOf :=
  Function.update_eq_self p g.pendingOf

theorem update_askedOf (g : Gateway) (p : ProtocolName) :
    Function.update g.askedOf p (((g.entry? p).map PluginEntry.asked).getD []) = g.askedOf :=
  Function.update_eq_self p g.askedOf

theorem traffic_updatePending (g : Gateway) (p : ProtocolName)
    (f : Table Sequence Ticket → Table Sequence Ticket) :
    (g.updateEntry p fun e => { e with pending := f e.pending }).traffic = { g.traffic with
      pending := Function.update g.pendingOf p
        (((g.entry? p).map fun e : PluginEntry => f e.pending).getD []) } := by
  rw [traffic_updateEntry]
  change { g.traffic with
    pending := Function.update g.pendingOf p
      (((g.entry? p).map fun e : PluginEntry => f e.pending).getD [])
    asked := Function.update g.askedOf p (((g.entry? p).map PluginEntry.asked).getD []) } = _
  rw [update_askedOf]
  rfl

theorem traffic_updateSink (g : Gateway) (p : ProtocolName) (sink : PluginSink) :
    (g.updateEntry p fun e => { e with sink := sink }).traffic = { g.traffic with
      asked := Function.update g.askedOf p
        (((g.entry? p).map fun _ => sink.queue.filterMap Parcel.asking?).getD []) } := by
  rw [traffic_updateEntry]
  change { g.traffic with
    pending := Function.update g.pendingOf p (((g.entry? p).map PluginEntry.pending).getD [])
    asked := Function.update g.askedOf p
      (((g.entry? p).map fun _ => sink.queue.filterMap Parcel.asking?).getD []) } = _
  rw [update_pendingOf]
  rfl

theorem traffic_setPlugin (g : Gateway) (p : ProtocolName) (plugin : Plugin) :
    (g.setPlugin p plugin).traffic = g.traffic := by
  unfold setPlugin
  rw [traffic_updateEntry]
  change { g.traffic with
    pending := Function.update g.pendingOf p (((g.entry? p).map PluginEntry.pending).getD [])
    asked := Function.update g.askedOf p (((g.entry? p).map PluginEntry.asked).getD []) } = _
  rw [update_pendingOf, update_askedOf]
  rfl

/-! Tasks -/

theorem traffic_enqueue (g : Gateway) (t : Task) :
    (g.enqueue t).traffic = { g.traffic with hops := g.hops ++ t.hop?.toList } := by
  cases t <;> simp [traffic, enqueue, hops, Task.hop?] <;> exact ⟨rfl, rfl⟩

theorem traffic_enqueueFirst (g : Gateway) {t : Task} (silent : t.hop? = none) :
    (g.enqueueFirst t).traffic = g.traffic := by
  simp [traffic, enqueueFirst, hops, silent]
  exact ⟨rfl, rfl⟩

theorem traffic_forward (g : Gateway) (hop : Hop) :
    (g.forward hop).traffic = { g.traffic with hops := g.traffic.onward g.hops (some hop) } := by
  unfold forward Traffic.onward isRunning
  by_cases running : g.phase = .running
  · have same : g.traffic.phase = .running := running
    simp [running, same, traffic_enqueue, Task.hop?]
  · have other : ¬g.traffic.phase = .running := running
    simp only [running, other, beq_iff_eq, ↓reduceIte]
    rfl

theorem traffic_respond_enqueued (g : Gateway) (p : ProtocolName) (messages : List Message) :
    (g.enqueue (.respond p messages)).traffic = g.traffic := by
  simp [traffic_enqueue, Task.hop?]
  rfl

/-! Sinks -/

/-- What is sent to the manager's end is asked when it is a request. -/
theorem traffic_send (g : Gateway) (p : ProtocolName) (parcel : Parcel Outbound Inbound) :
    (∃ cause, g.send p parcel = (g, .error cause)) ∨
    ∃ g', g.send p parcel = (g', .ok ()) ∧ (g.entry? p).isSome ∧
      g'.traffic = { g.traffic with
        asked := Function.update g.askedOf p (g.askedOf p ++ parcel.asking?.toList) } := by
  rcases g.send_cases p parcel with refused | ⟨e, sink, found, offered, sent⟩
  · exact Or.inl refused
  · have asked : sink.queue.filterMap Parcel.asking? = g.askedOf p ++ parcel.asking?.toList := by
      simp only [askedOf, found, PluginEntry.asked, Sink.offer_queue offered, Option.map_some,
        Option.getD_some, List.filterMap_append, List.filterMap_cons, List.filterMap_nil]
      cases parcel.asking? <;> rfl
    have placed : (g.updateEntry p fun e => { e with sink := sink }).traffic = { g.traffic with
        asked := Function.update g.askedOf p (g.askedOf p ++ parcel.asking?.toList) } := by
      rw [traffic_updateSink, found, ← asked]
      rfl
    rcases sent with ⟨_, sent⟩ | sent
    · exact Or.inr ⟨_, sent, found ▸ rfl, placed⟩
    · refine Or.inr ⟨_, sent, found ▸ rfl, ?_⟩
      rw [traffic_enqueue, ← placed]
      simp only [Task.hop?, Option.toList_none, List.append_nil]
      rfl

theorem traffic_send_other (g : Gateway) (p : ProtocolName) (parcel : Parcel Outbound Inbound)
    (other : parcel.asking? = none) : (g.send p parcel).1.traffic = g.traffic := by
  rcases g.traffic_send p parcel with ⟨cause, failed⟩ | ⟨g', accepted, _, sent⟩
  · rw [failed]
  · rw [accepted, sent, other]
    change { g.traffic with asked := Function.update g.askedOf p (g.askedOf p ++ []) } = _
    rw [List.append_nil, Function.update_eq_self]
    rfl

theorem traffic_push (g : Gateway) (p : ProtocolName) (m : Message) :
    (g.push p m).traffic = g.traffic := by
  unfold push
  split
  · split
    · exact g.traffic_send_other p _ rfl
    · rfl
  · rfl

theorem traffic_pushes (g : Gateway) (p : ProtocolName) (m : Message) (subscribers : List Subscriber) :
    (subscribers.foldl (fun g _ => g.push p m) g).traffic = g.traffic := by
  induction subscribers generalizing g with
  | nil => rfl
  | cons _ rest ih => exact (ih (g.push p m)).trans (g.traffic_push p m)

theorem traffic_reply (g : Gateway) (p : ProtocolName) (m : Message) :
    (g.reply p m).1.traffic = g.traffic := by
  rw [reply_eq]
  exact g.traffic_send_other p _ rfl

theorem traffic_notify (g : Gateway) (p : ProtocolName) (authority path : String)
    (content : Octets) : (g.notify p authority path content).1.traffic = g.traffic := by
  unfold notify
  split
  · dsimp only
    split
    · exact (traffic_reply _ p _).trans (g.traffic_setPlugin p _)
    · exact g.traffic_setPlugin p _
  · rfl

/-! Resolving -/

theorem conclude_eq (g : Gateway) (k : Ticket) (x : Resolution) :
    (g.conclude k x).1 = { g with exchanges := Traffic.concluded g.exchanges k x } := by
  unfold conclude Traffic.concluded
  cases g.exchanges[k]? with
  | none => rfl
  | some x => cases x <;> rfl

theorem traffic_conclude (g : Gateway) (k : Ticket) (x : Resolution) :
    (g.conclude k x).1.traffic =
      { g.traffic with exchanges := Traffic.concluded g.exchanges k x } := by
  rw [conclude_eq]
  rfl

theorem traffic_release (g : Gateway) (p : ProtocolName) (s : Sequence) :
    (g.release p s).traffic = { g.traffic with
      pending := Function.update g.pendingOf p (Table.erase (g.pendingOf p) s) } := by
  have released : ((g.entry? p).map fun e : PluginEntry => Table.erase e.pending s).getD [] =
      Table.erase (g.pendingOf p) s := by
    unfold pendingOf
    cases g.entry? p <;> rfl
  unfold release
  rw [traffic_updatePending g p (Table.erase · s), released]

theorem traffic_resolve (g : Gateway) (p : ProtocolName) (s : Sequence) (m : Message) :
    (g.resolve p s m).1.traffic = g.traffic.resolve m (p, s) := by
  have same := g.pending?_eq p s
  unfold pending? at same
  unfold resolve Traffic.resolve
  rw [same]
  change _ = match Table.at? (g.pendingOf p) s with | none => _ | some k => _
  cases found : Table.at? (g.pendingOf p) s with
  | none => rfl
  | some k =>
    have freed := traffic_conclude (g.release p s) k (resolutionOf m s)
    rw [traffic_release] at freed
    dsimp only
    split
    · split
      · exact freed
      · exact freed
    · exact freed

theorem traffic_resolveAll (g : Gateway) (p : ProtocolName) (m : Message) (ss : List Sequence) :
    (g.resolveAll p m ss).1.traffic = (ss.map fun s => (p, s)).foldl (·.resolve m) g.traffic := by
  induction ss generalizing g with
  | nil => rfl
  | cons s rest ih =>
    rw [List.map_cons, List.foldl_cons, ← traffic_resolve, ← ih]
    rfl

theorem resolve_unregistered {g : Gateway} {p : ProtocolName} (absent : g.entry? p = none)
    (m : Message) (ss : List Sequence) :
    (ss.map fun s => (p, s)).foldl (·.resolve m) g.traffic = g.traffic := by
  induction ss with
  | nil => rfl
  | cons s rest ih =>
    have nobody : g.traffic.resolve m (p, s) = g.traffic := by
      have empty : g.traffic.pending p = [] := by
        change ((g.entry? p).map PluginEntry.pending).getD [] = []
        rw [absent]
        rfl
      unfold Traffic.resolve
      rw [empty]
      rfl
    rw [List.map_cons, List.foldl_cons, nobody, ih]

theorem traffic_answerProtocol (g : Gateway) (m : Message) (p : ProtocolName)
    (subscribers : List Subscriber) :
    (g.answerProtocol m p subscribers).traffic =
      ((subscribers.filterMap Subscriber.sequence?).map fun s => (p, s)).foldl (·.resolve m)
        g.traffic := by
  unfold answerProtocol
  split
  · rename_i absent
    exact (resolve_unregistered (Option.isNone_iff_eq_none.mp absent) m _).symm
  · rw [← traffic_resolveAll]
    dsimp only
    split
    · rfl
    · exact traffic_pushes _ p m _

theorem traffic_answerAll (g : Gateway) (m : Message) (l : ReplyTo) :
    (l.foldl (fun g r => g.answerProtocol m r.1 r.2) g).traffic =
      (receipts l).foldl (·.resolve m) g.traffic := by
  induction l generalizing g with
  | nil => rfl
  | cons r rest ih =>
    rw [List.foldl_cons, ih, traffic_answerProtocol]
    change _ = ((_ : List (ProtocolName × Sequence)) ++ receipts rest).foldl _ _
    rw [List.foldl_append]

/-! Misses -/

theorem missedBy_eq (g : Gateway) (p : ProtocolName) (m : Message) (ss : List Sequence) :
    g.missedBy p m ss = g.traffic.missed m (ss.map fun s => (p, s)) := by
  induction ss generalizing g with
  | nil => rfl
  | cons s rest ih =>
    rw [missedBy, ih, traffic_resolve, pending?_eq]
    rfl

theorem missed_eq (g : Gateway) (m : Message) (l : ReplyTo) :
    g.missed m l = g.traffic.missed m (receipts l) := by
  induction l generalizing g with
  | nil => rfl
  | cons r rest ih =>
    rw [missed, ih, traffic_answerProtocol, missedBy_eq]
    change _ = Traffic.missed _ m ((_ : List (ProtocolName × Sequence)) ++ receipts rest)
    rw [Traffic.missed_append]

end Gateway

end ProtocolGateway
