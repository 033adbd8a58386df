import Mathlib
import ProtocolGateway.Proofs.Gateway.Changing
import ProtocolGateway.Proofs.Routing.Failing

/-!
Who stands while a request is under way. Replies leave everybody where they are, and a refused OBSERVE
takes out again those that it has brought.
-/

namespace ProtocolGateway

open Gateway (Frame)

/-! One request, one answer -/

namespace Interconnection

open Subscriptions

variable {ic ic' : Interconnection} {now : Instant} {key : String}

theorem tidy_receive (tidy : ic.subscriptions.Tidy) (v : Visit) :
    (ic.receive v.now v.source v.envelope).1.subscriptions.Tidy := by
  obtain ⟨changes, _, same⟩ := ic.subscriptions_receive v
  have shown : ic.subscriptions.Shows ic.subscriptions.roll := ⟨tidy, rfl⟩
  rw [same]
  exact (shown.performAll changes).tidy

/-- Where nobody stood, whoever stands after a request waits for its answer. -/
theorem paired_onRequest (tidy : ic.subscriptions.Tidy) (nobody : ¬ic.subscriptions.Observed key)
    {e : Envelope} {result : StageResult} (crossing : ic.onRequest now e = (ic', result))
    {q : ProtocolName} (stands : ic'.subscriptions.Stands key q) :
    ∃ n, ic'.subscriptions.Awaits key q n := by
  have after : ic.after [⟨now, .input, e⟩] = ic' := congrArg Prod.fst crossing
  have unanswered : ∀ u ∈ [(⟨now, .input, e⟩ : Visit)], ∀ m, ¬u.Answers ic.token key m := by
    intro u member m answers
    rw [List.mem_singleton.mp member] at answers
    cases answers.source
  rw [← after] at stands ⊢
  exact paired_after tidy nobody unanswered stands

/-- An answer about a name changes who stands only under it, and only if an OBSERVE has failed. -/
theorem stands_onAnswer (tidy : ic.subscriptions.Tidy) {k : Keyring} (own : ic.token = k.interconnection)
    {m : Message} {p : ProtocolName} (about : m.isAbout p key) {result : StageResult}
    (crossing : ic.onAnswer now (k.heard m p) = (ic', result)) :
    (∀ key', key ≠ key' → (ic'.subscriptions.Observed key' ↔ ic.subscriptions.Observed key')) ∧
      ∀ q, ic'.subscriptions.Stands key q ↔
        ic.subscriptions.Stands key q ∧ (m.FailsObserve → ∀ n, ¬ic.subscriptions.Awaits key q n) := by
  have read := readAnswer_about k about
  let w : Visit := ⟨now, .manager, k.heard m p⟩
  have answers : w.Answers k.interconnection key m := ⟨rfl, read⟩
  have same : (ic.receive w.now w.source w.envelope).1 = ic' := congrArg Prod.fst crossing
  have answered := (receive_answers tidy own answers).2
  have tells : Tells ic now m key (ic.onAnswer now (k.heard m p)).1 _ := onAnswer_tells (own ▸ read)
  rw [same] at answered
  rw [crossing] at tells
  refine ⟨fun key' other => ?_, fun q => (answered q).2⟩
  rw [observed_iff, observed_iff, tells.observers key' fun _ _ _ => other]

end Interconnection

namespace MemoryTarget.Does

variable {t t' : MemoryTarget} {r : Request} {messages : List Message}

theorem fails (does : t.Does r t' messages) {m : Message} (member : m ∈ messages) :
    m.FailsObserve ↔ r.headers.operation = .observe ∧ Table.at? t.resources r.resource = none := by
  -- Of what a target says only a refusal is an error.
  have reply (x : Reply) (same : m = .reply x) (found : r.headers.operation ≠ .observe ∨
      (Table.at? t.resources r.resource).isSome) :
      m.FailsObserve ↔ r.headers.operation = .observe ∧ Table.at? t.resources r.resource = none := by
    refine iff_of_false ?_ ?_
    · rintro ⟨_, error, _⟩
      cases same.symm.trans error
    · rintro ⟨observe, absent⟩
      rcases found with other | there
      · exact other observe
      · rw [absent] at there
        cases there
  cases does with
  | reads bytes operation found =>
    exact reply _ (List.mem_singleton.mp member) (Or.inl (by rw [operation]; decide))
  | creates operation | forgets operation =>
    exact reply _ (List.mem_singleton.mp member) (Or.inl (by rw [operation]; decide))
  | deletes bytes operation found =>
    exact reply _ (List.mem_singleton.mp member) (Or.inl (by rw [operation]; decide))
  | observes bytes operation found =>
    exact reply _ (List.mem_singleton.mp member) (Or.inr (by rw [found]; rfl))
  | updates bytes notes operation found noted =>
    have other : r.headers.operation ≠ .observe := by rw [operation]; decide
    rcases List.mem_cons.mp member with acknowledgement | note
    · exact reply _ acknowledgement (Or.inl other)
    · rcases noted with rfl | ⟨_, rfl⟩
      · cases note
      · exact reply _ (List.mem_singleton.mp note) (Or.inl other)
  | refuses operation absent =>
    rw [List.mem_singleton.mp member]
    constructor
    · rintro ⟨_, same, observe⟩
      cases same
      exact ⟨observe, absent⟩
    · exact fun ⟨observe, _⟩ => ⟨_, rfl, observe⟩

end MemoryTarget.Does

namespace Errand

variable {e : Errand} {f : Frame} {g g' : Gateway} {stood : String → Prop} {refused : Prop}

structure Speaks (e : Errand) (refused : Prop) : Prop where
  about : ∀ m, e.tells m → m.isAbout e.sender e.key
  fails : ∀ m, e.tells m → (m.FailsObserve ↔ refused)

def Recalls (e : Errand) (g : Gateway) : Prop :=
  0 < g.coming (fun _ => true) ∧
    ∀ q, g.interconnection.subscriptions.Stands e.key q →
      ∃ n, g.interconnection.subscriptions.Awaits e.key q n

/-- Who stands as the errand goes on, by who stood when it began. -/
structure Watches (e : Errand) (stood : String → Prop) (refused : Prop) (g : Gateway) : Prop where
  tickets : ∀ p s t, Table.at? (g.pendingOf p) s = some t → t < g.exchanges.length
  tidy : g.interconnection.subscriptions.Tidy
  kept : ∀ key, stood key → ¬(key = e.key ∧ refused) → g.interconnection.subscriptions.Observed key
  only : ∀ key, g.interconnection.subscriptions.Observed key →
    stood key ∧ (key = e.key → refused → e.Recalls g)

theorem Watches.spared (watches : e.Watches stood refused g) (spares : Spares g g') :
    e.Watches stood refused g' where
  tickets p s t waits := by
    rw [spares.exchanges]
    exact watches.tickets p s t (spares.waits p s t waits)
  tidy := by
    rw [spares.stage]
    exact watches.tidy
  kept := by
    rw [spares.stage]
    exact watches.kept
  only := by
    unfold Recalls
    rw [spares.stage]
    exact fun key observed => (watches.only key observed).imp_right fun recalls here refused =>
      (recalls here refused).imp_left (·.trans_le (spares.coming _))

theorem Watches.heard (watches : e.Watches stood refused g) (speaks : e.Speaks refused)
    (goes : e.Goes f g) {m : Message} {ic : Interconnection} {result : StageResult}
    (said : e.tells m)
    (crossing : g.interconnection.onAnswer g.instant (f.keys.heard m e.sender) = (ic, result))
    (passed : Passed g ⟨.manager, .interconnection, f.keys.wrap m e.sender⟩ ic result g') :
    e.Watches stood refused g' := by
  have keys : g.keys = f.keys := congrArg Frame.keys goes.frame
  have own := goes.orderly.token.trans (congrArg Keyring.interconnection keys)
  have tidy : ic.subscriptions.Tidy := by
    have received : (g.interconnection.receive g.instant .manager (f.keys.heard m e.sender)).1 = ic :=
      congrArg Prod.fst crossing
    rw [← received]
    exact Interconnection.tidy_receive watches.tidy ⟨g.instant, .manager, f.keys.heard m e.sender⟩
  obtain ⟨others, stands⟩ :=
    Interconnection.stands_onAnswer watches.tidy own (speaks.about m said) crossing
  have fails := speaks.fails m said
  -- Under the resource those stay who do not have to go.
  have spared (unrefused : ¬refused) :
      ic.subscriptions.Observed e.key ↔ g.interconnection.subscriptions.Observed e.key := by
    rw [tidy.observed_iff, watches.tidy.observed_iff]
    refine exists_congr fun q => (stands q).trans (and_iff_left fun failed => ?_)
    exact absurd (fails.mp failed) unrefused
  constructor
  case tickets =>
    rw [passed.pending, passed.exchanges]
    exact watches.tickets
  case tidy =>
    rw [passed.stage]
    exact tidy
  case kept =>
    intro key observed allowed
    have before := watches.kept key observed allowed
    rw [passed.stage]
    by_cases here : e.key = key
    · subst here
      exact (spared fun refused => allowed ⟨rfl, refused⟩).mpr before
    · exact (others key here).mpr before
  case only =>
    intro key observed
    rw [passed.stage] at observed
    by_cases here : e.key = key
    · subst here
      by_cases failed : refused
      · -- All who stand wait, so the failed OBSERVE takes every one of them out.
        obtain ⟨q, left⟩ := (tidy.observed_iff _).mp observed
        obtain ⟨before, alone⟩ := (stands q).mp left
        have recalls := (watches.only _ ((watches.tidy.observed_iff _).mpr ⟨q, before⟩)).2 rfl failed
        obtain ⟨n, waits⟩ := recalls.2 q before
        exact absurd waits (alone (fails.mpr failed) n)
      · exact ⟨(watches.only _ ((spared failed).mp observed)).1, fun _ refused => absurd refused failed⟩
    · exact ⟨(watches.only key ((others key here).mp observed)).1, fun same => absurd same.symm here⟩

theorem Watches.pass (watches : e.Watches stood refused g) (ready : f.Ready) (speaks : e.Speaks refused)
    (goes : e.Goes f g) (passing : e.Passing f g g') : e.Watches stood refused g' := by
  cases passing with
  | beside same _ coming => exact watches.spared (.of_beside same coming)
  | tells m p l hops left suits lacks told =>
    have names : left.frame.names.Nodup := (goes.taken lacks).2.2.1 ▸ ready.names
    rw [← told]
    exact watches.spared (.of_told names lacks (fun _ => rfl) m l)
  | hears m ic result said crossing passed => exact watches.heard speaks goes said crossing passed

theorem Watches.rest (watches : e.Watches stood refused g) (goes : e.Goes f g) (ready : f.Ready)
    (still : g.tasks = []) (key : String) :
    g.interconnection.subscriptions.Observed key ↔ stood key ∧ ¬(key = e.key ∧ refused) := by
  constructor
  · intro observed
    obtain ⟨before, recalls⟩ := watches.only key observed
    refine ⟨before, fun ⟨here, failed⟩ => ?_⟩
    obtain ⟨coming, _⟩ := recalls here failed
    have none : g.coming (fun _ => true) = 0 := goes.burden_at_rest ready still _ _
    omega
  · exact fun ⟨before, allowed⟩ => watches.kept key before allowed

end Errand

end ProtocolGateway
