import Mathlib
import ProtocolGateway.Routing.Envelope

/-!
Who can do what with an envelope. An operation is admitted when its token is the main one, or was
granted the field by the main token before. What is not admitted is refused and leaves the envelope
as it is; each field holds what the last admitted write brought; and a token learns nothing of the
fields it was never granted.
-/

namespace ProtocolGateway

/-! Operations and their answers -/

/-- What can be asked of an envelope. To take the message uses the envelope up, so nobody sees what
it leaves. -/
inductive EnvelopeOp where
  | grant (t : Token) (field : EnvelopeField)
  | pass
  | write (v : FieldValue)
  | read (field : EnvelopeField)
  | take
  deriving DecidableEq, Repr

namespace EnvelopeOp

/-- The field that the token needs a grant for. Without one, only the main token will do. -/
def guard? : EnvelopeOp → Option EnvelopeField
  | .grant _ _ | .pass => none
  | .write v => some v.field
  | .read field => some field
  | .take => some .message

def refusal : EnvelopeOp → EnvelopeError
  | .grant _ _ => .notMainToken .grant
  | .pass => .notMainToken .countHops
  | .write v => .accessDenied v.field
  | .read field => .accessDenied field
  | .take => .accessDenied .message

def written? (field : EnvelopeField) : EnvelopeOp → Option FieldValue
  | .write v => if v.field = field then some v else none
  | _ => none

end EnvelopeOp

structure EnvelopeCall where
  token : Token
  op : EnvelopeOp
  deriving DecidableEq, Repr

inductive EnvelopeAnswer where
  | done
  | hops (count : Nat)
  | value (v : Option FieldValue)
  | refused (error : EnvelopeError)
  deriving DecidableEq, Repr

/-- The answer without the hop count, which is public. -/
def EnvelopeAnswer.sansHops : EnvelopeAnswer → EnvelopeAnswer
  | .hops _ => .done
  | answer => answer

namespace Envelope

def changed (e : Envelope) (answer : Envelope → EnvelopeAnswer) :
    Except EnvelopeError Envelope → Envelope × EnvelopeAnswer
  | .ok e' => (e', answer e')
  | .error error => (e, .refused error)

def told {α : Type} (value : α → Option FieldValue) : Except EnvelopeError α → EnvelopeAnswer
  | .ok x => .value (value x)
  | .error error => .refused error

def perform (e : Envelope) (c : EnvelopeCall) : Envelope × EnvelopeAnswer :=
  match c.op with
  | .grant t field => e.changed (fun _ => .done) (e.grant c.token t field)
  | .pass => e.changed (fun e' => .hops e'.hops) (e.pass c.token)
  | .write v => e.changed (fun _ => .done) (e.write c.token v)
  | .read .message => (e, told (some ∘ .message) (e.message c.token))
  | .read .source => (e, told (Option.map .source) (e.source c.token))
  | .read .target => (e, told (Option.map .target) (e.target c.token))
  | .read .replyTo => (e, told (Option.map .replyTo) (e.replyTo c.token))
  | .take => (e, told (some ∘ .message) (e.message c.token))

def run (e : Envelope) (calls : List EnvelopeCall) : Envelope :=
  calls.foldl (fun e c => (e.perform c).1) e

theorem run_cons (e : Envelope) (c : EnvelopeCall) (calls : List EnvelopeCall) :
    e.run (c :: calls) = (e.perform c).1.run calls := rfl

theorem run_append (e : Envelope) (before after : List EnvelopeCall) :
    e.run (before ++ after) = (e.run before).run after :=
  List.foldl_append

theorem run_concat (e : Envelope) (calls : List EnvelopeCall) (c : EnvelopeCall) :
    e.run (calls ++ [c]) = ((e.run calls).perform c).1 :=
  e.run_append calls [c]

/-! One operation -/

def value? (e : Envelope) : EnvelopeField → Option FieldValue
  | .message => some (.message e.content)
  | .source => e.sourceProtocol.map .source
  | .target => e.targetProtocol.map .target
  | .replyTo => e.replyList.map .replyTo

theorem value?_put (e : Envelope) (v : FieldValue) (field : EnvelopeField) :
    (e.put v).value? field = if v.field = field then some v else e.value? field := by
  cases v <;> cases field <;> rfl

def admits (e : Envelope) (c : EnvelopeCall) : Bool :=
  match c.op.guard? with
  | none => e.isMain c.token
  | some field => e.allows c.token field

def afterOp (e : Envelope) : EnvelopeOp → Envelope
  | .grant t field => { e with grants := (field, t) :: e.grants }
  | .pass => { e with hops := e.hops + 1 }
  | .write v => e.put v
  | .read _ | .take => e

def answer (e : Envelope) : EnvelopeOp → EnvelopeAnswer
  | .grant _ _ | .write _ => .done
  | .pass => .hops (e.hops + 1)
  | .read field => .value (e.value? field)
  | .take => .value (e.value? .message)

theorem check_allowed {e : Envelope} {t : Token} {field : EnvelopeField}
    (allowed : e.allows t field = true) : e.check t field = .ok () :=
  if_pos allowed

theorem check_denied {e : Envelope} {t : Token} {field : EnvelopeField}
    (denied : e.allows t field = false) : e.check t field = .error (.accessDenied field) :=
  if_neg (ne_true_of_eq_false denied)

theorem perform_admitted {e : Envelope} {c : EnvelopeCall} (admitted : e.admits c = true) :
    e.perform c = (e.afterOp c.op, e.answer c.op) := by
  obtain ⟨t, op⟩ := c
  cases op with
  | grant other field =>
    have granted : e.grant t other field = .ok (e.afterOp (.grant other field)) := if_pos admitted
    simp only [perform, granted]
    rfl
  | pass =>
    have passed : e.pass t = .ok (e.afterOp .pass) := if_pos admitted
    simp only [perform, passed]
    rfl
  | write v =>
    simp only [perform, write, check_allowed admitted]
    rfl
  | read field =>
    cases field <;>
      simp only [perform, message, source, target, replyTo, check_allowed admitted] <;> rfl
  | take =>
    simp only [perform, message, check_allowed admitted]
    rfl

theorem perform_refused {e : Envelope} {c : EnvelopeCall} (refused : e.admits c = false) :
    e.perform c = (e, .refused c.op.refusal) := by
  obtain ⟨t, op⟩ := c
  cases op with
  | grant other field =>
    have denied : e.grant t other field = .error (.notMainToken .grant) :=
      if_neg (ne_true_of_eq_false refused)
    simp only [perform, denied]
    rfl
  | pass =>
    have denied : e.pass t = .error (.notMainToken .countHops) :=
      if_neg (ne_true_of_eq_false refused)
    simp only [perform, denied]
    rfl
  | write v =>
    simp only [perform, write, check_denied refused]
    rfl
  | read field =>
    cases field <;>
      simp only [perform, message, source, target, replyTo, check_denied refused] <;> rfl
  | take =>
    simp only [perform, message, check_denied refused]
    rfl

theorem main_afterOp (e : Envelope) (op : EnvelopeOp) : (e.afterOp op).main = e.main := by
  cases op with
  | write v => cases v <;> rfl
  | _ => rfl

theorem grants_afterOp (e : Envelope) (op : EnvelopeOp) (t : Token) (field : EnvelopeField) :
    (field, t) ∈ (e.afterOp op).grants ↔ op = .grant t field ∨ (field, t) ∈ e.grants := by
  cases op with
  | grant other granted =>
    simp only [afterOp, List.mem_cons, Prod.mk.injEq, EnvelopeOp.grant.injEq]
    tauto
  | write v => cases v <;> simp [afterOp, put]
  | _ => simp [afterOp]

theorem value?_afterOp (e : Envelope) (op : EnvelopeOp) (field : EnvelopeField) :
    (e.afterOp op).value? field = (op.written? field).or (e.value? field) := by
  cases op with
  | write v =>
    change (e.put v).value? field = _
    rw [value?_put]
    simp only [EnvelopeOp.written?]
    split <;> rfl
  | _ => cases field <;> rfl

theorem main_perform (e : Envelope) (c : EnvelopeCall) : (e.perform c).1.main = e.main := by
  cases admitted : e.admits c with
  | true =>
    rw [perform_admitted admitted]
    exact e.main_afterOp c.op
  | false => rw [perform_refused admitted]

theorem main_run (e : Envelope) (calls : List EnvelopeCall) : (e.run calls).main = e.main := by
  induction calls generalizing e with
  | nil => rfl
  | cons c rest ih => exact (ih _).trans (e.main_perform c)

/-! Who is authorised -/

/-- The token is the main one, or the main token granted it the field: before the calls, or by one
of them. -/
def cleared (e : Envelope) (calls : List EnvelopeCall) (t : Token) (field : EnvelopeField) : Bool :=
  t = e.main ∨ (field, t) ∈ e.grants ∨ ⟨e.main, .grant t field⟩ ∈ calls

def authorised (e : Envelope) (before : List EnvelopeCall) (c : EnvelopeCall) : Bool :=
  match c.op.guard? with
  | none => c.token = e.main
  | some field => e.cleared before c.token field

theorem isMain_iff (e : Envelope) (t : Token) : e.isMain t = true ↔ t = e.main := by
  rw [isMain, beq_iff_eq, eq_comm]

theorem allows_iff (e : Envelope) (t : Token) (field : EnvelopeField) :
    e.allows t field = true ↔ t = e.main ∨ (field, t) ∈ e.grants := by
  rw [allows, Bool.or_eq_true, isMain_iff, List.contains_iff_mem]

theorem grants_perform (e : Envelope) (c : EnvelopeCall) (t : Token) (field : EnvelopeField) :
    (field, t) ∈ (e.perform c).1.grants ↔
      (field, t) ∈ e.grants ∨ c = ⟨e.main, .grant t field⟩ := by
  obtain ⟨token, op⟩ := c
  by_cases admitted : e.admits ⟨token, op⟩ = true
  · rw [perform_admitted admitted, grants_afterOp]
    constructor
    · rintro (rfl | held)
      · exact Or.inr (congrArg (EnvelopeCall.mk · _) ((e.isMain_iff token).mp admitted))
      · exact Or.inl held
    · rintro (held | same)
      · exact Or.inr held
      · cases same
        exact Or.inl rfl
  · rw [perform_refused (Bool.eq_false_of_not_eq_true admitted)]
    refine ⟨Or.inl, fun held => held.elim id fun same => absurd ?_ admitted⟩
    cases same
    exact (e.isMain_iff e.main).mpr rfl

theorem grants_run (e : Envelope) (calls : List EnvelopeCall) (t : Token) (field : EnvelopeField) :
    (field, t) ∈ (e.run calls).grants ↔
      (field, t) ∈ e.grants ∨ ⟨e.main, .grant t field⟩ ∈ calls := by
  induction calls generalizing e with
  | nil => simp [run]
  | cons c rest ih =>
    rw [run_cons, ih, grants_perform, main_perform, List.mem_cons, or_assoc, eq_comm (a := c)]

theorem allows_run (e : Envelope) (calls : List EnvelopeCall) (t : Token) (field : EnvelopeField) :
    (e.run calls).allows t field = e.cleared calls t field := by
  rw [Bool.eq_iff_iff, allows_iff, main_run, grants_run, cleared, decide_eq_true_iff]

theorem admits_run (e : Envelope) (calls : List EnvelopeCall) (c : EnvelopeCall) :
    (e.run calls).admits c = e.authorised calls c := by
  unfold admits authorised
  split
  · rw [Bool.eq_iff_iff, isMain_iff, main_run, decide_eq_true_iff]
  · exact e.allows_run calls _ _

theorem cleared_mono {e : Envelope} {before : List EnvelopeCall} {t : Token}
    {field : EnvelopeField} (held : e.cleared before t field = true) (after : List EnvelopeCall) :
    e.cleared (before ++ after) t field = true := by
  unfold cleared at held ⊢
  rw [decide_eq_true_iff] at held ⊢
  exact held.imp_right fun granted => granted.imp_right (List.mem_append_left after)

/-! What the fields hold -/

def authorisedCalls (e : Envelope) (before : List EnvelopeCall) :
    List EnvelopeCall → List EnvelopeCall
  | [] => []
  | c :: rest =>
    (if e.authorised before c then [c] else []) ++ e.authorisedCalls (before ++ [c]) rest

theorem authorisedCalls_concat (e : Envelope) (before calls : List EnvelopeCall)
    (c : EnvelopeCall) :
    e.authorisedCalls before (calls ++ [c]) = e.authorisedCalls before calls ++
      if e.authorised (before ++ calls) c then [c] else [] := by
  induction calls generalizing before with
  | nil => simp [authorisedCalls]
  | cons first rest ih =>
    simp only [List.cons_append, authorisedCalls, ih, List.append_assoc, List.nil_append]

def lastWritten? (e : Envelope) (calls : List EnvelopeCall) (field : EnvelopeField) :
    Option FieldValue :=
  ((e.authorisedCalls [] calls).filterMap fun c => c.op.written? field).getLast?

theorem lastWritten?_concat (e : Envelope) (calls : List EnvelopeCall) (c : EnvelopeCall)
    (field : EnvelopeField) :
    e.lastWritten? (calls ++ [c]) field =
      if e.authorised calls c then (c.op.written? field).or (e.lastWritten? calls field)
      else e.lastWritten? calls field := by
  unfold lastWritten?
  rw [authorisedCalls_concat, List.nil_append, List.filterMap_append, List.getLast?_append]
  split
  · cases written : c.op.written? field <;> simp [written]
  · rfl

theorem value?_run (e : Envelope) (calls : List EnvelopeCall) (field : EnvelopeField) :
    (e.run calls).value? field = (e.lastWritten? calls field).or (e.value? field) := by
  induction calls using List.reverseRecOn with
  | nil => rfl
  | append_singleton calls c ih =>
    rw [run_concat, lastWritten?_concat]
    cases admitted : (e.run calls).admits c with
    | true =>
      rw [perform_admitted admitted, if_pos (e.admits_run calls c ▸ admitted), value?_afterOp, ih,
        Option.or_assoc]
    | false =>
      rw [perform_refused admitted,
        if_neg (ne_true_of_eq_false (e.admits_run calls c ▸ admitted)), ih]

end Envelope

/-! What a token can tell -/

/-- What reaches a token of a call: that it made the call itself, that a field was written, or that
it was granted one. -/
inductive Sighting where
  | made (op : EnvelopeOp)
  | written (v : FieldValue)
  | granted (field : EnvelopeField)
  deriving DecidableEq, Repr

namespace Envelope

section Hiding

variable (t : Token) (hidden : List EnvelopeField)

/-- What the token can tell of a call when some fields are hidden from it. Of the calls of others,
it is only admitted ones that leave a trace. -/
def sighting? (admitted : Bool) (c : EnvelopeCall) : Option Sighting :=
  if c.token = t then some (.made c.op)
  else match admitted, c.op with
    | true, .write v => if v.field ∈ hidden then none else some (.written v)
    | true, .grant u field => if u = t then some (.granted field) else none
    | _, _ => none

def view (e : Envelope) (before : List EnvelopeCall) : List EnvelopeCall → List Sighting
  | [] => []
  | c :: rest =>
    (sighting? t hidden (e.authorised before c) c).toList ++ e.view (before ++ [c]) rest

/-- The answers to the token's own calls, hop counts left out. -/
def answersTo (e : Envelope) : List EnvelopeCall → List EnvelopeAnswer
  | [] => []
  | c :: rest =>
    (if c.token = t then [(e.perform c).2.sansHops] else []) ++ (e.perform c).1.answersTo rest

/-- Two envelopes that differ, for the token, in hidden fields only. -/
structure Alike (e₁ e₂ : Envelope) : Prop where
  main : t = e₁.main ↔ t = e₂.main
  grants : ∀ field, (field, t) ∈ e₁.grants ↔ (field, t) ∈ e₂.grants
  values : ∀ field, field ∉ hidden → e₁.value? field = e₂.value? field

end Hiding

variable {t : Token} {hidden : List EnvelopeField}

theorem Alike.refl (e : Envelope) : Alike t hidden e e :=
  ⟨Iff.rfl, fun _ => Iff.rfl, fun _ _ => rfl⟩

theorem Alike.symm {e₁ e₂ : Envelope} (alike : Alike t hidden e₁ e₂) : Alike t hidden e₂ e₁ :=
  ⟨alike.main.symm, fun field => (alike.grants field).symm,
    fun field visible => (alike.values field visible).symm⟩

theorem Alike.trans {e₁ e₂ e₃ : Envelope} (first : Alike t hidden e₁ e₂)
    (second : Alike t hidden e₂ e₃) : Alike t hidden e₁ e₃ :=
  ⟨first.main.trans second.main, fun field => (first.grants field).trans (second.grants field),
    fun field visible => (first.values field visible).trans (second.values field visible)⟩

theorem Alike.allows {e₁ e₂ : Envelope} (alike : Alike t hidden e₁ e₂) (field : EnvelopeField) :
    e₁.allows t field = e₂.allows t field := by
  rw [Bool.eq_iff_iff, allows_iff, allows_iff, alike.main, alike.grants]

theorem Alike.admits {e₁ e₂ : Envelope} (alike : Alike t hidden e₁ e₂) (op : EnvelopeOp) :
    e₁.admits ⟨t, op⟩ = e₂.admits ⟨t, op⟩ := by
  unfold Envelope.admits
  split
  · rw [Bool.eq_iff_iff, isMain_iff, isMain_iff, alike.main]
  · exact alike.allows _

theorem Alike.afterOp {e₁ e₂ : Envelope} (alike : Alike t hidden e₁ e₂) {op₁ op₂ : EnvelopeOp}
    (grants : ∀ field, op₁ = .grant t field ↔ op₂ = .grant t field)
    (writes : ∀ field, field ∉ hidden → op₁.written? field = op₂.written? field) :
    Alike t hidden (e₁.afterOp op₁) (e₂.afterOp op₂) := by
  refine ⟨?_, fun field => ?_, fun field visible => ?_⟩
  · rw [main_afterOp, main_afterOp]
    exact alike.main
  · rw [grants_afterOp, grants_afterOp, grants, alike.grants]
  · rw [value?_afterOp, value?_afterOp, writes field visible, alike.values field visible]

inductive Seen (t : Token) (hidden : List EnvelopeField) (c : EnvelopeCall) :
    Bool → Option Sighting → Prop
  | made {admitted : Bool} (own : c.token = t) : Seen t hidden c admitted (some (.made c.op))
  | written {v : FieldValue} (other : c.token ≠ t) (op : c.op = .write v) :
      Seen t hidden c true (some (.written v))
  | granted {field : EnvelopeField} (other : c.token ≠ t) (op : c.op = .grant t field) :
      Seen t hidden c true (some (.granted field))
  | refused (other : c.token ≠ t) : Seen t hidden c false none
  | unseen (other : c.token ≠ t) (grants : ∀ field, c.op ≠ .grant t field)
      (writes : ∀ field, field ∉ hidden → c.op.written? field = none) : Seen t hidden c true none

theorem seen (t : Token) (hidden : List EnvelopeField) (c : EnvelopeCall) (admitted : Bool) :
    Seen t hidden c admitted (sighting? t hidden admitted c) := by
  obtain ⟨token, op⟩ := c
  unfold sighting?
  by_cases own : token = t
  · rw [if_pos own]
    exact .made own
  rw [if_neg own]
  cases admitted with
  | false => exact .refused own
  | true =>
    cases op with
    | grant u field =>
      by_cases here : u = t
      · subst here
        simp only [↓reduceIte]
        exact .granted own rfl
      · simp only [here, ↓reduceIte]
        exact .unseen own (fun _ same => here (EnvelopeOp.grant.inj same).1) fun _ _ => rfl
    | write v =>
      by_cases covered : v.field ∈ hidden
      · simp only [covered, ↓reduceIte]
        refine .unseen own (fun _ same => nomatch same) fun field visible => if_neg ?_
        exact fun same => visible (same ▸ covered)
      · simp only [covered, ↓reduceIte]
        exact .written own rfl
    | pass | read | take => exact .unseen own (fun _ same => nomatch same) fun _ _ => rfl

theorem alike_unseen {e : Envelope} {c : EnvelopeCall}
    (unseen : sighting? t hidden (e.admits c) c = none) :
    c.token ≠ t ∧ Alike t hidden e (e.perform c).1 := by
  have way := seen t hidden c (e.admits c)
  rw [unseen] at way
  cases admitted : e.admits c with
  | false =>
    rw [admitted] at way
    cases way with
    | refused other => exact ⟨other, by rw [perform_refused admitted]; exact Alike.refl e⟩
  | true =>
    rw [admitted] at way
    cases way with
    | unseen other grants writes =>
      refine ⟨other, ?_⟩
      rw [perform_admitted admitted]
      -- Taking the message leaves the envelope as it is, so it stands for no operation here.
      have kept : Alike t hidden (e.afterOp .take) (e.afterOp c.op) :=
        (Alike.refl e).afterOp
          (fun field => ⟨fun same => (nomatch same), fun same => absurd same (grants field)⟩)
          fun field visible => (writes field visible).symm
      exact kept

theorem Alike.own {e₁ e₂ : Envelope} (alike : Alike t hidden e₁ e₂)
    (closed : ∀ field ∈ hidden, e₁.allows t field = false) (op : EnvelopeOp) :
    Alike t hidden (e₁.perform ⟨t, op⟩).1 (e₂.perform ⟨t, op⟩).1 ∧
      (e₁.perform ⟨t, op⟩).2.sansHops = (e₂.perform ⟨t, op⟩).2.sansHops := by
  have same := alike.admits op
  cases admitted : e₁.admits ⟨t, op⟩ with
  | false =>
    rw [perform_refused admitted, perform_refused (same ▸ admitted)]
    exact ⟨alike, rfl⟩
  | true =>
    rw [perform_admitted admitted, perform_admitted (same ▸ admitted)]
    refine ⟨alike.afterOp (fun _ => Iff.rfl) fun _ _ => rfl, ?_⟩
    have visible : ∀ field, op.guard? = some field → e₁.value? field = e₂.value? field := by
      intro field guarded
      refine alike.values field fun covered => ?_
      have allowed : e₁.allows t field = true := by
        simpa only [Envelope.admits, guarded] using admitted
      rw [closed field covered] at allowed
      cases allowed
    cases op with
    | grant | pass | write => rfl
    | read field => exact congrArg EnvelopeAnswer.value (visible field rfl)
    | take => exact congrArg EnvelopeAnswer.value (visible .message rfl)

/-- Calls that look the same to the token, on envelopes that look alike to it. -/
theorem Alike.step {e₁ e₂ : Envelope} (alike : Alike t hidden e₁ e₂)
    (closed : ∀ field ∈ hidden, e₁.allows t field = false) {c₁ c₂ : EnvelopeCall} {σ : Sighting}
    (first : sighting? t hidden (e₁.admits c₁) c₁ = some σ)
    (second : sighting? t hidden (e₂.admits c₂) c₂ = some σ) :
    Alike t hidden (e₁.perform c₁).1 (e₂.perform c₂).1 ∧
      (if c₁.token = t then [(e₁.perform c₁).2.sansHops] else []) =
        if c₂.token = t then [(e₂.perform c₂).2.sansHops] else [] := by
  have way₁ := seen t hidden c₁ (e₁.admits c₁)
  have way₂ := seen t hidden c₂ (e₂.admits c₂)
  rw [first] at way₁
  rw [second] at way₂
  generalize admitted₁ : e₁.admits c₁ = a₁ at way₁
  generalize admitted₂ : e₂.admits c₂ = a₂ at way₂
  obtain ⟨t₁, op₁⟩ := c₁
  obtain ⟨t₂, op₂⟩ := c₂
  -- The stage sees the same of both calls, so they are of one kind.
  cases way₁ with
  | made own₁ =>
    cases way₂ with
    | made own₂ =>
      obtain rfl : t₁ = t := own₁
      obtain rfl : t₂ = t₁ := own₂
      rw [if_pos rfl, if_pos rfl]
      exact (alike.own closed op₁).imp_right (congrArg (List.cons · []))
  | written other₁ is₁ =>
    cases way₂ with
    | written other₂ is₂ =>
      obtain rfl : op₁ = op₂ := is₁.trans is₂.symm
      rw [perform_admitted admitted₁, perform_admitted admitted₂, if_neg other₁, if_neg other₂]
      exact ⟨alike.afterOp (fun _ => Iff.rfl) fun _ _ => rfl, rfl⟩
  | granted other₁ is₁ =>
    cases way₂ with
    | granted other₂ is₂ =>
      obtain rfl : op₁ = op₂ := is₁.trans is₂.symm
      rw [perform_admitted admitted₁, perform_admitted admitted₂, if_neg other₁, if_neg other₂]
      exact ⟨alike.afterOp (fun _ => Iff.rfl) fun _ _ => rfl, rfl⟩

/-! Two runs -/

theorem closed_run {e : Envelope} {before after : List EnvelopeCall}
    (closed : ∀ field ∈ hidden, e.cleared (before ++ after) t field = false) :
    ∀ field ∈ hidden, (e.run before).allows t field = false := by
  intro field covered
  rw [allows_run]
  refine Bool.eq_false_of_not_eq_true fun held => ?_
  have kept := cleared_mono held after
  rw [closed field covered] at kept
  cases kept

theorem unseen_run {e : Envelope} {before calls : List EnvelopeCall}
    (unseen : e.view t hidden before calls = []) :
    (e.run before).answersTo t calls = [] ∧
      Alike t hidden (e.run before) (e.run (before ++ calls)) := by
  induction calls generalizing before with
  | nil =>
    rw [List.append_nil]
    exact ⟨rfl, Alike.refl _⟩
  | cons c rest ih =>
    obtain ⟨first, others⟩ := List.append_eq_nil_iff.mp unseen
    rw [Option.toList_eq_nil_iff, ← admits_run] at first
    obtain ⟨other, alike⟩ := alike_unseen first
    obtain ⟨answers, later⟩ := ih others
    rw [run_concat] at answers later
    rw [answersTo, if_neg other, List.nil_append]
    rw [List.append_assoc] at later
    exact ⟨answers, alike.trans later⟩

theorem view_cons {e : Envelope} {before calls : List EnvelopeCall} {σ : Sighting}
    {later : List Sighting} (seen : e.view t hidden before calls = σ :: later) :
    ∃ unseen c rest, calls = unseen ++ c :: rest ∧ e.view t hidden before unseen = [] ∧
      sighting? t hidden (e.authorised (before ++ unseen) c) c = some σ ∧
      e.view t hidden (before ++ unseen ++ [c]) rest = later := by
  induction calls generalizing before with
  | nil => cases seen
  | cons c rest ih =>
    rw [view] at seen
    cases here : sighting? t hidden (e.authorised before c) c with
    | some first =>
      rw [here, Option.toList_some, List.singleton_append] at seen
      obtain ⟨rfl, rfl⟩ := List.cons.inj seen
      exact ⟨[], c, rest, rfl, rfl, by rwa [List.append_nil], by rw [List.append_nil]⟩
    | none =>
      rw [here] at seen
      obtain ⟨unseen, c', rest', rfl, nothing, first, others⟩ := ih seen
      refine ⟨c :: unseen, c', rest', rfl, ?_, ?_, ?_⟩
      · rw [view, here]
        exact nothing
      · rwa [List.append_assoc] at first
      · rwa [List.append_assoc before] at others

theorem answersTo_append (t : Token) (e : Envelope) (before after : List EnvelopeCall) :
    e.answersTo t (before ++ after) = e.answersTo t before ++ (e.run before).answersTo t after := by
  induction before generalizing e with
  | nil => rfl
  | cons c rest ih =>
    rw [List.cons_append, answersTo, answersTo, ih, List.append_assoc]
    rfl

theorem answers_alike {e₁ e₂ : Envelope} {before₁ before₂ calls₁ calls₂ : List EnvelopeCall}
    (alike : Alike t hidden (e₁.run before₁) (e₂.run before₂))
    (closed₁ : ∀ field ∈ hidden, e₁.cleared (before₁ ++ calls₁) t field = false)
    (closed₂ : ∀ field ∈ hidden, e₂.cleared (before₂ ++ calls₂) t field = false)
    (same : e₁.view t hidden before₁ calls₁ = e₂.view t hidden before₂ calls₂) :
    (e₁.run before₁).answersTo t calls₁ = (e₂.run before₂).answersTo t calls₂ := by
  induction calls₁ generalizing before₁ before₂ calls₂ with
  | nil => exact (unseen_run same.symm).1.symm
  | cons c₁ rest₁ ih =>
    rw [List.append_cons] at closed₁
    rw [view] at same
    cases here : sighting? t hidden (e₁.authorised before₁ c₁) c₁ with
    | none =>
      rw [here, Option.toList_none, List.nil_append] at same
      rw [← admits_run] at here
      obtain ⟨other, unchanged⟩ := alike_unseen here
      rw [answersTo, if_neg other, List.nil_append, ← run_concat]
      rw [← run_concat] at unchanged
      exact ih (unchanged.symm.trans alike) closed₁ closed₂ same
    | some σ =>
      -- The second run first does what the token does not see, then a call that looks the same.
      rw [here, Option.toList_some, List.singleton_append] at same
      obtain ⟨unseen, c₂, rest₂, rfl, nothing, second, others⟩ := view_cons same.symm
      obtain ⟨silent, unchanged⟩ := unseen_run nothing
      rw [← admits_run] at here second
      rw [List.append_assoc] at closed₁
      obtain ⟨later, answer⟩ := (alike.trans unchanged).step (closed_run closed₁) here second
      rw [answersTo_append, silent, List.nil_append, ← run_append, answersTo, answersTo, answer]
      rw [← run_concat, ← run_concat] at later
      rw [← List.append_assoc] at closed₁
      have rest_closed : ∀ field ∈ hidden,
          e₂.cleared (before₂ ++ unseen ++ [c₂] ++ rest₂) t field = false := by
        simpa only [List.append_assoc, List.singleton_append] using closed₂
      rw [← run_concat, ← run_concat, ih later closed₁ rest_closed others.symm]

end Envelope

open Envelope

/-- An envelope gives its fields to the main token and to whom that token has granted them. For
every sequence of calls with any tokens: a call that its token may not make is refused, with the
field it needs or the main token asked for, and changes nothing, and any other is not refused; each
field holds the last value that was written with a token that may write it; and when some fields
are granted to a token in neither of two runs, and the runs look the same to it but for these
fields, all its calls are answered the same. -/
theorem fields_guarded_by_grants :
    (∀ (e : Envelope) (before : List EnvelopeCall) (c : EnvelopeCall),
      (e.authorised before c = false →
        (e.run before).perform c = (e.run before, .refused c.op.refusal)) ∧
      (e.authorised before c = true → ∀ error, ((e.run before).perform c).2 ≠ .refused error)) ∧
    (∀ (e : Envelope) (calls : List EnvelopeCall) (field : EnvelopeField),
      (e.run calls).value? field = (e.lastWritten? calls field).or (e.value? field)) ∧
    ∀ (t : Token) (hidden : List EnvelopeField) (e₁ e₂ : Envelope)
      (calls₁ calls₂ : List EnvelopeCall), Alike t hidden e₁ e₂ →
      (∀ field ∈ hidden, e₁.cleared calls₁ t field = false ∧ e₂.cleared calls₂ t field = false) →
      e₁.view t hidden [] calls₁ = e₂.view t hidden [] calls₂ →
      e₁.answersTo t calls₁ = e₂.answersTo t calls₂ := by
  refine ⟨fun e before c => ⟨fun refused => ?_, fun admitted error => ?_⟩, value?_run,
    fun t hidden e₁ e₂ calls₁ calls₂ alike closed same => ?_⟩
  · exact perform_refused ((e.admits_run before c).trans refused)
  · rw [perform_admitted ((e.admits_run before c).trans admitted)]
    cases c.op <;> exact fun same => nomatch same
  · have start : Alike t hidden (e₁.run []) (e₂.run []) := alike
    exact answers_alike start (fun field covered => (closed field covered).1)
      (fun field covered => (closed field covered).2) same

/-- A stage that was granted the message reads it, and is refused the target, whatever the main
token has written there. -/
theorem target_hidden_from_stage :
    let e := Envelope.new ⟨0⟩ (.request (.new .read "/coap/dev/temp"))
    let calls (target : String) : List EnvelopeCall :=
      [⟨⟨0⟩, .grant ⟨1⟩ .message⟩, ⟨⟨0⟩, .write (.target (.of target))⟩, ⟨⟨0⟩, .pass⟩,
        ⟨⟨1⟩, .read .message⟩, ⟨⟨1⟩, .read .target⟩]
    e.answersTo ⟨1⟩ (calls "coap") = e.answersTo ⟨1⟩ (calls "http") ∧
      e.answersTo ⟨1⟩ (calls "coap") =
        [.value (some (.message e.content)), .refused (.accessDenied .target)] ∧
      ((e.run (calls "coap")).perform ⟨⟨1⟩, .read .target⟩).2 = .refused (.accessDenied .target) ∧
      (e.run (calls "coap")).value? .target = some (.target (.of "coap")) := by
  intro e calls
  obtain ⟨refuses, holds, hides⟩ := fields_guarded_by_grants
  have refused := (refuses e (calls "coap") ⟨⟨1⟩, .read .target⟩).1 (by decide +kernel)
  refine ⟨?_, by decide +kernel, congrArg Prod.snd refused, ?_⟩
  · exact hides ⟨1⟩ [.target] e e (calls "coap") (calls "http") (Alike.refl e) (by decide +kernel)
      (by decide +kernel)
  · rw [holds e (calls "coap") .target]
    decide +kernel

end ProtocolGateway
