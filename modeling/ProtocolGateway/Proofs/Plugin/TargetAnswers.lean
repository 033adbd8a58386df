import Mathlib
import ProtocolGateway.Proofs.Gateway.Store

/-!
What a memory target makes of a request. It does to one resource what the operation says, and what it
tells of the resource is true.
-/

namespace ProtocolGateway

def Message.acknowledges : Message → Bool
  | .reply r => r.headers.operation.isMutation
  | .request _ | .error _ => false

theorem Message.reply_of_acknowledges {m : Message} (acknowledges : m.acknowledges = true) :
    ∃ r, m = .reply r ∧ r.headers.operation.isMutation = true := by
  cases m with
  | reply r => exact ⟨r, rfl, acknowledges⟩
  | request r | error x => cases acknowledges

def Request.resource (r : Request) : String := MemoryTarget.keyOf r.headers.target r.headers.path

/-- Whether a resource is observed after an operation, by whether it was there and was observed. -/
def Operation.watched (o : Operation) (there observed : Bool) : Bool :=
  match o with
  | .observe => there
  | .unobserve | .delete => false
  | .create | .read | .update => observed

namespace MemoryTarget

/-- Only what exists is observed. -/
def Heeds (t : MemoryTarget) : Prop :=
  ∀ key, t.observed.contains key = true → (Table.at? t.resources key).isSome

inductive Does (t : MemoryTarget) (r : Request) : MemoryTarget → List Message → Prop where
  | reads (bytes : Octets) (operation : r.headers.operation = .read)
      (found : Table.at? t.resources r.resource = some bytes) :
      Does t r t [.reply (.answering r { payload := bytes, maxAge := t.maxAge })]
  | creates (operation : r.headers.operation = .create) :
      Does t r { t with resources := Table.put r.resource r.payload.data t.resources } [done r]
  | updates (bytes : Octets) (notes : List Message) (operation : r.headers.operation = .update)
      (found : Table.at? t.resources r.resource = some bytes)
      (noted : notes = [] ∨ t.observed.contains r.resource = true ∧
        notes = [.reply (notification r.headers.target r.headers.path r.payload.data)]) :
      Does t r { t with resources := Table.put r.resource r.payload.data t.resources }
        (done r :: notes)
  | deletes (bytes : Octets) (operation : r.headers.operation = .delete)
      (found : Table.at? t.resources r.resource = some bytes) :
      Does t r
        { t with
          resources := Table.erase t.resources r.resource
          observed := t.observed.filter (· ≠ r.resource) } [done r]
  | observes (bytes : Octets) (operation : r.headers.operation = .observe)
      (found : Table.at? t.resources r.resource = some bytes) :
      Does t r
        { t with
          observed :=
            if t.observed.contains r.resource then t.observed else t.observed ++ [r.resource] }
        [.reply (.forRequest r bytes)]
  | forgets (operation : r.headers.operation = .unobserve) :
      Does t r { t with observed := t.observed.filter (· ≠ r.resource) } [done r]
  | refuses (operation : r.headers.operation = .read ∨ r.headers.operation = .update ∨
        r.headers.operation = .delete ∨ r.headers.operation = .observe)
      (absent : Table.at? t.resources r.resource = none) : Does t r t [notFound r r.resource]

theorem does_answer (t : MemoryTarget) (r : Request) : t.Does r (t.answer r).1 (t.answer r).2 := by
  have key : keyOf r.headers.target r.headers.path = r.resource := rfl
  unfold answer
  simp only [key]
  cases operation : r.headers.operation with
  | create => exact .creates operation
  | unobserve => exact .forgets operation
  | read =>
    cases found : Table.at? t.resources r.resource with
    | some bytes => exact .reads bytes operation found
    | none => exact .refuses (Or.inl operation) found
  | delete =>
    cases found : Table.at? t.resources r.resource with
    | some bytes => exact .deletes bytes operation found
    | none => exact .refuses (Or.inr (Or.inr (Or.inl operation))) found
  | observe =>
    cases found : Table.at? t.resources r.resource with
    | some bytes => exact .observes bytes operation found
    | none => exact .refuses (Or.inr (Or.inr (Or.inr operation))) found
  | update =>
    cases found : Table.at? t.resources r.resource with
    | none => exact .refuses (Or.inr (Or.inl operation)) found
    | some bytes =>
      dsimp only
      split
      · rename_i tells
        have observed := (Bool.and_eq_true_iff.mp tells).1
        exact .updates bytes _ operation found (Or.inr ⟨observed, rfl⟩)
      · exact .updates bytes [] operation found (Or.inl rfl)

/-! Changes in one place -/

theorem eq_ite_of_kept {α : Type} {f : String → α} {x : α} {a : String} (kept : x = f a)
    (key : String) : f key = if a = key then x else f key := by
  by_cases here : a = key
  · rw [if_pos here, kept, here]
  · rw [if_neg here]

theorem contains_without (xs : List String) (a key : String) :
    (xs.filter (· ≠ a)).contains key = if a = key then false else xs.contains key := by
  by_cases here : a = key
  · simp [here]
  · simp [here, Ne.symm here]

theorem contains_with (xs : List String) (a key : String) :
    (if xs.contains a then xs else xs ++ [a]).contains key =
      if a = key then true else xs.contains key := by
  by_cases here : a = key
  · rw [if_pos here, ← here]
    split
    · assumption
    · simp
  · rw [if_neg here]
    split
    · rfl
    · simp [Ne.symm here]

namespace Does

variable {t t' : MemoryTarget} {r : Request} {messages : List Message}

theorem content (does : t.Does r t' messages) (key : String) :
    Table.at? t'.resources key =
      if r.resource = key then
        (r.headers.operation.applied r.payload.data (Table.at? t.resources r.resource)).1
      else Table.at? t.resources key := by
  cases does with
  | reads bytes operation found =>
    refine eq_ite_of_kept (f := Table.at? t.resources) ?_ key
    rw [operation, found]
    rfl
  | observes bytes operation found | forgets operation =>
    refine eq_ite_of_kept (f := Table.at? t.resources) ?_ key
    rw [operation]
    rfl
  | refuses operation absent =>
    refine eq_ite_of_kept (f := Table.at? t.resources) ?_ key
    rw [absent]
    rcases operation with operation | operation | operation | operation <;> rw [operation] <;> rfl
  | creates operation =>
    rw [Table.at?_put, operation]
    rfl
  | updates bytes notes operation found noted =>
    rw [Table.at?_put, operation, found]
    rfl
  | deletes bytes operation found =>
    rw [Table.at?_erase, operation, found]
    rfl

theorem settings (does : t.Does r t' messages) : t'.settings = t.settings ∧ t'.linked = t.linked := by
  cases does <;> exact ⟨rfl, rfl⟩

theorem observed (does : t.Does r t' messages) (heeds : t.Heeds) (key : String) :
    t'.observed.contains key =
      if r.resource = key then
        r.headers.operation.watched (Table.at? t.resources r.resource).isSome
          (t.observed.contains r.resource)
      else t.observed.contains key := by
  cases does with
  | reads bytes operation found | creates operation | updates bytes notes operation found noted =>
    refine eq_ite_of_kept (f := t.observed.contains) ?_ key
    rw [operation]
    rfl
  | deletes bytes operation found | forgets operation =>
    rw [contains_without, operation]
    rfl
  | observes bytes operation found =>
    rw [contains_with, operation, found]
    rfl
  | refuses operation absent =>
    -- Nothing that is absent is observed, so there is nothing to forget.
    have nobody : t.observed.contains r.resource = false := by
      by_contra observed
      have there := heeds _ (eq_true_of_ne_false observed)
      rw [absent] at there
      cases there
    refine eq_ite_of_kept (f := t.observed.contains) ?_ key
    rw [absent, nobody]
    rcases operation with operation | operation | operation | operation <;> rw [operation] <;> rfl

theorem heeds (does : t.Does r t' messages) (heeds : t.Heeds) : t'.Heeds := by
  intro key observed
  have content := does.content key
  cases does with
  | reads | refuses => exact heeds key observed
  | creates | updates =>
    rw [Table.at?_put]
    split
    · rfl
    · exact heeds key observed
  | forgets operation =>
    rw [List.contains_iff_mem] at observed
    exact heeds key (List.contains_iff_mem.mpr (List.mem_of_mem_filter observed))
  | deletes bytes operation found =>
    rw [List.contains_iff_mem, List.mem_filter] at observed
    have other : r.resource ≠ key := by
      rintro rfl
      simp at observed
    rw [Table.at?_erase, if_neg other]
    exact heeds key (List.contains_iff_mem.mpr observed.1)
  | observes bytes operation found =>
    split at observed
    · exact heeds key observed
    · rw [List.contains_iff_mem, List.mem_append, List.mem_singleton] at observed
      rcases observed with before | rfl
      · exact heeds key (List.contains_iff_mem.mpr before)
      · change (Table.at? t.resources r.resource).isSome
        rw [found]
        rfl

/-! What is told -/

theorem told (does : t.Does r t' messages) : messages ≠ [] := by
  cases does <;> exact List.cons_ne_nil _ _

theorem route (does : t.Does r t' messages) {m : Message} (member : m ∈ messages) :
    m.isReplyLike = true ∧ m.headers.target = r.headers.target ∧ m.headers.path = r.headers.path := by
  cases does with
  | updates bytes notes operation found noted =>
    rcases List.mem_cons.mp member with rfl | note
    · exact ⟨rfl, rfl, rfl⟩
    · rcases noted with rfl | ⟨_, rfl⟩
      · cases note
      · cases List.mem_singleton.mp note
        exact ⟨rfl, rfl, rfl⟩
  | _ =>
    cases List.mem_singleton.mp member
    exact ⟨rfl, rfl, rfl⟩

/-- Whichever message comes first, it is the answer. -/
theorem fits (does : t.Does r t' messages) {m : Message} (member : m ∈ messages) {a : Answer}
    (answer : (r.headers.operation.applied r.payload.data (Table.at? t.resources r.resource)).2 = some a)
    (s : Sequence) : a.Fits (Gateway.resolutionOf m s).outcome := by
  cases does with
  | reads bytes operation found =>
    rw [operation, found] at answer
    cases answer
    cases List.mem_singleton.mp member
    rfl
  | creates operation =>
    rw [operation] at answer
    cases answer
    cases List.mem_singleton.mp member
    trivial
  | updates bytes notes operation found noted =>
    rw [operation, found] at answer
    cases answer
    rcases List.mem_cons.mp member with rfl | note
    · trivial
    · rcases noted with rfl | ⟨_, rfl⟩
      · cases note
      · cases List.mem_singleton.mp note
        trivial
  | deletes bytes operation found =>
    rw [operation, found] at answer
    cases answer
    cases List.mem_singleton.mp member
    trivial
  | observes bytes operation found =>
    rw [operation] at answer
    cases answer
  | forgets operation =>
    rw [operation] at answer
    cases answer
  | refuses operation absent =>
    cases List.mem_singleton.mp member
    rw [absent] at answer
    rcases operation with operation | operation | operation | operation <;> rw [operation] at answer <;>
      cases answer <;> rfl

theorem truth (does : t.Does r t' messages) {x : Reply} (member : .reply x ∈ messages)
    (reads : x.headers.operation = .read ∨ x.headers.operation = .observe) :
    Table.at? t'.resources r.resource = some x.payload.data := by
  -- Acknowledgements are replies to something else.
  have other (operation : r.headers.operation ≠ .read ∧ r.headers.operation ≠ .observe)
      (acknowledgement : .reply x = done r) : Table.at? t'.resources r.resource = some x.payload.data := by
    cases acknowledgement
    exact absurd reads (not_or.mpr operation)
  cases does with
  | reads bytes operation found =>
    cases List.mem_singleton.mp member
    exact found
  | observes bytes operation found =>
    cases List.mem_singleton.mp member
    exact found
  | creates operation =>
    exact other (by rw [operation]; decide) (List.mem_singleton.mp member)
  | deletes bytes operation found =>
    exact other (by rw [operation]; decide) (List.mem_singleton.mp member)
  | forgets operation =>
    exact other (by rw [operation]; decide) (List.mem_singleton.mp member)
  | refuses operation absent => cases List.mem_singleton.mp member
  | updates bytes notes operation found noted =>
    rcases List.mem_cons.mp member with acknowledgement | note
    · exact other (by rw [operation]; decide) acknowledgement
    · rcases noted with rfl | ⟨_, rfl⟩
      · cases note
      · cases List.mem_singleton.mp note
        rw [Table.at?_put, if_pos rfl]
        rfl

theorem lasts (does : t.Does r t' messages) {x : Reply} (member : .reply x ∈ messages) {d : Span}
    (age : x.headers.maxAge = some d) : t.maxAge = some d ∨ r.headers.maxAge = some d := by
  cases does with
  | reads bytes operation found =>
    cases List.mem_singleton.mp member
    change (t.maxAge <|> r.headers.maxAge) = some d at age
    cases own : t.maxAge with
    | none =>
      rw [own] at age
      exact Or.inr age
    | some d' =>
      rw [own] at age
      exact Or.inl age
  | refuses operation absent => cases List.mem_singleton.mp member
  | updates bytes notes operation found noted =>
    rcases List.mem_cons.mp member with acknowledgement | note
    · cases acknowledgement
      exact Or.inr age
    · rcases noted with rfl | ⟨_, rfl⟩
      · cases note
      · cases List.mem_singleton.mp note
        cases age
  | creates | deletes | observes | forgets =>
    cases List.mem_singleton.mp member
    exact Or.inr age

theorem refused (does : t.Does r t' messages) {x : ErrorReply} (member : .error x ∈ messages) :
    messages = [.error x] ∧ Table.at? t'.resources r.resource = none := by
  cases does with
  | refuses operation absent =>
    cases List.mem_singleton.mp member
    exact ⟨rfl, absent⟩
  | updates bytes notes operation found noted =>
    rcases List.mem_cons.mp member with acknowledgement | note
    · cases acknowledgement
    · rcases noted with rfl | ⟨_, rfl⟩
      · cases note
      · cases List.mem_singleton.mp note
  | _ => cases List.mem_singleton.mp member

/-- A change is acknowledged, and nothing but the acknowledgement is told unless somebody observes. -/
theorem changes (does : t.Does r t' messages)
    (changed : Table.at? t'.resources r.resource ≠ Table.at? t.resources r.resource) :
    (∃ m ∈ messages, m.acknowledges = true) ∧
      (t'.observed.contains r.resource = true ∨ ∀ m ∈ messages, m.acknowledges = true) := by
  have alone (operation : r.headers.operation.isMutation = true) :
      (∃ m ∈ [done r], m.acknowledges = true) ∧
        (t'.observed.contains r.resource = true ∨ ∀ m ∈ [done r], m.acknowledges = true) :=
    ⟨⟨done r, List.mem_singleton.mpr rfl, operation⟩, Or.inr fun m member => by
      cases List.mem_singleton.mp member
      exact operation⟩
  cases does with
  | reads | observes | forgets | refuses => exact absurd rfl changed
  | creates operation => exact alone (by rw [operation]; rfl)
  | deletes bytes operation found => exact alone (by rw [operation]; rfl)
  | updates bytes notes operation found noted =>
    rcases noted with rfl | ⟨observed, rfl⟩
    · exact alone (by rw [operation]; rfl)
    · refine ⟨⟨done r, List.mem_cons_self, ?_⟩, Or.inl observed⟩
      change r.headers.operation.isMutation = true
      rw [operation]
      rfl

end Does

end MemoryTarget

end ProtocolGateway
