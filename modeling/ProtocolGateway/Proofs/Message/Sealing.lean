import Mathlib
import ProtocolGateway.Message.Drafting

/-!
Sealed messages. A request and its rerouted copies form a family, and whatever is called on its members,
one that has a sequence is sealed and stays the message it is. Replies are sealed by whatever makes
them, and so are the headers of errors.
-/

namespace ProtocolGateway

/-! Drafts -/

/-- What a draft has been told, the last word on each part. -/
def Reply.Parts.note (p : Reply.Parts) : DraftCall → Reply.Parts
  | .payload q => { p with payload := q.data }
  | .sequence s => { p with sequence := some s }
  | .contentType value => { p with contentType := some value }
  | .maxAge value => { p with maxAge := some value }

namespace ReplyDraft

structure Told (s : Sequence) (h : Headers) (p : Reply.Parts) (d : ReplyDraft) : Prop where
  sequence : d.sequence = p.sequence.getD s
  headers : d.headers = { h with
    contentType := p.contentType <|> h.contentType
    maxAge := p.maxAge <|> h.maxAge
    readOnly := false }
  payload : d.payload.data = p.payload

variable {s : Sequence} {h : Headers} {p : Reply.Parts} {d : ReplyDraft}

theorem attempt_writable {h : Headers} (writable : h.readOnly = false) (edit : HeaderEdit) :
    h.attempt edit = h.apply edit := by
  unfold Headers.attempt Headers.set
  rw [if_neg (by simp [writable])]

theorem Told.fill (told : Told s h p d) (c : DraftCall) : Told s h (p.note c) (d.fill c) := by
  have writable : d.headers.readOnly = false := by rw [told.headers]
  cases c with
  | payload q => exact ⟨told.sequence, told.headers, rfl⟩
  | sequence n => exact ⟨rfl, told.headers, told.payload⟩
  | contentType value =>
    refine ⟨told.sequence, ?_, told.payload⟩
    change d.headers.attempt (.contentType value) = _
    rw [attempt_writable writable, told.headers]
    rfl
  | maxAge value =>
    refine ⟨told.sequence, ?_, told.payload⟩
    change d.headers.attempt (.maxAge value) = _
    rw [attempt_writable writable, told.headers]
    rfl

theorem Told.fillAll (told : Told s h p d) (calls : List DraftCall) :
    Told s h (calls.foldl Reply.Parts.note p) (d.fillAll calls) := by
  induction calls generalizing p d with
  | nil => exact told
  | cons c rest ih => exact ih (told.fill c)

theorem Told.finish (told : Told s h p d) : d.finish = Reply.build s h p := by
  unfold ReplyDraft.finish Reply.build Headers.freeze Payload.freeze
  rw [told.sequence, told.headers, told.payload]

theorem told_answering (r : Request) : Told r.sequence r.headers {} (answering r) := by
  refine ⟨rfl, ?_, rfl⟩
  unfold answering Headers.toWritable
  cases r.headers.contentType <;> cases r.headers.maxAge <;> rfl

theorem told_notifying (operation : Operation) (target path : String) :
    Told 0 { Headers.new operation path with target := target } {} (notifying operation target path) :=
  ⟨rfl, rfl, rfl⟩

theorem finish_answering (r : Request) (calls : List DraftCall) :
    ((answering r).fillAll calls).finish = Reply.answering r (calls.foldl Reply.Parts.note {}) :=
  ((told_answering r).fillAll calls).finish

theorem finish_notifying (operation : Operation) (target path : String) (calls : List DraftCall) :
    ((notifying operation target path).fillAll calls).finish =
      Reply.notification operation target path (calls.foldl Reply.Parts.note {}) :=
  ((told_notifying operation target path).fillAll calls).finish

end ReplyDraft

/-! Replies and errors -/

/-- The replies there are: finished drafts and their copies under other sequences. -/
inductive Reply.Made : Reply → Prop where
  | answer (r : Request) (calls : List DraftCall) : Made ((ReplyDraft.answering r).fillAll calls).finish
  | notice (operation : Operation) (target path : String) (calls : List DraftCall) :
      Made ((ReplyDraft.notifying operation target path).fillAll calls).finish
  | retagged {x : Reply} (made : Made x) (s : Sequence) : Made (x.retagged s)

inductive ErrorReply.Made : ErrorReply → Prop where
  | request (r : Request) (reason : Reason) : Made (.forRequest r reason)
  | reply {x : Reply} (made : x.Made) (reason : Reason) : Made (.forReply x reason)
  | detailed {e : ErrorReply} (made : Made e) (detail : String) : Made (e.withDetail detail)
  | retagged {e : ErrorReply} (made : Made e) (s : Sequence) : Made (e.retagged s)

theorem Reply.Made.sealed {x : Reply} (made : x.Made) :
    x.headers.readOnly = true ∧ x.payload.readOnly = true := by
  induction made with
  | answer => exact ⟨rfl, rfl⟩
  | notice => exact ⟨rfl, rfl⟩
  | retagged _ _ ih => exact ih

theorem ErrorReply.Made.sealed {e : ErrorReply} (made : e.Made) : e.headers.readOnly = true := by
  induction made with
  | request => rfl
  | reply made => exact made.sealed.1
  | detailed _ _ ih => exact ih
  | retagged _ _ ih => exact ih

def Reply.Parts.calls (p : Reply.Parts) : List DraftCall :=
  .payload (.new p.payload) :: ((p.contentType.map .contentType).toList ++
    (p.maxAge.map .maxAge).toList ++ (p.sequence.map .sequence).toList)

theorem Reply.Parts.note_calls (p : Reply.Parts) : p.calls.foldl Reply.Parts.note {} = p := by
  obtain ⟨payload, contentType, maxAge, sequence⟩ := p
  cases contentType <;> cases maxAge <;> cases sequence <;> rfl

theorem Reply.made_answering (r : Request) (p : Reply.Parts) : (Reply.answering r p).Made := by
  rw [← p.note_calls, ← ReplyDraft.finish_answering]
  exact .answer r p.calls

theorem Reply.made_notification (operation : Operation) (target path : String) (p : Reply.Parts) :
    (Reply.notification operation target path p).Made := by
  rw [← p.note_calls, ← ReplyDraft.finish_notifying]
  exact .notice operation target path p.calls

/-! Calls on a request -/

inductive RequestEdit where
  | header (edit : HeaderEdit)
  | freezeHeaders
  | freezePayload
  | carry (p : Payload)
  | payload (data : Octets)
  | assign (s : Sequence)
  deriving DecidableEq

namespace Request

variable {r r' : Request}

def edit (r : Request) : RequestEdit → Except ProtocolError Request
  | .header edit => r.setHeader edit
  | .freezeHeaders => .ok { r with headers := r.headers.freeze }
  | .freezePayload => .ok { r with payload := r.payload.freeze }
  | .carry p => .ok (r.carrying p)
  | .payload data => r.setPayload data
  | .assign s => r.assignSequence s

def Sound (r : Request) : Prop :=
  r.isSequenced = true → r.headers.readOnly = true ∧ r.payload.readOnly = true

theorem setHeader_sealed (closed : r.headers.readOnly = true) (edit : HeaderEdit) :
    r.setHeader edit = .error .readOnly := by
  unfold setHeader Headers.set
  rw [if_pos closed]
  rfl

theorem setPayload_sealed (closed : r.payload.readOnly = true) (data : Octets) :
    r.setPayload data = .error .readOnly := by
  unfold setPayload Payload.set
  rw [if_pos closed]
  rfl

theorem carrying_sequenced (sequenced : r.isSequenced = true) (p : Payload) : r.carrying p = r :=
  if_pos sequenced

theorem assignSequence_sequenced (sequenced : r.isSequenced = true) (s : Sequence) :
    r.assignSequence s = .error (.alreadySequenced r.sequence.toNat) :=
  if_pos sequenced

theorem Sound.edit (sound : r.Sound) {e : RequestEdit} (edited : r.edit e = .ok r') : r'.Sound := by
  cases e with
  | header edit =>
    intro sequenced
    cases writable : r.headers.set edit with
    | error =>
      simp only [Request.edit, setHeader, writable, Except.map] at edited
      cases edited
    | ok h =>
      simp only [Request.edit, setHeader, writable, Except.map] at edited
      cases edited
      -- The setter went through, so there was no sequence yet.
      have closed := setHeader_sealed (sound sequenced).1 edit
      simp only [setHeader, writable, Except.map] at closed
      cases closed
  | payload data =>
    intro sequenced
    cases writable : r.payload.set data with
    | error =>
      simp only [Request.edit, setPayload, writable, Except.map] at edited
      cases edited
    | ok p =>
      simp only [Request.edit, setPayload, writable, Except.map] at edited
      cases edited
      have closed := setPayload_sealed (sound sequenced).2 data
      simp only [setPayload, writable, Except.map] at closed
      cases closed
  | freezeHeaders =>
    cases edited
    exact fun sequenced => ⟨rfl, (sound sequenced).2⟩
  | freezePayload =>
    cases edited
    exact fun sequenced => ⟨(sound sequenced).1, rfl⟩
  | carry p =>
    cases edited
    unfold carrying
    split
    · exact sound
    · rename_i unassigned
      exact fun sequenced => (unassigned sequenced).elim
  | assign s =>
    obtain ⟨_, _, rfl⟩ := assignSequence_ok edited
    exact fun _ => ⟨rfl, rfl⟩

theorem Sound.edit_sequenced (sound : r.Sound) (sequenced : r.isSequenced = true) {e : RequestEdit}
    (edited : r.edit e = .ok r') : r' = r := by
  obtain ⟨headers, payload⟩ := sound sequenced
  cases e with
  | header edit =>
    rw [Request.edit, setHeader_sealed headers] at edited
    cases edited
  | payload data =>
    rw [Request.edit, setPayload_sealed payload] at edited
    cases edited
  | freezeHeaders =>
    cases edited
    rw [Headers.freeze, ← headers]
  | freezePayload =>
    cases edited
    rw [Payload.freeze, ← payload]
  | carry p =>
    cases edited
    exact carrying_sequenced sequenced p
  | assign s =>
    rw [Request.edit, assignSequence_sequenced sequenced] at edited
    cases edited

theorem Sound.rerouted (sound : r.Sound) (target path : String) : (r.rerouted target path).Sound :=
  fun sequenced => ⟨sequenced, (sound sequenced).2⟩

theorem sound_new (operation : Operation) (path : String) : (Request.new operation path).Sound :=
  fun sequenced => by cases sequenced

end Request

/-! Families -/

/-- A request and the copies made of it and of its copies, the oldest first. -/
abbrev Family := List Request

inductive FamilyCall where
  | edit (member : Nat) (e : RequestEdit)
  | reroute (member : Nat) (target path : String)
  deriving DecidableEq

namespace Family

/-- A call on a member, with what it gives back. A copy joins the family at its end. -/
def perform (f : Family) : FamilyCall → Family × Except ProtocolError Unit
  | .edit i e =>
    match f[i]? with
    | none => (f, .ok ())
    | some r =>
      match r.edit e with
      | .ok r' => (f.set i r', .ok ())
      | .error cause => (f, .error cause)
  | .reroute i target path =>
    match f[i]? with
    | none => (f, .ok ())
    | some r => (f ++ [r.rerouted target path], .ok ())

def after (f : Family) (calls : List FamilyCall) : Family := calls.foldl (fun f c => (f.perform c).1) f

def given (f : Family) (i : Nat) : FamilyCall → List Sequence
  | .edit j (.assign s) =>
    if j = i ∧ i < f.length ∧ (f.perform (.edit j (.assign s))).2 = .ok () then [s] else []
  | _ => []

def assigned (f : Family) (i : Nat) : List FamilyCall → List Sequence
  | [] => []
  | c :: rest => f.given i c ++ assigned (f.perform c).1 i rest

def Sound (f : Family) : Prop := ∀ r ∈ f, r.Sound

variable {f : Family} {i : Nat} {r r' : Request} {e : RequestEdit}

theorem perform_edited (member : f[i]? = some r) (edited : r.edit e = .ok r') :
    f.perform (.edit i e) = (f.set i r', .ok ()) := by
  simp only [perform, member, edited]

theorem perform_refused (member : f[i]? = some r) {cause : ProtocolError}
    (refused : r.edit e = .error cause) : f.perform (.edit i e) = (f, .error cause) := by
  simp only [perform, member, refused]

theorem perform_reroute (member : f[i]? = some r) (target path : String) :
    f.perform (.reroute i target path) = (f ++ [r.rerouted target path], .ok ()) := by
  simp only [perform, member]

/-- A call leaves the family as it is, changes one member, or adds a copy of one. -/
theorem perform_cases (f : Family) (c : FamilyCall) :
    (∃ x, f.perform c = (f, x)) ∨
      (∃ i e r r', c = .edit i e ∧ f[i]? = some r ∧ r.edit e = .ok r' ∧
        f.perform c = (f.set i r', .ok ())) ∨
      ∃ (i : Nat) (r : Request) (target path : String),
        f[i]? = some r ∧ f.perform c = (f ++ [r.rerouted target path], .ok ()) := by
  cases c with
  | edit i e =>
    cases member : f[i]? with
    | none => exact Or.inl ⟨.ok (), by simp only [perform, member]⟩
    | some r =>
      cases edited : r.edit e with
      | error cause => exact Or.inl ⟨.error cause, perform_refused member edited⟩
      | ok r' => exact Or.inr (Or.inl ⟨i, e, r, r', rfl, member, edited, perform_edited member edited⟩)
  | reroute i target path =>
    cases member : f[i]? with
    | none => exact Or.inl ⟨.ok (), by simp only [perform, member]⟩
    | some r => exact Or.inr (Or.inr ⟨i, r, target, path, member, perform_reroute member target path⟩)

theorem unchanged_of_failed (f : Family) (c : FamilyCall) {cause : ProtocolError}
    (failed : (f.perform c).2 = .error cause) : (f.perform c).1 = f := by
  rcases f.perform_cases c with ⟨x, same⟩ | ⟨i, e, r, r', _, _, _, done⟩ | ⟨i, r, target, path, _, done⟩
  · rw [same]
  · rw [done] at failed
    cases failed
  · rw [done] at failed
    cases failed

theorem Sound.perform (sound : f.Sound) (c : FamilyCall) : (f.perform c).1.Sound := by
  rcases f.perform_cases c with
    ⟨x, same⟩ | ⟨i, e, r, r', _, member, edited, done⟩ | ⟨i, r, target, path, member, done⟩
  · rw [same]
    exact sound
  · rw [done]
    intro x listed
    rcases List.mem_or_eq_of_mem_set listed with old | rfl
    · exact sound x old
    · exact (sound r (List.mem_of_getElem? member)).edit edited
  · rw [done]
    intro x listed
    rcases List.mem_append.mp listed with old | new
    · exact sound x old
    · rw [List.mem_singleton.mp new]
      exact (sound r (List.mem_of_getElem? member)).rerouted target path

theorem Sound.after (sound : f.Sound) (calls : List FamilyCall) : (f.after calls).Sound := by
  induction calls generalizing f with
  | nil => exact sound
  | cons c rest ih => exact ih (sound.perform c)

theorem Sound.perform_keeps (sound : f.Sound) (member : f[i]? = some r)
    (sequenced : r.isSequenced = true) (c : FamilyCall) : (f.perform c).1[i]? = some r := by
  rcases f.perform_cases c with
    ⟨x, same⟩ | ⟨j, e, x, x', _, other, edited, done⟩ | ⟨j, x, target, path, _, done⟩
  · rw [same]
    exact member
  · rw [done]
    by_cases here : j = i
    · subst here
      cases other.symm.trans member
      rw [(sound r (List.mem_of_getElem? member)).edit_sequenced sequenced edited]
      rw [List.getElem?_set_self (List.getElem?_eq_some_iff.mp member).1]
    · rw [List.getElem?_set_ne here]
      exact member
  · rw [done, List.getElem?_append_left (List.getElem?_eq_some_iff.mp member).1]
    exact member

theorem Sound.after_keeps (sound : f.Sound) (member : f[i]? = some r) (sequenced : r.isSequenced = true)
    (calls : List FamilyCall) : (f.after calls)[i]? = some r := by
  induction calls generalizing f with
  | nil => exact member
  | cons c rest ih => exact ih (sound.perform c) (sound.perform_keeps member sequenced c)

/-! Sequences -/

theorem given_cases (f : Family) (i : Nat) (c : FamilyCall) :
    f.given i c = [] ∨ ∃ s r r', f.given i c = [s] ∧ s ≠ 0 ∧ f[i]? = some r ∧ r.isSequenced = false ∧
      (f.perform c).1[i]? = some r' ∧ r'.sequence = s := by
  cases c with
  | reroute => exact Or.inl rfl
  | edit j e =>
    cases e with
    | header | freezeHeaders | freezePayload | carry | payload => exact Or.inl rfl
    | assign s =>
      dsimp only [given]
      split
      · rename_i went
        obtain ⟨rfl, known, passed⟩ := went
        right
        have member : f[j]? = some f[j] := List.getElem?_eq_getElem known
        cases edited : f[j].edit (.assign s) with
        | error cause =>
          rw [perform_refused member edited] at passed
          cases passed
        | ok r' =>
          obtain ⟨unassigned, nonzero, sealed⟩ := Request.assignSequence_ok edited
          refine ⟨s, f[j], r', rfl, nonzero, member, unassigned, ?_, by rw [sealed]⟩
          rw [perform_edited member edited]
          exact List.getElem?_set_self known
      · exact Or.inl rfl

theorem isSequenced_of_ne {r : Request} (nonzero : r.sequence ≠ 0) : r.isSequenced = true := by
  unfold Request.isSequenced
  simpa using nonzero

theorem Sound.given_sequenced (member : f[i]? = some r) (sequenced : r.isSequenced = true)
    (c : FamilyCall) : f.given i c = [] := by
  rcases f.given_cases i c with none | ⟨s, x, _, _, _, other, unassigned, _⟩
  · exact none
  · cases other.symm.trans member
    rw [sequenced] at unassigned
    cases unassigned

theorem Sound.assigned_sequenced (sound : f.Sound) (member : f[i]? = some r)
    (sequenced : r.isSequenced = true) (calls : List FamilyCall) : f.assigned i calls = [] := by
  induction calls generalizing f with
  | nil => rfl
  | cons c rest ih =>
    have later := ih (sound.perform c) (sound.perform_keeps member sequenced c)
    rw [assigned, Sound.given_sequenced member sequenced c, later]
    rfl

/-- At most one sequence is assigned to a member, and it is the one that the member ends with. -/
theorem Sound.assigned_once (sound : f.Sound) (i : Nat) (calls : List FamilyCall) :
    f.assigned i calls = [] ∨ ∃ s r, f.assigned i calls = [s] ∧ s ≠ 0 ∧
      (f.after calls)[i]? = some r ∧ r.sequence = s := by
  induction calls generalizing f with
  | nil => exact Or.inl rfl
  | cons c rest ih =>
    rcases f.given_cases i c with none | ⟨s, _, r, given, nonzero, _, _, member, mine⟩
    · rw [assigned, none]
      exact ih (sound.perform c)
    · right
      have sequenced : r.isSequenced = true := isSequenced_of_ne (mine ▸ nonzero)
      have later := (sound.perform c).assigned_sequenced member sequenced rest
      refine ⟨s, r, ?_, nonzero, (sound.perform c).after_keeps member sequenced rest, mine⟩
      rw [assigned, given, later]
      rfl

/-! Sealed members -/

structure Fixed (f : Family) (i : Nat) (r : Request) : Prop where
  stays : ∀ more, (f.after more)[i]? = some r
  headers : ∀ edit, f.perform (.edit i (.header edit)) = (f, .error .readOnly)
  payload : ∀ data, f.perform (.edit i (.payload data)) = (f, .error .readOnly)
  carry : ∀ p, f.perform (.edit i (.carry p)) = (f, .ok ())
  assign : ∀ s, f.perform (.edit i (.assign s)) = (f, .error (.alreadySequenced r.sequence.toNat))

theorem Sound.fixed (sound : f.Sound) (member : f[i]? = some r) (sequenced : r.isSequenced = true) :
    f.Fixed i r := by
  obtain ⟨headers, payload⟩ := sound r (List.mem_of_getElem? member) sequenced
  constructor
  case stays => exact sound.after_keeps member sequenced
  case headers =>
    intro edit
    exact perform_refused member (Request.setHeader_sealed headers edit)
  case payload =>
    intro data
    exact perform_refused member (Request.setPayload_sealed payload data)
  case carry =>
    intro p
    have same : r.edit (.carry p) = .ok r := congrArg Except.ok (Request.carrying_sequenced sequenced p)
    obtain ⟨known, here⟩ := List.getElem?_eq_some_iff.mp member
    rw [perform_edited member same, ← here, List.set_getElem_self]
  case assign =>
    intro s
    exact perform_refused member (Request.assignSequence_sequenced sequenced s)

end Family

structure Request.CopyOf (copy r : Request) (target path : String) : Prop where
  sequence : copy.sequence = r.sequence
  payload : copy.payload = r.payload
  target : copy.headers.target = target
  path : copy.headers.path = path
  others : { copy.headers with
    target := r.headers.target, path := r.headers.path, readOnly := r.headers.readOnly } = r.headers
  closed : copy.headers.readOnly = true ↔ r.isSequenced = true

/-- Messages stay sealed, whatever is called on a new request and on the copies made of it. Each of them
is assigned one sequence at most, never zero, and keeps it. From then on it cannot be changed. A call that
fails changes nothing. A copy is its original but for the route, and sealed if that has a sequence. Replies
and errors are sealed by whatever makes them. -/
theorem messages_stay_sealed (operation : Operation) (path : String) (calls : List FamilyCall) :
    let start : Family := [Request.new operation path]
    let f := start.after calls
    (∀ i, start.assigned i calls = [] ∨ ∃ s r, start.assigned i calls = [s] ∧ s ≠ 0 ∧
      f[i]? = some r ∧ r.sequence = s) ∧
    (∀ i r, f[i]? = some r → r.isSequenced = true →
      r.headers.readOnly = true ∧ r.payload.readOnly = true ∧ f.Fixed i r) ∧
    (∀ c cause, (f.perform c).2 = .error cause → (f.perform c).1 = f) ∧
    (∀ (i : Nat) (r : Request) (target path : String), f[i]? = some r →
      ∃ copy : Request, f.perform (.reroute i target path) = (f ++ [copy], .ok ()) ∧
        copy.CopyOf r target path) ∧
    (∀ x : Reply, x.Made → x.headers.readOnly = true ∧ x.payload.readOnly = true) ∧
    ∀ e : ErrorReply, e.Made → e.headers.readOnly = true := by
  intro start f
  have first : start.Sound := by
    intro r member
    rw [List.mem_singleton.mp member]
    exact Request.sound_new operation path
  have sound : f.Sound := first.after calls
  refine ⟨fun i => first.assigned_once i calls, fun i r member sequenced => ?_,
    fun c _ => f.unchanged_of_failed c, fun i r target path member => ?_,
    fun _ made => made.sealed, fun _ made => made.sealed⟩
  · obtain ⟨headers, payload⟩ := sound r (List.mem_of_getElem? member) sequenced
    exact ⟨headers, payload, sound.fixed member sequenced⟩
  · exact ⟨r.rerouted target path, Family.perform_reroute member target path, rfl, rfl, rfl, rfl, rfl, Iff.rfl⟩

end ProtocolGateway
