import Mathlib
import ProtocolGateway.Message.Documents
import ProtocolGateway.Message.Drafting
import ProtocolGateway.Message.Typed

/-!
Acceptable content types. Accepting adds a type at the end, unless it is there, so the types that calls
add come once each and in the order in which they were first asked for. What a document lists is taken
as it stands, and no call takes out what is repeated there.
-/

namespace ProtocolGateway

/-- A call on headers. What follows on `toWritable` is called on the copy, whose history begins with
that of its original. -/
inductive HeaderCall where
  | set (edit : HeaderEdit)
  | freeze
  | toWritable
  deriving DecidableEq, Repr

namespace Headers

/-! One type after the other -/

theorem nodup_addAccepted (types : List String) (value : String) :
    (addAccepted types value).Nodup ↔ types.Nodup := by
  unfold addAccepted
  split
  · rfl
  · rename_i new
    have absent : value ∉ types := fun listed => new (List.contains_iff_mem.mpr listed)
    constructor
    · intro nodup
      exact nodup.sublist (List.sublist_append_left types [value])
    · intro nodup
      rw [← List.concat_eq_append]
      exact nodup.concat absent

theorem foldl_addAccepted (types values : List String) :
    values.foldl addAccepted types = types ++ (values.removeAll types).eraseDups := by
  induction values generalizing types with
  | nil => simp [List.removeAll]
  | cons value rest ih =>
    rw [List.foldl_cons, ih]
    by_cases listed : types.contains value = true
    · have same : addAccepted types value = types := if_pos listed
      have skipped : (value :: rest).removeAll types = rest.removeAll types := by
        simp [List.removeAll, List.contains_iff_mem.mp listed]
      rw [same, skipped]
    · have longer : addAccepted types value = types ++ [value] := if_neg listed
      have absent : value ∉ types := fun member => listed (List.contains_iff_mem.mpr member)
      have first : (value :: rest).removeAll types = value :: rest.removeAll types := by
        simp [List.removeAll, absent]
      -- What is new to the longer list is what is new to the shorter one and not the value itself.
      have later : rest.removeAll (types ++ [value]) =
          (rest.removeAll types).filter fun other => !other == value := by
        unfold List.removeAll
        rw [List.filter_filter]
        apply List.filter_congr
        intro other _
        simp [Bool.and_comm, beq_eq_decide]
      rw [longer, first, List.eraseDups_cons, later, List.append_assoc]
      rfl

theorem nodup_foldl_addAccepted (types values : List String) :
    (values.foldl addAccepted types).Nodup ↔ types.Nodup := by
  induction values generalizing types with
  | nil => rfl
  | cons value rest ih => exact (ih (addAccepted types value)).trans (nodup_addAccepted types value)

/-! Calls -/

def call (h : Headers) : HeaderCall → Headers
  | .set edit => h.attempt edit
  | .freeze => h.freeze
  | .toWritable => h.toWritable

def after (h : Headers) (calls : List HeaderCall) : Headers := calls.foldl call h

def heeds (h : Headers) : HeaderCall → List String
  | .set (.accept value) => if h.readOnly then [] else [value]
  | _ => []

def heeded : Headers → List HeaderCall → List String
  | _, [] => []
  | h, c :: rest => h.heeds c ++ (h.call c).heeded rest

theorem accepted_call (h : Headers) (c : HeaderCall) :
    (h.call c).accepted = (h.heeds c).foldl addAccepted h.accepted := by
  cases c with
  | freeze => rfl
  | toWritable => rfl
  | set edit =>
    change (h.attempt edit).accepted = _
    unfold attempt Headers.set
    cases closed : h.readOnly with
    | true => cases edit <;> simp [heeds, closed]
    | false => cases edit <;> simp [heeds, closed, apply]

theorem accepted_after (h : Headers) (calls : List HeaderCall) :
    (h.after calls).accepted = (h.heeded calls).foldl addAccepted h.accepted := by
  induction calls generalizing h with
  | nil => rfl
  | cons c rest ih =>
    change ((h.call c).after rest).accepted = _
    rw [ih, accepted_call, heeded, List.foldl_append]

end Headers

/-! Documents -/

/-- A document gives a datum for a field: under a key of its name, or at its place in a list. -/
def Datum.Gives (x : Datum) (d : Dialect) (names : List String) (field : String) (y : Datum) : Prop :=
  match x with
  | .map members => ∃ key, (key, y) ∈ members ∧ Reader.nameOf d names key = some field
  | .list items => ∃ i : Nat, names[i]? = some field ∧ items[i]? = some y
  | _ => False

namespace Reader

variable {d : Dialect} {names : List String} {x y : Datum}

theorem getElem?_mapM {α β : Type} {f : α → Option β} {xs : List α} {ys : List β}
    (read : xs.mapM f = some ys) (i : Nat) : ys[i]? = xs[i]?.bind f := by
  induction xs generalizing ys i with
  | nil =>
    cases read
    rfl
  | cons x rest ih =>
    rw [List.mapM_cons] at read
    obtain ⟨y, head, read⟩ := Option.bind_eq_some_iff.mp read
    obtain ⟨zs, tail, read⟩ := Option.bind_eq_some_iff.mp read
    cases read
    cases i with
    | zero => exact head.symm
    | succ i => exact ih tail i

theorem mem_mapM {α β : Type} {f : α → Option β} {xs : List α} {ys : List β}
    (read : xs.mapM f = some ys) {y : β} (member : y ∈ ys) : ∃ x ∈ xs, f x = some y := by
  obtain ⟨i, here⟩ := List.mem_iff_getElem?.mp member
  rw [getElem?_mapM read] at here
  obtain ⟨x, there, reads⟩ := Option.bind_eq_some_iff.mp here
  exact ⟨x, List.mem_of_getElem? there, reads⟩

theorem mem_of_slotAmong {members : List (String × Datum)} {name : String}
    (given : slotAmong members name = some (.given y)) : (name, y) ∈ members := by
  unfold slotAmong at given
  split at given
  · cases given
  · rename_i key value alone
    cases given
    have kept := List.mem_filter.mp (alone ▸ List.mem_singleton_self (key, y))
    have here : key = name := beq_iff_eq.mp kept.2
    exact here ▸ kept.1
  · cases given

theorem getElem?_slotsOfList (names : List String) (items : List Datum) (i : Nat)
    (given : (slotsOfList names items)[i]? = some (.given y)) : items[i]? = some y := by
  induction names generalizing items i with
  | nil => cases given
  | cons name names ih =>
    cases items with
    | nil =>
      cases i with
      | zero => cases given
      | succ i => exact absurd (ih [] i given) (by simp)
    | cons x items =>
      cases i with
      | zero =>
        cases given
        rfl
      | succ i => exact ih items i given

theorem slots_gives {found : List Slot} (read : slots names d x = some found) {i : Nat}
    {field : String} (place : names[i]? = some field) (given : found[i]? = some (.given y)) :
    x.Gives d names field y := by
  unfold slots at read
  split at read
  · rename_i members
    obtain ⟨named, keyed, read⟩ := Option.bind_eq_some_iff.mp read
    have among : slotAmong named field = some (.given y) := by
      have here := getElem?_mapM read i
      rw [given, place] at here
      exact here.symm
    obtain ⟨⟨key, value⟩, member, keys⟩ := mem_mapM keyed (mem_of_slotAmong among)
    obtain ⟨name, known, same⟩ := Option.map_eq_some_iff.mp keys
    cases same
    exact ⟨key, member, known⟩
  · rename_i items
    split at read
    · cases read
    · cases read
      exact ⟨i, place, getElem?_slotsOfList names items i given⟩
  · cases read

end Reader

theorem Headers.reader_lists {d : Dialect} {x : Datum} {h : Headers}
    (read : Headers.reader d x = some h) :
    h.readOnly = false ∧
      ∃ y, x.Gives d fieldNames "accepted_content_types" y ∧
        Reader.list Reader.text d y = some h.accepted := by
  unfold reader at read
  obtain ⟨found, slots, read⟩ := Option.bind_eq_some_iff.mp read
  split at read
  · rename_i operation target path contentType accepted qos maxAge
    obtain ⟨_, _, read⟩ := Option.bind_eq_some_iff.mp read
    obtain ⟨_, _, read⟩ := Option.bind_eq_some_iff.mp read
    obtain ⟨_, _, read⟩ := Option.bind_eq_some_iff.mp read
    obtain ⟨_, _, read⟩ := Option.bind_eq_some_iff.mp read
    obtain ⟨types, listed, read⟩ := Option.bind_eq_some_iff.mp read
    obtain ⟨_, _, read⟩ := Option.bind_eq_some_iff.mp read
    obtain ⟨_, _, read⟩ := Option.bind_eq_some_iff.mp read
    cases read
    refine ⟨rfl, ?_⟩
    cases accepted with
    | given y => exact ⟨y, Reader.slots_gives slots (i := 4) rfl rfl, listed⟩
    | absent => cases listed
    | cutOff => cases listed
  · cases read

/-! What headers accept -/

/-- Whatever is called on headers: types that are accepted come after those that are there, each of them
once, in the order in which they were first accepted while the headers were writable. So no type stands
twice in headers that began as new ones. Headers of a document begin with what it lists, and a type stands
twice in them as long as they last exactly if it does in that list. -/
theorem accepted_types_in_order (calls more : List HeaderCall) :
    (∀ (operation : Operation) (path : String),
      ((Headers.new operation path).after calls).accepted.Nodup) ∧
    (∀ (d : Dialect) (x : Datum) (start : Headers), Headers.reader d x = some start →
      (∃ y, x.Gives d Headers.fieldNames "accepted_content_types" y ∧
        Reader.list Reader.text d y = some start.accepted) ∧
      ((start.after calls).accepted.Nodup ↔ start.accepted.Nodup)) ∧
    ∀ start : Headers,
      let h := start.after calls
      (h.after more).accepted = h.accepted ++ ((h.heeded more).removeAll h.accepted).eraseDups := by
  have kept (start : Headers) : (start.after calls).accepted.Nodup ↔ start.accepted.Nodup := by
    rw [Headers.accepted_after]
    exact Headers.nodup_foldl_addAccepted start.accepted (start.heeded calls)
  refine ⟨?_, ?_, ?_⟩
  · intro operation path
    exact (kept (Headers.new operation path)).mpr List.nodup_nil
  · intro d x start read
    exact ⟨(Headers.reader_lists read).2, kept start⟩
  · intro start h
    rw [Headers.accepted_after]
    exact Headers.foldl_addAccepted h.accepted (h.heeded more)

def sensorHeaders (types : String) : Octets :=
  Text.Utf8.encode ("\x7b\"operation\": \"READ\", \"target\": \"dev\", \"path\": \"/temp\", " ++
    "\"accepted_content_types\": " ++ types ++ ", \"qos\": 0\x7d")

/-- Headers from a document take two more types. One that they have is not added, nor is one that they are
told of while they are frozen. -/
theorem listed_types_come_first :
    let read := fun text => (Json.read text).bind (Headers.reader MediaType.jsonDialect)
    let accept := fun value => HeaderCall.set (.accept value)
    let calls := [accept "text/html", .freeze, accept "image/png", .toWritable]
    let more := [accept "text/csv", accept "text/html", accept "text/plain", accept "text/csv"]
    ∃ start, read (sensorHeaders "[\"text/plain\"]") = some start ∧
      (start.after calls).accepted = ["text/plain", "text/html"] ∧
      ((start.after calls).after more).accepted = ["text/plain", "text/html", "text/csv"] ∧
      (start.after calls).accepted.Nodup := by
  intro read accept calls more
  let start : Headers := ⟨.read, "dev", "/temp", none, ["text/plain"], .atMostOnce, none, false⟩
  have found : read (sensorHeaders "[\"text/plain\"]") = some start := by decide +kernel
  obtain ⟨x, -, given⟩ := Option.bind_eq_some_iff.mp found
  obtain ⟨-, documents, adds⟩ := accepted_types_in_order calls more
  refine ⟨start, found, by decide +kernel, (adds start).trans (by decide +kernel), ?_⟩
  exact (documents _ x start given).2.mpr (List.nodup_singleton "text/plain")

/-- A document lists a type twice. It is read, and the type stands there twice. -/
theorem repeated_types_are_read :
    ¬∀ (text : Octets) (start : Headers) (calls : List HeaderCall),
      (Json.read text).bind (Headers.reader MediaType.jsonDialect) = some start →
      (start.after calls).accepted.Nodup := by
  intro all
  let start : Headers :=
    ⟨.read, "dev", "/temp", none, ["text/plain", "text/plain"], .atMostOnce, none, false⟩
  have distinct : start.accepted.Nodup :=
    all (sensorHeaders "[\"text/plain\", \"text/plain\"]") start [] (by decide +kernel)
  revert distinct
  decide

end ProtocolGateway
