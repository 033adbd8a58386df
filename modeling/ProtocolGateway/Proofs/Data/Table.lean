import Mathlib
import ProtocolGateway.Data.Table

/-!
Finite maps as lists of entries: what each operation does to a look-up, to the keys, and to a sum
over the entries.
-/

namespace ProtocolGateway

theorem total_congr {α : Type} {f g : α → Nat} {xs : List α} (same : ∀ x ∈ xs, f x = g x) :
    total f xs = total g xs := by
  induction xs with
  | nil => rfl
  | cons x rest ih =>
    rw [total_cons, total_cons, same x List.mem_cons_self,
      ih fun y member => same y (List.mem_cons_of_mem x member)]

theorem total_map {α β : Type} (f : β → Nat) (h : α → β) (xs : List α) :
    total f (xs.map h) = total (fun x => f (h x)) xs := by
  induction xs with
  | nil => rfl
  | cons x rest ih => simp [ih]

theorem total_filter {α : Type} (f : α → Nat) (keep : α → Bool) {xs : List α}
    (dropped : ∀ x ∈ xs, keep x = false → f x = 0) : total f (xs.filter keep) = total f xs := by
  induction xs with
  | nil => rfl
  | cons x rest ih =>
    have tail := ih fun y member => dropped y (List.mem_cons_of_mem x member)
    cases kept : keep x with
    | true => simp [kept, tail]
    | false => simp [kept, tail, dropped x List.mem_cons_self kept]

theorem total_perm {α : Type} (f : α → Nat) {xs ys : List α} (order : xs.Perm ys) :
    total f xs = total f ys := by
  induction order with
  | nil => rfl
  | cons x _ ih => simp [ih]
  | swap x y rest => simp only [total_cons]; omega
  | trans _ _ first second => exact first.trans second

theorem total_eq_zero {α : Type} {f : α → Nat} {xs : List α} (none : ∀ x ∈ xs, f x = 0) :
    total f xs = 0 := by
  induction xs with
  | nil => rfl
  | cons x rest ih =>
    rw [total_cons, none x List.mem_cons_self,
      ih fun y member => none y (List.mem_cons_of_mem x member)]

theorem le_total {α : Type} (f : α → Nat) {xs : List α} {x : α} (member : x ∈ xs) :
    f x ≤ total f xs := by
  induction xs with
  | nil => cases member
  | cons y rest ih =>
    rw [total_cons]
    rcases List.mem_cons.mp member with rfl | tail
    · omega
    · have := ih tail
      omega

namespace Table

variable {α β : Type} [DecidableEq α]

@[simp] theorem at?_nil (k : α) : at? ([] : Table α β) k = none := rfl

@[simp] theorem at?_cons (e : α × β) (t : Table α β) (k : α) :
    at? (e :: t) k = if e.1 = k then some e.2 else at? t k := by
  by_cases hit : e.1 = k <;> simp [at?, hit]

theorem put_cons (e : α × β) (t : Table α β) (k : α) (v : β) :
    put k v (e :: t) = if e.1 = k then (k, v) :: t else e :: put k v t := rfl

theorem erase_cons (e : α × β) (t : Table α β) (k : α) :
    erase (e :: t) k = if e.1 = k then erase t k else e :: erase t k := by
  by_cases hit : e.1 = k <;> simp [erase, hit]

theorem update_cons (e : α × β) (t : Table α β) (k : α) (f : β → β) :
    update (e :: t) k f = (if e.1 = k then (e.1, f e.2) else e) :: update t k f := rfl

theorem at?_put (t : Table α β) (k k' : α) (v : β) :
    at? (put k v t) k' = if k = k' then some v else at? t k' := by
  induction t with
  | nil => simp [put]
  | cons e rest ih =>
    rw [put_cons]
    by_cases hit : e.1 = k
    · by_cases same : k = k' <;> simp [hit, same]
    · rw [if_neg hit, at?_cons, at?_cons, ih]
      by_cases same : k = k'
      · have other : e.1 ≠ k' := same ▸ hit
        simp [same, other]
      · simp [same]

theorem at?_erase (t : Table α β) (k k' : α) :
    at? (erase t k) k' = if k = k' then none else at? t k' := by
  induction t with
  | nil => simp [erase]
  | cons e rest ih =>
    rw [erase_cons]
    by_cases hit : e.1 = k
    · rw [if_pos hit, ih, at?_cons, hit]
      by_cases same : k = k' <;> simp [same]
    · rw [if_neg hit, at?_cons, at?_cons, ih]
      by_cases same : k = k'
      · have other : e.1 ≠ k' := same ▸ hit
        simp [same, other]
      · simp [same]

theorem at?_update (t : Table α β) (k k' : α) (f : β → β) :
    at? (update t k f) k' = if k = k' then (at? t k').map f else at? t k' := by
  induction t with
  | nil => simp [update]
  | cons e rest ih =>
    rw [update_cons, at?_cons, at?_cons, ih]
    by_cases hit : e.1 = k
    · by_cases same : k = k' <;> simp [hit, same]
    · by_cases same : k = k'
      · have other : e.1 ≠ k' := same ▸ hit
        simp [same, other]
      · simp [hit, same]

theorem at?_map (t : Table α β) {γ : Type} (f : β → γ) (k : α) :
    at? (t.map fun e => (e.1, f e.2)) k = (at? t k).map f := by
  induction t with
  | nil => rfl
  | cons e rest ih => by_cases hit : e.1 = k <;> simp [hit, ih]

theorem mem_of_at? {t : Table α β} {k : α} {v : β} (found : at? t k = some v) : (k, v) ∈ t := by
  induction t with
  | nil => simp at found
  | cons e rest ih =>
    by_cases hit : e.1 = k
    · simp only [at?_cons, hit, ↓reduceIte, Option.some.injEq] at found
      exact List.mem_cons.mpr (Or.inl (Prod.ext hit.symm found.symm))
    · simp only [at?_cons, hit, ↓reduceIte] at found
      exact List.mem_cons_of_mem e (ih found)

theorem mem_put {t : Table α β} {k : α} {v : β} {e : α × β} (member : e ∈ put k v t) :
    e = (k, v) ∨ e ∈ t := by
  induction t with
  | nil => exact Or.inl (List.mem_singleton.mp member)
  | cons head rest ih =>
    rw [put_cons] at member
    split at member
    · rcases List.mem_cons.mp member with new | old
      · exact Or.inl new
      · exact Or.inr (List.mem_cons_of_mem head old)
    · rcases List.mem_cons.mp member with rfl | later
      · exact Or.inr List.mem_cons_self
      · exact (ih later).imp_right (List.mem_cons_of_mem head)

theorem has_eq (t : Table α β) (k : α) : has t k = (at? t k).isSome := by
  induction t with
  | nil => rfl
  | cons e rest ih =>
    simp only [has] at ih
    by_cases hit : e.1 = k <;> simp [has, hit, ih]

theorem erase_of_absent {t : Table α β} {k : α} (absent : at? t k = none) : erase t k = t := by
  induction t with
  | nil => rfl
  | cons e rest ih =>
    by_cases hit : e.1 = k
    · simp [hit] at absent
    · simp only [at?_cons, hit, ↓reduceIte] at absent
      rw [erase_cons, if_neg hit, ih absent]

theorem erase_put (t : Table α β) (k : α) (v : β) : erase (put k v t) k = erase t k := by
  induction t with
  | nil => simp [put, erase]
  | cons e rest ih =>
    rw [put_cons]
    by_cases hit : e.1 = k
    · rw [if_pos hit, erase_cons, if_pos rfl, erase_cons, if_pos hit]
    · rw [if_neg hit, erase_cons, if_neg hit, erase_cons, if_neg hit, ih]

/-! Keys -/

omit [DecidableEq α] in
theorem keys_cons (e : α × β) (t : Table α β) : keys (e :: t) = e.1 :: keys t := rfl

theorem keys_put (t : Table α β) (k : α) (v : β) :
    keys (put k v t) = if k ∈ keys t then keys t else keys t ++ [k] := by
  induction t with
  | nil => simp [put, keys]
  | cons e rest ih =>
    rw [put_cons]
    by_cases hit : e.1 = k
    · simp [keys_cons, hit]
    · have other : k ≠ e.1 := fun eq => hit eq.symm
      rw [if_neg hit, keys_cons, ih, keys_cons]
      by_cases later : k ∈ keys rest
      · simp [later]
      · simp [later, other]

theorem put_of_absent {t : Table α β} {k : α} (absent : k ∉ keys t) (v : β) :
    put k v t = t ++ [(k, v)] := by
  induction t with
  | nil => rfl
  | cons e rest ih =>
    rw [keys_cons, List.mem_cons, not_or] at absent
    rw [put_cons, if_neg fun same => absent.1 same.symm, ih absent.2]
    rfl

theorem at?_of_mem {t : Table α β} (unique : (keys t).Nodup) {e : α × β} (member : e ∈ t) :
    at? t e.1 = some e.2 := by
  induction t with
  | nil => cases member
  | cons head rest ih =>
    obtain ⟨absent, tail⟩ : head.1 ∉ keys rest ∧ (keys rest).Nodup := List.nodup_cons.mp unique
    rw [at?_cons]
    rcases List.mem_cons.mp member with rfl | later
    · rw [if_pos rfl]
    · have key : e.1 ∈ keys rest := List.mem_map_of_mem later
      rw [if_neg fun same : head.1 = e.1 => absent (same ▸ key)]
      exact ih tail later

theorem nodup_put {t : Table α β} (unique : (keys t).Nodup) (k : α) (v : β) :
    (keys (put k v t)).Nodup := by
  rw [keys_put]
  split
  · exact unique
  · rename_i absent
    exact List.nodup_append.mpr ⟨unique, by simp, fun a member b last => by
      rw [List.mem_singleton.mp last]
      exact fun same => absent (same ▸ member)⟩

omit [DecidableEq α] in
theorem nodup_filter {t : Table α β} (unique : (keys t).Nodup) (keep : α × β → Bool) :
    (keys (t.filter keep)).Nodup :=
  List.Sublist.nodup (List.Sublist.map Prod.fst List.filter_sublist) unique

theorem nodup_erase {t : Table α β} (unique : (keys t).Nodup) (k : α) : (keys (erase t k)).Nodup :=
  nodup_filter unique _

/-! Sums -/

/-- What the entry of a key adds to a sum. -/
def share (f : α × β → Nat) (t : Table α β) (k : α) : Nat :=
  match at? t k with
  | some v => f (k, v)
  | none => 0

theorem share_cons (f : α × β → Nat) (e : α × β) (t : Table α β) (k : α) :
    share f (e :: t) k = if e.1 = k then f e else share f t k := by
  by_cases hit : e.1 = k
  · rw [share, at?_cons, if_pos hit, if_pos hit]
    exact congrArg f (Prod.ext hit.symm rfl)
  · simp [share, hit]

theorem share_of_absent (f : α × β → Nat) {t : Table α β} {k : α} (absent : k ∉ keys t) :
    share f t k = 0 := by
  unfold share
  cases found : at? t k with
  | none => rfl
  | some v => exact absurd (List.mem_map_of_mem (f := (·.1)) (mem_of_at? found)) absent

theorem total_put (f : α × β → Nat) (t : Table α β) (k : α) (v : β) :
    total f (put k v t) + share f t k = total f t + f (k, v) := by
  induction t with
  | nil => simp [put, share]
  | cons e rest ih =>
    rw [put_cons, share_cons]
    by_cases hit : e.1 = k
    · simp only [hit, ↓reduceIte, total_cons]
      omega
    · simp only [hit, ↓reduceIte, total_cons]
      omega

theorem total_erase (f : α × β → Nat) {t : Table α β} (unique : (keys t).Nodup) (k : α) :
    total f (erase t k) + share f t k = total f t := by
  induction t with
  | nil => simp [erase, share]
  | cons e rest ih =>
    obtain ⟨head, tail⟩ := List.nodup_cons.mp unique
    have later := ih tail
    rw [erase_cons, share_cons, total_cons]
    by_cases hit : e.1 = k
    · rw [share_of_absent f (hit ▸ head)] at later
      simp only [hit, ↓reduceIte]
      omega
    · simp only [hit, ↓reduceIte, total_cons]
      omega

theorem update_of_absent {t : Table α β} {k : α} (absent : k ∉ keys t) (h : β → β) :
    update t k h = t := by
  induction t with
  | nil => rfl
  | cons e rest ih =>
    rw [keys_cons, List.mem_cons, not_or] at absent
    have other : e.1 ≠ k := fun same => absent.1 same.symm
    rw [update_cons, if_neg other, ih absent.2]

theorem update_update (t : Table α β) (k : α) (f h : β → β) :
    update (update t k f) k h = update t k fun v => h (f v) := by
  induction t with
  | nil => rfl
  | cons e rest ih =>
    rw [update_cons, update_cons, update_cons, ih]
    by_cases hit : e.1 = k
    · rw [if_pos hit, if_pos hit, if_pos hit]
    · rw [if_neg hit, if_neg hit, if_neg hit]

theorem update_eq_self {t : Table α β} {k : α} {v : β} (unique : (keys t).Nodup)
    (found : at? t k = some v) {h : β → β} (same : h v = v) : update t k h = t := by
  induction t with
  | nil => rfl
  | cons e rest ih =>
    obtain ⟨head, tail⟩ : e.1 ∉ keys rest ∧ (keys rest).Nodup := List.nodup_cons.mp unique
    rw [at?_cons] at found
    rw [update_cons]
    by_cases hit : e.1 = k
    · subst hit
      rw [if_pos rfl] at found ⊢
      rw [Option.some.inj found, same, ← Option.some.inj found, update_of_absent head]
    · rw [if_neg hit] at found ⊢
      rw [ih tail found]

theorem total_update (f : α × β → Nat) {t : Table α β} (unique : (keys t).Nodup) {k : α} {v : β}
    (found : at? t k = some v) (h : β → β) :
    total f (update t k h) + f (k, v) = total f t + f (k, h v) := by
  induction t with
  | nil => cases found
  | cons e rest ih =>
    obtain ⟨head, tail⟩ := List.nodup_cons.mp unique
    rw [at?_cons] at found
    rw [update_cons, total_cons, total_cons]
    by_cases hit : e.1 = k
    · subst hit
      rw [if_pos rfl] at found
      cases found
      rw [if_pos rfl, update_of_absent head]
      change f (e.1, h e.2) + _ + f e = f e + _ + _
      omega
    · rw [if_neg hit] at found
      have later := ih tail found
      rw [if_neg hit]
      omega

/-! Tables up to their order -/

omit [DecidableEq α] in
theorem mem_keys {t : Table α β} {e : α × β} (member : e ∈ t) : e.1 ∈ keys t :=
  List.mem_map_of_mem member

theorem has_iff {t : Table α β} {k : α} : has t k = true ↔ k ∈ keys t := by
  simp [has, keys]

theorem erase_of_not_mem {t : Table α β} {k : α} (absent : k ∉ keys t) : erase t k = t := by
  apply List.filter_eq_self.mpr
  intro e member
  apply decide_eq_true
  intro same
  exact absent (same ▸ mem_keys member)

theorem at?_perm {t t' : Table α β} (unique : (keys t).Nodup) (same : t.Perm t') (k : α) :
    at? t k = at? t' k := by
  have unique' : (keys t').Nodup := (same.map Prod.fst).nodup unique
  apply Option.ext
  intro v
  constructor
  · intro found
    exact at?_of_mem unique' (same.subset (mem_of_at? found))
  · intro found
    exact at?_of_mem unique (same.symm.subset (mem_of_at? found))

theorem at?_filter {t : Table α β} (unique : (keys t).Nodup) (keep : β → Bool) (k : α) :
    at? (t.filter fun e => keep e.2) k = (at? t k).filter keep := by
  have unique' := nodup_filter unique fun e => keep e.2
  apply Option.ext
  intro v
  rw [Option.filter_eq_some_iff]
  constructor
  · intro found
    obtain ⟨member, kept⟩ := List.mem_filter.mp (mem_of_at? found)
    exact ⟨at?_of_mem unique member, kept⟩
  · rintro ⟨found, kept⟩
    exact at?_of_mem unique' (List.mem_filter.mpr ⟨mem_of_at? found, kept⟩)

theorem put_perm {t : Table α β} (unique : (keys t).Nodup) (k : α) (v : β) :
    (put k v t).Perm (erase t k ++ [(k, v)]) := by
  induction t with
  | nil => exact List.Perm.refl _
  | cons e rest ih =>
    obtain ⟨absent, tail⟩ : e.1 ∉ keys rest ∧ (keys rest).Nodup := List.nodup_cons.mp unique
    rw [put_cons, erase_cons]
    by_cases hit : e.1 = k
    · rw [if_pos hit, if_pos hit, erase_of_not_mem (hit ▸ absent)]
      have last : ([(k, v)] ++ rest).Perm (rest ++ [(k, v)]) := List.perm_append_comm
      exact last
    · rw [if_neg hit, if_neg hit]
      exact (ih tail).cons e

end Table

end ProtocolGateway
