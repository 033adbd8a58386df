/-!
Finite maps as lists of entries with distinct keys. A new key goes to the end and a known one keeps
its place, so the list is in the order of first arrival. And sums of a measure over a list.
-/

namespace ProtocolGateway

abbrev Table (α β : Type) := List (α × β)

namespace Table

variable {α β : Type} [DecidableEq α]

def at? (t : Table α β) (k : α) : Option β := (t.find? fun e => e.1 = k).map (·.2)

def has (t : Table α β) (k : α) : Bool := t.any fun e => e.1 = k

def put (k : α) (v : β) : Table α β → Table α β
  | [] => [(k, v)]
  | (k', v') :: rest => if k' = k then (k, v) :: rest else (k', v') :: put k v rest

def erase (t : Table α β) (k : α) : Table α β := t.filter fun e => e.1 ≠ k

def keys (t : Table α β) : List α := t.map (·.1)

def update (t : Table α β) (k : α) (f : β → β) : Table α β :=
  t.map fun e => if e.1 = k then (e.1, f e.2) else e

end Table

def total {α : Type} (measure : α → Nat) : List α → Nat
  | [] => 0
  | x :: rest => measure x + total measure rest

@[simp] theorem total_nil {α : Type} (measure : α → Nat) : total measure [] = 0 := rfl

@[simp] theorem total_cons {α : Type} (measure : α → Nat) (x : α) (rest : List α) :
    total measure (x :: rest) = measure x + total measure rest := rfl

theorem total_append {α : Type} (measure : α → Nat) (xs ys : List α) :
    total measure (xs ++ ys) = total measure xs + total measure ys := by
  induction xs with
  | nil => simp
  | cons x rest ih => simp [ih, Nat.add_assoc]

end ProtocolGateway
