import Mathlib
import ProtocolGateway.Web.Ipv6

/-!
IPv6 addresses in writing. What was read as an address is written so that it is read as the same
address again.
-/

namespace ProtocolGateway.Web.Ipv6

structure IsWhole (a : Address) : Prop where
  eight : a.length = 8
  small : ∀ p ∈ a, p < 0x10000

/-! Pieces -/

theorem digitValue_digitChar {d : Nat} (small : d < 16) :
    Text.Hex.digitValue? d.digitChar = some d := by
  have all : ∀ d < 16, Text.Hex.digitValue? d.digitChar = some d := by decide
  exact all d small

theorem isSome_of_mem_toDigits {n : Nat} {c : Char} (member : c ∈ Nat.toDigits 16 n) :
    (Text.Hex.digitValue? c).isSome = true := by
  induction n using Nat.strongRecOn with
  | ind n ih =>
    by_cases small : n < 16
    · rw [Nat.toDigits_of_lt_base small] at member
      rw [List.mem_singleton.mp member, digitValue_digitChar small]
      rfl
    · rw [Nat.toDigits_of_base_le (by omega) (by omega)] at member
      rcases List.mem_append.mp member with high | low
      · exact ih (n / 16) (by omega) high
      · rw [List.mem_singleton.mp low, digitValue_digitChar (by omega)]
        rfl

theorem hexNat_toDigits (n : Nat) : Text.Runs.hexNat (Nat.toDigits 16 n) = n := by
  induction n using Nat.strongRecOn with
  | ind n ih =>
    unfold Text.Runs.hexNat at ih ⊢
    by_cases small : n < 16
    · rw [Nat.toDigits_of_lt_base small, List.foldl_cons, List.foldl_nil, digitValue_digitChar small]
      exact (Nat.zero_add _)
    · rw [Nat.toDigits_of_base_le (by omega) (by omega), List.foldl_append, ih (n / 16) (by omega),
        List.foldl_cons, List.foldl_nil, digitValue_digitChar (by omega), Option.getD_some]
      omega

theorem length_toDigits {p : Nat} (small : p < 0x10000) : (Nat.toDigits 16 p).length ≤ 4 :=
  (Nat.length_toDigits_le_iff (by omega) (by omega)).mpr (by omega)

theorem piece_toDigits {p : Nat} (small : p < 0x10000) {tail : List Char}
    (ends : ∀ c, tail.head? = some c → (Text.Hex.digitValue? c).isSome = false) :
    piece (Nat.toDigits 16 p ++ tail) = (p, tail) := by
  have digits : ((Nat.toDigits 16 p ++ tail).take 4).takeWhile
      (fun c => (Text.Hex.digitValue? c).isSome) = Nat.toDigits 16 p := by
    rw [List.take_append, List.take_of_length_le (length_toDigits small),
      List.takeWhile_append_of_pos fun c => isSome_of_mem_toDigits]
    cases tail with
    | nil => rw [List.take_nil, List.takeWhile_nil, List.append_nil]
    | cons c rest =>
      cases 4 - (Nat.toDigits 16 p).length with
      | zero => rw [List.take_zero, List.takeWhile_nil, List.append_nil]
      | succ k =>
        rw [List.take_succ_cons, List.takeWhile_cons_of_neg (by simp [ends c rfl]), List.append_nil]
  unfold piece
  dsimp only
  rw [digits, hexNat_toDigits, List.drop_left]

/-! Reading -/

def spelled : List Nat → List Char
  | [] => []
  | [p] => Nat.toDigits 16 p
  | p :: rest => Nat.toDigits 16 p ++ ':' :: spelled rest

theorem head_toDigits {p : Nat} : ∃ c rest, Nat.toDigits 16 p = c :: rest ∧ c ≠ ':' := by
  cases digits : Nat.toDigits 16 p with
  | nil => exact absurd digits Nat.toDigits_ne_nil
  | cons c rest =>
    refine ⟨c, rest, rfl, ?_⟩
    rintro rfl
    have digit := isSome_of_mem_toDigits (digits ▸ List.mem_cons_self)
    cases digit

theorem read_last {p : Nat} (small : p < 0x10000) {r : Reading} (room : r.pieces.length ≠ 8)
    (fuel : Nat) :
    read (fuel + 1) (Nat.toDigits 16 p) r = some { r with pieces := p :: r.pieces } := by
  have whole : piece (Nat.toDigits 16 p ++ []) = (p, []) :=
    piece_toDigits small fun c head => nomatch head
  rw [List.append_nil] at whole
  obtain ⟨c, rest, digits, other⟩ := head_toDigits (p := p)
  rw [digits] at whole ⊢
  rw [read, if_neg room, if_neg other, whole]

theorem read_piece {p : Nat} (small : p < 0x10000) {r : Reading} (room : r.pieces.length ≠ 8)
    {tail : List Char} (more : tail ≠ []) (fuel : Nat) :
    read (fuel + 1) (Nat.toDigits 16 p ++ ':' :: tail) r =
      read fuel tail { r with pieces := p :: r.pieces } := by
  have whole : piece (Nat.toDigits 16 p ++ ':' :: tail) = (p, ':' :: tail) :=
    piece_toDigits small fun c head => by
      cases head
      rfl
  obtain ⟨c, rest, digits, other⟩ := head_toDigits (p := p)
  rw [digits] at whole ⊢
  rw [List.cons_append] at whole ⊢
  rw [read, if_neg room, if_neg other, whole]
  change (if tail.isEmpty = true then none else _) = _
  rw [if_neg (by simp [more])]

theorem spelled_ne_nil {p : Nat} {rest : List Nat} : spelled (p :: rest) ≠ [] := by
  cases rest with
  | nil => exact Nat.toDigits_ne_nil
  | cons q rest => simp [spelled]

theorem read_spelled {ps : List Nat} (small : ∀ p ∈ ps, p < 0x10000) {r : Reading}
    (room : r.pieces.length + ps.length ≤ 8) {fuel : Nat} (enough : ps.length ≤ fuel) :
    read fuel (spelled ps) r = some { r with pieces := ps.reverse ++ r.pieces } := by
  induction ps generalizing r fuel with
  | nil =>
    unfold spelled read
    rfl
  | cons p rest ih =>
    obtain ⟨fuel, rfl⟩ : ∃ k, fuel = k + 1 := ⟨fuel - 1, by simp at enough; omega⟩
    rw [List.length_cons] at room enough
    have first := small p List.mem_cons_self
    cases rest with
    | nil => exact read_last first (by omega) fuel
    | cons q rest =>
      change read (fuel + 1) (Nat.toDigits 16 p ++ ':' :: spelled (q :: rest)) r = _
      rw [read_piece first (by omega) spelled_ne_nil, ih (fun x member =>
        small x (List.mem_cons_of_mem p member)) (by rw [List.length_cons]; omega) (by omega)]
      simp

theorem read_gap {ps qs : List Nat} (small : ∀ p ∈ ps, p < 0x10000) (small' : ∀ p ∈ qs, p < 0x10000)
    {acc : List Nat} (room : acc.length + ps.length + 1 + qs.length ≤ 8) {fuel : Nat}
    (enough : ps.length + 1 + qs.length ≤ fuel) (present : ps ≠ []) :
    read fuel (spelled ps ++ ':' :: ':' :: spelled qs) ⟨acc, none⟩ =
      some ⟨qs.reverse ++ 0 :: (ps.reverse ++ acc), some (ps.length + acc.length + 1)⟩ := by
  induction ps generalizing acc fuel with
  | nil => exact absurd rfl present
  | cons p rest ih =>
    obtain ⟨fuel, rfl⟩ : ∃ k, fuel = k + 1 := ⟨fuel - 1, by simp at enough; omega⟩
    rw [List.length_cons] at room enough
    have first := small p List.mem_cons_self
    cases rest with
    | nil =>
      -- The piece takes one colon, the gap is the other.
      obtain ⟨fuel, rfl⟩ : ∃ k, fuel = k + 1 := ⟨fuel - 1, by simp at enough; omega⟩
      change read (fuel + 1 + 1) (Nat.toDigits 16 p ++ ':' :: ':' :: spelled qs) _ = _
      rw [read_piece first (by simp; omega) (List.cons_ne_nil _ _), read,
        if_neg (by simp at room ⊢; omega), if_pos rfl, if_neg (by simp),
        read_spelled small' (by simp at room ⊢; omega) (by simp at enough; omega)]
      simp [Nat.add_comm]
    | cons q rest =>
      have split : spelled (p :: q :: rest) ++ ':' :: ':' :: spelled qs =
          Nat.toDigits 16 p ++ ':' :: (spelled (q :: rest) ++ ':' :: ':' :: spelled qs) := by
        simp [spelled]
      rw [split, read_piece first (by simp; omega) (by simp), ih (fun x member =>
        small x (List.mem_cons_of_mem p member)) (by simp at room ⊢; omega)
        (by simp at enough ⊢; omega) (List.cons_ne_nil q rest)]
      simp
      omega

/-! Writing -/

theorem toList_joined (ps : List Nat) : (joined ps).toList = spelled ps := by
  unfold joined
  induction ps with
  | nil => rfl
  | cons p rest ih =>
    cases rest with
    | nil => simp [spelled, Text.Hex.ofNat]
    | cons q rest =>
      rw [List.map_cons, List.map_cons, String.intercalate_cons_cons, String.toList_append,
        String.toList_append, ← List.map_cons, ih]
      simp [spelled, Text.Hex.ofNat]

/-- The run that is left out is a run of zeros. -/
theorem longestRun_split (index : Nat) (ps : List Nat) (long : 2 ≤ (longestRun index ps).2) :
    ∃ before after, ps = before ++ List.replicate (longestRun index ps).2 0 ++ after ∧
      (longestRun index ps).1 = index + before.length := by
  induction ps generalizing index with
  | nil => exact absurd (show 2 ≤ 1 from long) (by decide)
  | cons p rest ih =>
    unfold longestRun at long ⊢
    dsimp only at long ⊢
    split at long
    -- The run at the front is the longest, or the longest one is further on.
    · rename_i longer
      rw [if_pos longer]
      have zeros : (p :: rest).takeWhile (· = 0) =
          List.replicate ((p :: rest).takeWhile (· = 0)).length 0 :=
        List.eq_replicate_iff.mpr ⟨rfl, fun x member => by
          simpa using List.mem_takeWhile_imp member⟩
      refine ⟨[], (p :: rest).dropWhile (· = 0), ?_, rfl⟩
      rw [List.nil_append, ← zeros, List.takeWhile_append_dropWhile]
    · rename_i shorter
      rw [if_neg shorter]
      obtain ⟨before, after, split, start⟩ := ih (index + 1) long
      refine ⟨p :: before, after, ?_, ?_⟩
      · rw [List.cons_append, List.cons_append, ← split]
      · rw [start, List.length_cons]
        omega

theorem parse_of_head {cs : List Char} (two : 2 ≤ cs.length) (other : ∀ c, cs.head? = some c → c ≠ ':') :
    parse? cs = (read (cs.length + 1) cs ⟨[], none⟩).bind (·.finish) := by
  unfold parse?
  split
  · exact absurd rfl (other ':' rfl)
  · exact absurd rfl (other ':' rfl)
  · simp at two
  · simp at two
  · rfl

theorem spelled_head {p : Nat} {rest : List Nat} (tail : List Char) :
    ∀ c, (spelled (p :: rest) ++ tail).head? = some c → c ≠ ':' := by
  obtain ⟨d, digits, same, other⟩ := head_toDigits (p := p)
  intro c head
  cases rest <;> simp [spelled, same] at head <;> exact head ▸ other

theorem length_le_spelled (ps : List Nat) : ps.length ≤ (spelled ps).length := by
  have digits (p : Nat) : 0 < (Nat.toDigits 16 p).length := Nat.length_toDigits_pos
  induction ps with
  | nil => exact Nat.zero_le _
  | cons p rest ih =>
    have first := digits p
    cases rest with
    | nil => exact first
    | cons q rest =>
      simp only [spelled, List.length_append, List.length_cons] at ih ⊢
      omega

theorem parse_spelled {a : Address} (whole : IsWhole a) : parse? (spelled a) = some a := by
  have eight := whole.eight
  have enough := length_le_spelled a
  cases a with
  | nil => cases eight
  | cons p rest =>
    have head : ∀ c, (spelled (p :: rest) ++ []).head? = some c → c ≠ ':' := spelled_head []
    rw [List.append_nil] at head
    rw [parse_of_head (by omega) head, read_spelled whole.small (by simp at eight ⊢; omega) (by omega)]
    simp [Reading.finish] at eight ⊢
    omega

/-- The gap stands for as many zeros as are missing. -/
theorem finish_gap {ps qs : List Nat} {n : Nat} (eight : (ps ++ List.replicate n 0 ++ qs).length = 8)
    (long : 2 ≤ n) :
    Reading.finish ⟨qs.reverse ++ 0 :: ps.reverse, some (ps.length + 1)⟩ =
      some (ps ++ List.replicate n 0 ++ qs) := by
  have order : (qs.reverse ++ 0 :: ps.reverse).reverse = ps ++ [0] ++ qs := by simp
  have place : ps.length + 1 = (ps ++ [0]).length := by simp
  simp only [List.length_append, List.length_replicate] at eight
  obtain ⟨k, rfl⟩ : ∃ k, n = k + 1 := ⟨n - 1, by omega⟩
  have missing : 8 - (ps ++ [0] ++ qs).length = k := by simp; omega
  unfold Reading.finish
  dsimp only
  rw [order, if_pos (by simp; omega), place, List.take_left, List.drop_left, missing,
    List.replicate_succ]
  simp

theorem parse_gap {ps qs : List Nat} {n : Nat} (long : 2 ≤ n)
    (whole : IsWhole (ps ++ List.replicate n 0 ++ qs)) :
    parse? (spelled ps ++ ':' :: ':' :: spelled qs) = some (ps ++ List.replicate n 0 ++ qs) := by
  have eight := whole.eight
  have size : ps.length + (n + qs.length) = 8 := by simpa using eight
  have before : ∀ p ∈ ps, p < 0x10000 := fun p member =>
    whole.small p (List.mem_append_left _ (List.mem_append_left _ member))
  have after : ∀ p ∈ qs, p < 0x10000 := fun p member => whole.small p (List.mem_append_right _ member)
  have enough := length_le_spelled qs
  have finished := finish_gap eight long
  cases ps with
  | nil =>
    change (read ((spelled qs).length + 1) (spelled qs) ⟨[0], some 1⟩).bind _ = _
    rw [read_spelled after (by simp at size ⊢; omega) (by omega)]
    exact finished
  | cons p rest =>
    have more := length_le_spelled (p :: rest)
    rw [parse_of_head (by simp; omega) (spelled_head _), read_gap before after (by simp at size ⊢; omega)
      (by simp at more ⊢; omega) (List.cons_ne_nil p rest), List.append_nil]
    exact finished

theorem parse_text {a : Address} (whole : IsWhole a) : parse? (text a).toList = some a := by
  unfold text
  split
  rename_i start length run
  split
  · rw [toList_joined]
    exact parse_spelled whole
  · rename_i long
    have second : (longestRun 0 a).2 = length := by rw [run]
    obtain ⟨before, after, split, first⟩ := longestRun_split 0 a (by omega)
    rw [second] at split
    rw [run, Nat.zero_add] at first
    dsimp only at first
    subst first
    have front : a.take before.length = before := by
      rw [split, List.append_assoc, List.take_left]
    have back : a.drop (before.length + length) = after := by
      have size : (before ++ List.replicate length 0).length = before.length + length := by simp
      rw [split, ← size, List.drop_left]
    rw [front, back, String.toList_append, String.toList_append, toList_joined, toList_joined]
    rw [split] at whole ⊢
    change parse? (spelled before ++ [':', ':'] ++ spelled after) = _
    rw [List.append_assoc]
    exact parse_gap (by omega) whole

theorem mem_text {a : Address} {c : Char} (member : c ∈ (text a).toList) :
    c = ':' ∨ (Text.Hex.digitValue? c).isSome = true := by
  have written (ps : List Nat) (member : c ∈ spelled ps) :
      c = ':' ∨ (Text.Hex.digitValue? c).isSome = true := by
    induction ps with
    | nil => cases member
    | cons p rest ih =>
      cases rest with
      | nil => exact Or.inr (isSome_of_mem_toDigits member)
      | cons q rest =>
        rcases List.mem_append.mp member with digit | later
        · exact Or.inr (isSome_of_mem_toDigits digit)
        · rcases List.mem_cons.mp later with colon | later
          · exact Or.inl colon
          · exact ih later
  unfold text at member
  split at member
  split at member
  · exact written _ (toList_joined _ ▸ member)
  · rw [String.toList_append, String.toList_append, toList_joined, toList_joined] at member
    rcases List.mem_append.mp member with front | back
    · rcases List.mem_append.mp front with front | gap
      · exact written _ front
      · left
        simpa using gap
    · exact written _ back

/-! What is read -/

theorem digitValue_bounds {c : Char} {d : Nat} (digit : Text.Hex.digitValue? c = some d) :
    d < 16 ∧ c.toNat < 128 := by
  unfold Text.Hex.digitValue? at digit
  split at digit
  · rename_i range
    have high : c.toNat ≤ 57 := range.2
    cases digit
    omega
  · split at digit
    · rename_i range
      have high : c.toNat ≤ 102 := range.2
      cases digit
      omega
    · split at digit
      · rename_i range
        have high : c.toNat ≤ 70 := range.2
        cases digit
        omega
      · cases digit

theorem hexNat_lt (digits : List Char) : Text.Runs.hexNat digits < 16 ^ digits.length := by
  unfold Text.Runs.hexNat
  induction digits using List.reverseRecOn with
  | nil => exact Nat.one_pos
  | append_singleton digits c ih =>
    have last : (Text.Hex.digitValue? c).getD 0 < 16 := by
      cases value : Text.Hex.digitValue? c with
      | none => decide
      | some d => exact (digitValue_bounds value).1
    rw [List.foldl_append, List.length_append, List.length_singleton, Nat.pow_succ]
    simp only [List.foldl_cons, List.foldl_nil]
    omega

theorem piece_small (cs : List Char) : (piece cs).1 < 0x10000 := by
  have short : ((cs.take 4).takeWhile fun c => (Text.Hex.digitValue? c).isSome).length ≤ 4 :=
    (List.takeWhile_prefix _).length_le.trans (List.length_take_le 4 cs)
  exact (hexNat_lt _).trans_le (Nat.pow_le_pow_right (by decide) short)

theorem ofPlain_small {cs : List Char} {n : Nat} (read : Ipv4.ofPlain? cs = some n) :
    n < 0x100000000 := by
  have octet {part : List Char} {k : Nat} (read : Ipv4.plainOctet? part = some k) : k < 256 := by
    unfold Ipv4.plainOctet? at read
    split at read
    · cases read
    · split at read
      · cases read
      · dsimp only at read
        split at read
        · rename_i small
          cases read
          exact small
        · cases read
  unfold Ipv4.ofPlain? at read
  obtain ⟨octets, parts, whole⟩ := Option.bind_eq_some_iff.mp read
  have all : ∀ k ∈ octets, k < 256 := by
    clear read whole
    generalize Ipv4.dotted cs = texts at parts
    induction texts generalizing octets with
    | nil =>
      cases parts
      simp
    | cons part rest ih =>
      rw [List.mapM_cons] at parts
      obtain ⟨k, first, later⟩ := Option.bind_eq_some_iff.mp parts
      obtain ⟨more, tail, same⟩ := Option.bind_eq_some_iff.mp later
      cases same
      simpa using ⟨octet first, ih more tail⟩
  split at whole
  · cases whole
    simp only [List.mem_cons, List.not_mem_nil, or_false, forall_eq_or_imp, forall_eq] at all
    omega
  · cases whole

theorem read_small {fuel : Nat} {cs : List Char} {r r' : Reading} (done : read fuel cs r = some r')
    (small : ∀ p ∈ r.pieces, p < 0x10000) : ∀ p ∈ r'.pieces, p < 0x10000 := by
  -- A piece is read off four digits at most, or is one half of an address in the plain form.
  induction fuel generalizing cs r with
  | zero =>
    cases cs with
    | nil =>
      cases done
      exact small
    | cons => cases done
  | succ fuel ih =>
    cases cs with
    | nil =>
      cases done
      exact small
    | cons c rest =>
      unfold read at done
      have value := piece_small (c :: rest)
      split at done
      · cases done
      · split at done
        · split at done
          · cases done
          · exact ih done (by simpa using small)
        · have pushed (p : Nat) (member : p ∈ (piece (c :: rest)).1 :: r.pieces) : p < 0x10000 :=
            (List.mem_cons.mp member).elim (fun same => same ▸ value) (small p)
          split at done
          rename_i v after same
          rw [same] at pushed
          split at done
          · cases done
            exact pushed
          · split at done
            · cases done
            · obtain ⟨n, address, last⟩ := Option.bind_eq_some_iff.mp done
              have bound := ofPlain_small address
              cases last
              intro p member
              rcases List.mem_cons.mp member with rfl | member
              · omega
              · rcases List.mem_cons.mp member with rfl | member
                · omega
                · exact small p member
          · split at done
            · cases done
            · exact ih done pushed
          · cases done

theorem isWhole_of_finish {r : Reading} {a : Address} (finished : r.finish = some a)
    (small : ∀ p ∈ r.pieces, p < 0x10000) : IsWhole a := by
  have reversed : ∀ p ∈ r.pieces.reverse, p < 0x10000 := fun p member =>
    small p (List.mem_reverse.mp member)
  unfold Reading.finish at finished
  dsimp only at finished
  split at finished
  · split at finished
    · rename_i eight
      cases finished
      exact ⟨eight, reversed⟩
    · cases finished
  · split at finished
    · rename_i place _ room
      cases finished
      refine ⟨?_, fun p member => ?_⟩
      · have whole := congrArg List.length (List.take_append_drop place r.pieces.reverse)
        simp only [List.length_append, List.length_replicate] at whole ⊢
        omega
      · rcases List.mem_append.mp member with front | back
        · rcases List.mem_append.mp front with front | zero
          · exact reversed p (List.mem_of_mem_take front)
          · rw [List.eq_of_mem_replicate zero]
            decide
        · exact reversed p (List.mem_of_mem_drop back)
    · cases finished

theorem isWhole_of_parse {cs : List Char} {a : Address} (parsed : parse? cs = some a) : IsWhole a := by
  unfold parse? at parsed
  split at parsed
  · obtain ⟨r, done, finished⟩ := Option.bind_eq_some_iff.mp parsed
    exact isWhole_of_finish finished (read_small done (by simp))
  · cases parsed
  · cases parsed
  · cases parsed
  · obtain ⟨r, done, finished⟩ := Option.bind_eq_some_iff.mp parsed
    exact isWhole_of_finish finished (read_small done (by simp))

end ProtocolGateway.Web.Ipv6
