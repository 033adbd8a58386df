import Mathlib
import ProtocolGateway.Text.Utf8

/-!
Reading back what was written in UTF-8. The strict reader undoes the writer and accepts nothing but what
the writer writes, and the lossy one agrees with the strict one wherever that one succeeds.
-/

namespace ProtocolGateway.Text.Utf8

theorem toNat_octet {n : Nat} (small : n < 256) : n.toUInt8.toNat = n := by
  rw [Nat.toUInt8_eq, UInt8.toNat_ofNat', Nat.mod_eq_of_lt small]

/-! Octets inside a character -/

theorem decodeFrom_last {value lo hi n : Nat} {rest : Octets} (low : lo ≤ n) (high : n ≤ hi)
    (small : n < 256) :
    decodeFrom (.inside value 1 lo hi) (n.toUInt8 :: rest) =
      (decodeFrom .clear rest).map (Char.ofNat (value * 64 + n % 64) :: ·) := by
  rw [decodeFrom]
  simp only [toNat_octet small, low, high, and_self, ↓reduceIte]

theorem decodeFrom_more {value left lo hi n : Nat} {rest : Octets} (low : lo ≤ n) (high : n ≤ hi)
    (small : n < 256) :
    decodeFrom (.inside value (left + 2) lo hi) (n.toUInt8 :: rest) =
      decodeFrom (.inside (value * 64 + n % 64) (left + 1) 0x80 0xBF) rest := by
  rw [decodeFrom]
  simp only [toNat_octet small, low, high, and_self, ↓reduceIte]

/-! Octets that lead a character -/

theorem start_single {n : Nat} (small : n < 0x80) : start n.toUInt8 = .char (Char.ofNat n) := by
  unfold start
  rw [toNat_octet (by omega), if_pos small]

theorem start_pair {n : Nat} (low : 0x80 ≤ n) (high : n < 0x800) :
    start (0xC0 + n / 64).toUInt8 = .lead (n / 64) 1 0x80 0xBF := by
  unfold start
  rw [toNat_octet (by omega), if_neg (by omega), if_neg (by omega), if_pos (by omega),
    Nat.add_sub_cancel_left]

theorem start_triple {n : Nat} (low : 0x800 ≤ n) (high : n < 0x10000)
    (whole : n < 0xD800 ∨ 0xDFFF < n) :
    ∃ lo hi, start (0xE0 + n / 4096).toUInt8 = .lead (n / 4096) 2 lo hi ∧
      lo ≤ 0x80 + n / 64 % 64 ∧ 0x80 + n / 64 % 64 ≤ hi := by
  unfold start
  rw [toNat_octet (by omega), if_neg (by omega), if_neg (by omega), if_neg (by omega)]
  by_cases first : n / 4096 = 0
  · rw [if_pos (by omega), first]
    exact ⟨_, _, rfl, by omega, by omega⟩
  · rw [if_neg (by omega)]
    by_cases surrogates : n / 4096 = 13
    · rw [if_pos (by omega), surrogates]
      exact ⟨_, _, rfl, by omega, by omega⟩
    · rw [if_neg (by omega), if_pos (by omega), Nat.add_sub_cancel_left]
      exact ⟨_, _, rfl, by omega, by omega⟩

theorem start_quadruple {n : Nat} (low : 0x10000 ≤ n) (high : n < 0x110000) :
    ∃ lo hi, start (0xF0 + n / 262144).toUInt8 = .lead (n / 262144) 3 lo hi ∧
      lo ≤ 0x80 + n / 4096 % 64 ∧ 0x80 + n / 4096 % 64 ≤ hi := by
  unfold start
  rw [toNat_octet (by omega), if_neg (by omega), if_neg (by omega), if_neg (by omega),
    if_neg (by omega), if_neg (by omega), if_neg (by omega)]
  by_cases first : n / 262144 = 0
  · rw [if_pos (by omega), first]
    exact ⟨_, _, rfl, by omega, by omega⟩
  · rw [if_neg (by omega)]
    by_cases last : n / 262144 = 4
    · rw [if_neg (by omega), if_pos (by omega), last]
      exact ⟨_, _, rfl, by omega, by omega⟩
    · rw [if_pos (by omega), Nat.add_sub_cancel_left]
      exact ⟨_, _, rfl, by omega, by omega⟩

/-! Round trips -/

theorem decodeFrom_encodeChar (c : Char) (rest : Octets) :
    decodeFrom .clear (encodeChar c ++ rest) = (decodeFrom .clear rest).map (c :: ·) := by
  have whole : Char.ofNat c.toNat = c := Char.ofNat_toNat c
  have valid : c.toNat < 0xD800 ∨ 0xDFFF < c.toNat ∧ c.toNat < 0x110000 := c.valid
  unfold encodeChar
  generalize c.toNat = n at whole valid ⊢
  subst whole
  dsimp only
  split
  · rename_i single
    rw [List.singleton_append, decodeFrom, start_single single]
  · split
    · rename_i some pair
      rw [List.cons_append, List.singleton_append, decodeFrom, start_pair (by omega) pair]
      dsimp only
      rw [decodeFrom_last (by omega) (by omega) (by omega),
        show n / 64 * 64 + (0x80 + n % 64) % 64 = n by omega]
    · split
      · rename_i some more triple
        obtain ⟨lo, hi, first, low, high⟩ := start_triple (by omega) triple (by omega)
        rw [List.cons_append, List.cons_append, List.singleton_append, decodeFrom, first]
        dsimp only
        rw [decodeFrom_more low high (by omega), decodeFrom_last (by omega) (by omega) (by omega),
          show (n / 4096 * 64 + (0x80 + n / 64 % 64) % 64) * 64 + (0x80 + n % 64) % 64 = n by omega]
      · obtain ⟨lo, hi, first, low, high⟩ := start_quadruple (n := n) (by omega) (by omega)
        rw [List.cons_append, List.cons_append, List.cons_append, List.singleton_append, decodeFrom,
          first]
        dsimp only
        rw [decodeFrom_more low high (by omega), decodeFrom_more (by omega) (by omega) (by omega),
          decodeFrom_last (by omega) (by omega) (by omega),
          show ((n / 262144 * 64 + (0x80 + n / 4096 % 64) % 64) * 64 + (0x80 + n / 64 % 64) % 64) * 64
            + (0x80 + n % 64) % 64 = n by omega]

theorem decodeChars_encodeChars (cs : List Char) : decodeChars (encodeChars cs) = some cs := by
  unfold decodeChars encodeChars
  induction cs with
  | nil => rfl
  | cons c rest ih => rw [List.flatMap_cons, decodeFrom_encodeChar, ih, Option.map_some]

/-! Shortest forms -/

theorem toNat_ofNat {n : Nat} (valid : n < 0xD800 ∨ 0xDFFF < n ∧ n < 0x110000) :
    (Char.ofNat n).toNat = n := by
  have whole : n.isValidChar := valid
  rw [Char.toNat_ofNat, if_pos whole]

theorem octet_of_toNat {n : Nat} {b : UInt8} (number : n = b.toNat) : n.toUInt8 = b := by
  rw [number]
  exact UInt8.ofNat_toNat

theorem encodeChar_single {n : Nat} (small : n < 0x80) : encodeChar (Char.ofNat n) = [n.toUInt8] := by
  simp only [encodeChar, toNat_ofNat (show n < 0xD800 ∨ _ by omega), if_pos small]

theorem encodeChar_pair {n : Nat} (low : 0x80 ≤ n) (high : n < 0x800) :
    encodeChar (Char.ofNat n) = [(0xC0 + n / 64).toUInt8, (0x80 + n % 64).toUInt8] := by
  simp only [encodeChar, toNat_ofNat (show n < 0xD800 ∨ _ by omega), if_neg (Nat.not_lt.mpr low),
    if_pos high]

theorem encodeChar_triple {n : Nat} (low : 0x800 ≤ n) (high : n < 0x10000)
    (whole : n < 0xD800 ∨ 0xDFFF < n) :
    encodeChar (Char.ofNat n) = [(0xE0 + n / 4096).toUInt8, (0x80 + n / 64 % 64).toUInt8,
      (0x80 + n % 64).toUInt8] := by
  simp only [encodeChar, toNat_ofNat (show n < 0xD800 ∨ 0xDFFF < n ∧ n < 0x110000 by omega),
    if_neg (show ¬n < 0x80 by omega), if_neg (Nat.not_lt.mpr low), if_pos high]

theorem encodeChar_quadruple {n : Nat} (low : 0x10000 ≤ n) (high : n < 0x110000) :
    encodeChar (Char.ofNat n) = [(0xF0 + n / 262144).toUInt8, (0x80 + n / 4096 % 64).toUInt8,
      (0x80 + n / 64 % 64).toUInt8, (0x80 + n % 64).toUInt8] := by
  simp only [encodeChar, toNat_ofNat (show n < 0xD800 ∨ 0xDFFF < n ∧ n < 0x110000 by omega),
    if_neg (show ¬n < 0x80 by omega), if_neg (show ¬n < 0x800 by omega), if_neg (Nat.not_lt.mpr low)]

theorem start_cases (b : UInt8) :
    start b = .malformed ∨
    (b.toNat < 0x80 ∧ start b = .char (Char.ofNat b.toNat)) ∨
    (0xC2 ≤ b.toNat ∧ b.toNat < 0xE0 ∧ start b = .lead (b.toNat - 0xC0) 1 0x80 0xBF) ∨
    (∃ lo hi, 0xE0 ≤ b.toNat ∧ b.toNat < 0xF0 ∧ start b = .lead (b.toNat - 0xE0) 2 lo hi ∧
      0x80 ≤ lo ∧ hi ≤ 0xBF ∧ (b.toNat = 0xE0 → lo = 0xA0) ∧ (b.toNat = 0xED → hi = 0x9F)) ∨
    (∃ lo hi, 0xF0 ≤ b.toNat ∧ b.toNat ≤ 0xF4 ∧ start b = .lead (b.toNat - 0xF0) 3 lo hi ∧
      0x80 ≤ lo ∧ hi ≤ 0xBF ∧ (b.toNat = 0xF0 → lo = 0x90) ∧ (b.toNat = 0xF4 → hi = 0x8F)) := by
  simp only [start]
  generalize b.toNat = n
  by_cases single : n < 0x80
  · simp [single]
  by_cases stray : n < 0xC2
  · simp [single, stray]
  by_cases pair : n < 0xE0
  · simp [single, stray, pair]
    omega
  by_cases e0 : n = 0xE0
  · simp [e0]
  by_cases ed : n = 0xED
  · simp [ed]
  by_cases triple : n < 0xF0
  · simp [single, stray, pair, e0, ed, triple]
    omega
  by_cases f0 : n = 0xF0
  · simp [f0]
  by_cases quadruple : n < 0xF4
  · simp [single, stray, pair, e0, ed, triple, f0, quadruple]
    omega
  by_cases f4 : n = 0xF4
  · simp [f4]
  · simp [single, stray, pair, e0, ed, triple, f0, quadruple, f4]

theorem last_of_inside {value lo hi : Nat} {bytes : Octets} {cs : List Char}
    (read : decodeFrom (.inside value 1 lo hi) bytes = some cs) :
    ∃ b rest tail, bytes = b :: rest ∧ lo ≤ b.toNat ∧ b.toNat ≤ hi ∧
      decodeFrom .clear rest = some tail ∧ cs = Char.ofNat (value * 64 + b.toNat % 64) :: tail := by
  cases bytes with
  | nil => cases read
  | cons b rest =>
    simp only [decodeFrom] at read
    split at read
    · rename_i within
      obtain ⟨tail, later, rfl⟩ := Option.map_eq_some_iff.mp read
      exact ⟨b, rest, tail, rfl, within.1, within.2, later, rfl⟩
    · cases read

theorem more_of_inside {value left lo hi : Nat} {bytes : Octets} {cs : List Char}
    (read : decodeFrom (.inside value (left + 2) lo hi) bytes = some cs) :
    ∃ b rest, bytes = b :: rest ∧ lo ≤ b.toNat ∧ b.toNat ≤ hi ∧
      decodeFrom (.inside (value * 64 + b.toNat % 64) (left + 1) 0x80 0xBF) rest = some cs := by
  cases bytes with
  | nil => cases read
  | cons b rest =>
    simp only [decodeFrom] at read
    split at read
    · rename_i within
      exact ⟨b, rest, rfl, within.1, within.2, read⟩
    · cases read

theorem first_of_clear {bytes : Octets} {cs : List Char} (read : decodeFrom .clear bytes = some cs) :
    (bytes = [] ∧ cs = []) ∨ ∃ c tail rest, cs = c :: tail ∧ bytes = encodeChar c ++ rest ∧
      decodeFrom .clear rest = some tail := by
  cases bytes with
  | nil =>
    cases read
    exact Or.inl ⟨rfl, rfl⟩
  | cons b rest =>
    right
    rw [decodeFrom] at read
    -- One case per length that the first octet announces; it bounds the octets that follow.
    rcases start_cases b with bad | ⟨single, at_b⟩ | ⟨low, high, at_b⟩ | ⟨lo, hi, low, high, at_b, bounds⟩ |
      ⟨lo, hi, low, high, at_b, bounds⟩
    · simp [bad] at read
    · rw [at_b] at read
      obtain ⟨tail, later, rfl⟩ := Option.map_eq_some_iff.mp read
      refine ⟨_, tail, rest, rfl, ?_, later⟩
      rw [encodeChar_single single, octet_of_toNat rfl]
      rfl
    · rw [at_b] at read
      obtain ⟨b₂, rest, tail, rfl, low₂, high₂, later, rfl⟩ := last_of_inside read
      refine ⟨_, tail, rest, rfl, ?_, later⟩
      rw [encodeChar_pair (by omega) (by omega), octet_of_toNat (b := b) (by omega),
        octet_of_toNat (b := b₂) (by omega)]
      rfl
    · rw [at_b] at read
      obtain ⟨b₂, rest, rfl, low₂, high₂, more⟩ := more_of_inside read
      obtain ⟨b₃, rest, tail, rfl, low₃, high₃, later, rfl⟩ := last_of_inside more
      refine ⟨_, tail, rest, rfl, ?_, later⟩
      rw [encodeChar_triple (by omega) (by omega) (by omega), octet_of_toNat (b := b) (by omega),
        octet_of_toNat (b := b₂) (by omega), octet_of_toNat (b := b₃) (by omega)]
      rfl
    · rw [at_b] at read
      obtain ⟨b₂, rest, rfl, low₂, high₂, more⟩ := more_of_inside read
      obtain ⟨b₃, rest, rfl, low₃, high₃, more⟩ := more_of_inside more
      obtain ⟨b₄, rest, tail, rfl, low₄, high₄, later, rfl⟩ := last_of_inside more
      refine ⟨_, tail, rest, rfl, ?_, later⟩
      rw [encodeChar_quadruple (by omega) (by omega), octet_of_toNat (b := b) (by omega),
        octet_of_toNat (b := b₂) (by omega), octet_of_toNat (b := b₃) (by omega),
        octet_of_toNat (b := b₄) (by omega)]
      rfl

theorem encodeChars_of_decodeChars {bytes : Octets} {cs : List Char}
    (read : decodeChars bytes = some cs) : encodeChars cs = bytes := by
  -- Every character takes octets off, so the characters can be gone through.
  induction cs generalizing bytes with
  | nil =>
    rcases first_of_clear read with ⟨rfl, _⟩ | ⟨c, tail, rest, split, _⟩
    · rfl
    · cases split
  | cons c tail ih =>
    rcases first_of_clear read with ⟨_, empty⟩ | ⟨c', tail', rest, split, rfl, later⟩
    · cases empty
    · cases split
      rw [encodeChars, List.flatMap_cons]
      exact congrArg (encodeChar c ++ ·) (ih later)

/-! The lossy reader -/

/-- The lossy reader replaces nothing where the strict one reads to the end. -/
theorem lossyFrom_of_decodeFrom {place : Place} {bytes : Octets} {cs : List Char}
    (read : decodeFrom place bytes = some cs) : lossyFrom place bytes = cs := by
  induction bytes generalizing place cs with
  | nil =>
    cases place with
    | clear =>
      cases read
      rfl
    | inside => cases read
  | cons b rest ih =>
    cases place with
    | clear =>
      rw [decodeFrom] at read
      rw [lossyFrom]
      split at read
      · obtain ⟨tail, later, rfl⟩ := Option.map_eq_some_iff.mp read
        exact congrArg _ (ih later)
      · exact ih read
      · cases read
    | inside value left lo hi =>
      rw [decodeFrom] at read
      rw [lossyFrom]
      dsimp only at read ⊢
      split at read
      · rename_i within
        rw [if_pos within]
        split at read
        · obtain ⟨tail, later, rfl⟩ := Option.map_eq_some_iff.mp read
          exact congrArg _ (ih later)
        · obtain ⟨tail, later, rfl⟩ := Option.map_eq_some_iff.mp read
          exact congrArg _ (ih later)
        · exact ih read
      · cases read

theorem decodeLossy_encode (s : String) : decodeLossy (encode s) = s := by
  unfold decodeLossy encode
  rw [lossyFrom_of_decodeFrom (decodeChars_encodeChars s.toList), String.ofList_toList]

end ProtocolGateway.Text.Utf8
