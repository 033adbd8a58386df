import Mathlib
import ProtocolGateway.Message.Typed
import ProtocolGateway.Proofs.Text.Utf8

/-!
Texts in character sets. Writing and reading are the two directions of one relation between texts and
octets, so each undoes the other wherever it succeeds. What can be written is told by the characters, and
what can be read in units of sixteen bits by the surrogates.
-/

namespace ProtocolGateway.Charset

/-! Surrogates -/

def HighAt (us : List Nat) (i : Nat) : Prop := ∃ u, us[i]? = some u ∧ 0xD800 ≤ u ∧ u ≤ 0xDBFF

def LowAt (us : List Nat) (i : Nat) : Prop := ∃ u, us[i]? = some u ∧ 0xDC00 ≤ u ∧ u ≤ 0xDFFF

/-- A low surrogate stands behind every high one and nowhere else. -/
def Paired (us : List Nat) : Prop := ¬LowAt us 0 ∧ ∀ i, HighAt us i ↔ LowAt us (i + 1)

theorem highAt_zero (u : Nat) (us : List Nat) : HighAt (u :: us) 0 ↔ 0xD800 ≤ u ∧ u ≤ 0xDBFF := by
  simp [HighAt]

theorem highAt_succ (u : Nat) (us : List Nat) (i : Nat) : HighAt (u :: us) (i + 1) ↔ HighAt us i := by
  simp [HighAt]

theorem lowAt_zero (u : Nat) (us : List Nat) : LowAt (u :: us) 0 ↔ 0xDC00 ≤ u ∧ u ≤ 0xDFFF := by
  simp [LowAt]

theorem lowAt_succ (u : Nat) (us : List Nat) (i : Nat) : LowAt (u :: us) (i + 1) ↔ LowAt us i := by
  simp [LowAt]

theorem paired_nil : Paired [] := by simp [Paired, HighAt, LowAt]

theorem paired_plain {u : Nat} (plain : u < 0xD800 ∨ 0xDFFF < u) (us : List Nat) :
    Paired (u :: us) ↔ Paired us := by
  constructor
  · rintro ⟨_, pairs⟩
    constructor
    · intro low
      have high := (pairs 0).mpr ((lowAt_succ u us 0).mpr low)
      rw [highAt_zero] at high
      omega
    · intro i
      simpa only [highAt_succ, lowAt_succ] using pairs (i + 1)
  · rintro ⟨first, pairs⟩
    constructor
    · rw [lowAt_zero]
      omega
    · intro i
      cases i with
      | zero =>
        simp only [highAt_zero, lowAt_succ, first, iff_false]
        omega
      | succ i => simpa only [highAt_succ, lowAt_succ] using pairs i

theorem paired_pair {hi lo : Nat} (high : 0xD800 ≤ hi ∧ hi ≤ 0xDBFF) (low : 0xDC00 ≤ lo ∧ lo ≤ 0xDFFF)
    (us : List Nat) : Paired (hi :: lo :: us) ↔ Paired us := by
  constructor
  · rintro ⟨_, pairs⟩
    constructor
    · intro first
      have high := (pairs 1).mpr ((lowAt_succ hi _ 1).mpr ((lowAt_succ lo us 0).mpr first))
      rw [highAt_succ, highAt_zero] at high
      omega
    · intro i
      simpa only [highAt_succ, lowAt_succ] using pairs (i + 2)
  · rintro ⟨first, pairs⟩
    constructor
    · rw [lowAt_zero]
      omega
    · intro i
      match i with
      | 0 => simp only [highAt_zero, lowAt_succ, lowAt_zero, high, low, and_self]
      | 1 =>
        simp only [highAt_succ, highAt_zero, lowAt_succ, first, iff_false]
        omega
      | i + 2 => simpa only [highAt_succ, lowAt_succ] using pairs i

theorem ofUnits_isSome (us : List Nat) : (ofUnits us).isSome ↔ Paired us := by
  fun_induction ofUnits us with
  | case1 => simp [paired_nil]
  -- A low one comes first, where nothing stands before it.
  | case2 hi rest low =>
    simp only [Option.isSome_none, Bool.false_eq_true, false_iff]
    rintro ⟨first, _⟩
    exact first ((lowAt_zero hi rest).mpr low)
  | case3 hi notLow high lo more low ih =>
    rw [Option.isSome_map, ih, paired_pair high low]
  -- A high one is followed by something else, or by nothing.
  | case4 hi notLow high lo more notLow' =>
    simp only [Option.isSome_none, Bool.false_eq_true, false_iff]
    rintro ⟨_, pairs⟩
    have low := (pairs 0).mp ((highAt_zero hi _).mpr high)
    rw [lowAt_succ, lowAt_zero] at low
    exact notLow' low
  | case5 hi notLow high =>
    simp only [Option.isSome_none, Bool.false_eq_true, false_iff]
    rintro ⟨_, pairs⟩
    have low := (pairs 0).mp ((highAt_zero hi _).mpr high)
    simp [LowAt] at low
  | case6 hi rest notLow notHigh ih =>
    rw [Option.isSome_map, ih, paired_plain (by omega)]

/-! Units of characters -/

theorem ofUnits_plain {u : Nat} (plain : u < 0xD800 ∨ 0xDFFF < u) (rest : List Nat) :
    ofUnits (u :: rest) = (ofUnits rest).map (Char.ofNat u :: ·) := by
  rw [ofUnits.eq_def]
  dsimp only
  rw [if_neg (by omega), if_neg (by omega)]

theorem ofUnits_pair {hi lo : Nat} (high : 0xD800 ≤ hi ∧ hi ≤ 0xDBFF) (low : 0xDC00 ≤ lo ∧ lo ≤ 0xDFFF)
    (rest : List Nat) : ofUnits (hi :: lo :: rest) =
      (ofUnits rest).map (Char.ofNat (0x10000 + (hi - 0xD800) * 1024 + (lo - 0xDC00)) :: ·) := by
  rw [ofUnits.eq_def]
  dsimp only
  rw [if_neg (by omega), if_pos high, if_pos low]

theorem ofUnits_unitsOf (c : Char) (rest : List Nat) :
    ofUnits (unitsOf c ++ rest) = (ofUnits rest).map (c :: ·) := by
  have whole : Char.ofNat c.toNat = c := Char.ofNat_toNat c
  have valid : c.toNat < 0xD800 ∨ 0xDFFF < c.toNat ∧ c.toNat < 0x110000 := c.valid
  simp only [unitsOf]
  generalize c.toNat = n at whole valid ⊢
  subst whole
  by_cases basic : n < 0x10000
  · rw [if_pos basic, List.singleton_append, ofUnits_plain (by omega)]
  · rw [if_neg basic, List.cons_append, List.singleton_append, ofUnits_pair (by omega) (by omega),
      show 0x10000 + (0xD800 + (n - 0x10000) / 1024 - 0xD800) * 1024 +
        (0xDC00 + (n - 0x10000) % 1024 - 0xDC00) = n by omega]

theorem ofUnits_units (cs : List Char) : ofUnits (units cs) = some cs := by
  induction cs with
  | nil => rfl
  | cons c rest ih => rw [units, List.flatMap_cons, ofUnits_unitsOf, ← units, ih, Option.map_some]

theorem units_of_ofUnits {us : List Nat} {cs : List Char} (words : ∀ u ∈ us, u < 0x10000)
    (read : ofUnits us = some cs) : units cs = us := by
  fun_induction ofUnits us generalizing cs with
  | case1 =>
    cases read
    rfl
  | case2 | case4 | case5 => cases read
  | case3 hi notLow high lo more low ih =>
    obtain ⟨tail, later, rfl⟩ := Option.map_eq_some_iff.mp read
    have number := Text.Utf8.toNat_ofNat (n := 0x10000 + (hi - 0xD800) * 1024 + (lo - 0xDC00))
      (by omega)
    have rest := ih (fun u member => words u (by simp [member])) later
    have first : unitsOf (Char.ofNat (0x10000 + (hi - 0xD800) * 1024 + (lo - 0xDC00))) = [hi, lo] := by
      simp only [unitsOf, number]
      rw [if_neg (by omega), show 0xD800 + (0x10000 + (hi - 0xD800) * 1024 + (lo - 0xDC00) - 0x10000) /
        1024 = hi by omega, show 0xDC00 + (0x10000 + (hi - 0xD800) * 1024 + (lo - 0xDC00) - 0x10000) %
        1024 = lo by omega]
    rw [units, List.flatMap_cons, ← units, rest, first]
    rfl
  | case6 hi rest notLow notHigh ih =>
    obtain ⟨tail, later, rfl⟩ := Option.map_eq_some_iff.mp read
    have small : hi < 0x10000 := words hi List.mem_cons_self
    have number := Text.Utf8.toNat_ofNat (n := hi) (by omega)
    have rest := ih (fun u member => words u (List.mem_cons_of_mem hi member)) later
    have first : unitsOf (Char.ofNat hi) = [hi] := by
      simp only [unitsOf, number, if_pos small]
    rw [units, List.flatMap_cons, ← units, rest, first]
    rfl

/-! Octets of units -/

theorem length_swapped (bytes : Octets) : (swapped bytes).length = bytes.length := by
  fun_induction swapped bytes with
  | case1 a b rest ih => simp [ih]
  | case2 => rfl

theorem swapped_swapped (bytes : Octets) : swapped (swapped bytes) = bytes := by
  fun_induction swapped bytes with
  | case1 a b rest ih => rw [swapped, ih]
  | case2 short single =>
    match short with
    | [] => rfl
    | [a] => rfl
    | a :: b :: rest => exact absurd rfl (single a b rest)

theorem pairUp_unitOctets {u : Nat} (word : u < 0x10000) (rest : Octets) :
    pairUp (unitOctets u ++ rest) = (pairUp rest).map (u :: ·) := by
  simp only [unitOctets, List.cons_append, List.nil_append, pairUp]
  rw [Text.Utf8.toNat_octet (by omega), Text.Utf8.toNat_octet (by omega),
    show u / 256 * 256 + u % 256 = u by omega]

theorem pairUp_flatMap {us : List Nat} (words : ∀ u ∈ us, u < 0x10000) :
    pairUp (us.flatMap unitOctets) = some us := by
  induction us with
  | nil => rfl
  | cons u rest ih =>
    have tail := ih fun v member => words v (List.mem_cons_of_mem u member)
    rw [List.flatMap_cons, pairUp_unitOctets (words u List.mem_cons_self), tail, Option.map_some]

theorem flatMap_of_pairUp {bytes : Octets} {us : List Nat} (read : pairUp bytes = some us) :
    us.flatMap unitOctets = bytes ∧ ∀ u ∈ us, u < 0x10000 := by
  fun_induction pairUp bytes generalizing us with
  | case1 =>
    cases read
    simp
  | case2 => cases read
  | case3 a b rest ih =>
    obtain ⟨tail, later, rfl⟩ := Option.map_eq_some_iff.mp read
    obtain ⟨back, words⟩ := ih later
    have low := a.toNat_lt
    have low' := b.toNat_lt
    constructor
    · rw [List.flatMap_cons, back, unitOctets, Text.Utf8.octet_of_toNat (b := a) (by omega),
        Text.Utf8.octet_of_toNat (b := b) (by omega)]
      rfl
    · intro u member
      rcases List.mem_cons.mp member with rfl | inside
      · omega
      · exact words u inside

theorem unitsOf_words (c : Char) : ∀ u ∈ unitsOf c, u < 0x10000 := by
  have valid : c.toNat < 0xD800 ∨ 0xDFFF < c.toNat ∧ c.toNat < 0x110000 := c.valid
  intro u member
  simp only [unitsOf] at member
  split at member
  · rename_i basic
    rw [List.mem_singleton] at member
    omega
  · simp only [List.mem_cons, List.not_mem_nil, or_false] at member
    omega

theorem units_words (cs : List Char) : ∀ u ∈ units cs, u < 0x10000 := by
  intro u member
  obtain ⟨c, _, inside⟩ := List.mem_flatMap.mp member
  exact unitsOf_words c u inside

theorem bigEndian_iff {cs : List Char} {bytes : Octets} :
    encodeBigEndian cs = bytes ↔ decodeBigEndian bytes = some cs := by
  constructor
  · rintro rfl
    rw [decodeBigEndian, encodeBigEndian, pairUp_flatMap (units_words cs), Option.bind_some,
      ofUnits_units]
  · intro read
    obtain ⟨us, paired, joined⟩ := Option.bind_eq_some_iff.mp read
    obtain ⟨back, words⟩ := flatMap_of_pairUp paired
    rw [encodeBigEndian, units_of_ofUnits words joined, back]

/-- The units that octets stand for, two octets each, with the high one or the low one first. -/
def unitsIn (highFirst : Bool) (bytes : Octets) : List Nat :=
  (List.range (bytes.length / 2)).map fun i =>
    let first := (bytes.getD (2 * i) 0).toNat
    let second := (bytes.getD (2 * i + 1) 0).toNat
    if highFirst then first * 256 + second else second * 256 + first

theorem unitsIn_cons (highFirst : Bool) (a b : UInt8) (rest : Octets) :
    unitsIn highFirst (a :: b :: rest) =
      (if highFirst then a.toNat * 256 + b.toNat else b.toNat * 256 + a.toNat) ::
        unitsIn highFirst rest := by
  have half : (a :: b :: rest).length / 2 = rest.length / 2 + 1 := by
    simp only [List.length_cons]
    omega
  rw [unitsIn, half, List.range_succ_eq_map, List.map_cons, List.map_map]
  rfl

theorem pairUp_eq (bytes : Octets) :
    pairUp bytes = if bytes.length % 2 = 0 then some (unitsIn true bytes) else none := by
  fun_induction pairUp bytes with
  | case1 => rfl
  | case2 => rfl
  | case3 a b rest ih =>
    have parity : (a :: b :: rest).length % 2 = rest.length % 2 := by
      simp only [List.length_cons]
      omega
    rw [ih, parity, unitsIn_cons]
    split <;> rfl

theorem unitsIn_swapped {bytes : Octets} (even : bytes.length % 2 = 0) :
    unitsIn true (swapped bytes) = unitsIn false bytes := by
  fun_induction swapped bytes with
  | case1 a b rest ih =>
    have parity : rest.length % 2 = 0 := by
      simp only [List.length_cons] at even
      omega
    rw [unitsIn_cons, unitsIn_cons, ih parity]
    rfl
  | case2 short single =>
    match short with
    | [] => rfl
    | [a] => cases even
    | a :: b :: rest => exact absurd rfl (single a b rest)

theorem decodeBigEndian_isSome (bytes : Octets) :
    (decodeBigEndian bytes).isSome ↔ bytes.length % 2 = 0 ∧ Paired (unitsIn true bytes) := by
  rw [decodeBigEndian, pairUp_eq]
  by_cases even : bytes.length % 2 = 0
  · rw [if_pos even, Option.bind_some, ofUnits_isSome]
    simp [even]
  · simp [even]

/-! One octet per character -/

theorem encodeNarrow_cons (bound : Nat) (c : Char) (rest : List Char) :
    encodeNarrow bound (c :: rest) =
      if c.toNat < bound then (encodeNarrow bound rest).map (c.toNat.toUInt8 :: ·) else none := by
  simp only [encodeNarrow, List.mapM_cons]
  split <;> simp [Option.map_eq_bind]

theorem decodeNarrow_cons (bound : Nat) (b : UInt8) (rest : Octets) :
    decodeNarrow bound (b :: rest) =
      if b.toNat < bound then (decodeNarrow bound rest).map (Char.ofNat b.toNat :: ·) else none := by
  simp only [decodeNarrow, List.mapM_cons]
  split <;> simp [Option.map_eq_bind]

theorem decodeNarrow_encodeNarrow {bound : Nat} (octets : bound ≤ 256) {cs : List Char}
    {bytes : Octets} (written : encodeNarrow bound cs = some bytes) :
    decodeNarrow bound bytes = some cs := by
  induction cs generalizing bytes with
  | nil =>
    cases written
    rfl
  | cons c rest ih =>
    rw [encodeNarrow_cons] at written
    split at written
    · rename_i small
      obtain ⟨tail, later, rfl⟩ := Option.map_eq_some_iff.mp written
      rw [decodeNarrow_cons, Text.Utf8.toNat_octet (by omega), if_pos small, ih later, Option.map_some,
        Char.ofNat_toNat]
    · cases written

theorem encodeNarrow_decodeNarrow {bound : Nat} (octets : bound ≤ 256) {cs : List Char}
    {bytes : Octets} (read : decodeNarrow bound bytes = some cs) :
    encodeNarrow bound cs = some bytes := by
  induction bytes generalizing cs with
  | nil =>
    cases read
    rfl
  | cons b rest ih =>
    rw [decodeNarrow_cons] at read
    split at read
    · rename_i small
      obtain ⟨tail, later, rfl⟩ := Option.map_eq_some_iff.mp read
      have number := Text.Utf8.toNat_ofNat (n := b.toNat) (by omega)
      rw [encodeNarrow_cons, number, if_pos small, ih later, Option.map_some,
        Text.Utf8.octet_of_toNat rfl]
    · cases read

theorem encodeNarrow_isSome (bound : Nat) (cs : List Char) :
    (encodeNarrow bound cs).isSome ↔ ∀ c ∈ cs, c.toNat < bound := by
  induction cs with
  | nil => simp [encodeNarrow]
  | cons c rest ih =>
    rw [encodeNarrow_cons]
    by_cases small : c.toNat < bound
    · simp [small, ih]
    · simp [small]

theorem decodeNarrow_isSome (bound : Nat) (bytes : Octets) :
    (decodeNarrow bound bytes).isSome ↔ ∀ b ∈ bytes, b.toNat < bound := by
  induction bytes with
  | nil => simp [decodeNarrow]
  | cons b rest ih =>
    rw [decodeNarrow_cons]
    by_cases small : b.toNat < bound
    · simp [small, ih]
    · simp [small]

/-! All character sets -/

theorem encodeChars_iff (charset : Charset) {cs : List Char} {bytes : Octets} :
    charset.encodeChars cs = some bytes ↔ charset.decodeChars bytes = some cs := by
  cases charset with
  | utf8 =>
    simp only [encodeChars, decodeChars, Option.some.injEq]
    constructor
    · rintro rfl
      exact Text.Utf8.decodeChars_encodeChars cs
    · exact Text.Utf8.encodeChars_of_decodeChars
  | usAscii => exact ⟨decodeNarrow_encodeNarrow (by decide), encodeNarrow_decodeNarrow (by decide)⟩
  | iso88591 => exact ⟨decodeNarrow_encodeNarrow (by decide), encodeNarrow_decodeNarrow (by decide)⟩
  | utf16be =>
    simp only [encodeChars, decodeChars, Option.some.injEq]
    exact bigEndian_iff
  | utf16le =>
    simp only [encodeChars, decodeChars, Option.some.injEq]
    rw [← bigEndian_iff]
    constructor
    · rintro rfl
      rw [swapped_swapped]
    · intro turned
      rw [turned, swapped_swapped]

def repertoire : Charset → Nat
  | .usAscii => 128
  | .iso88591 => 256
  | .utf8 | .utf16be | .utf16le => 0x110000

theorem encodeChars_isSome (charset : Charset) (cs : List Char) :
    (charset.encodeChars cs).isSome ↔ ∀ c ∈ cs, c.toNat < charset.repertoire := by
  have every : ∀ c ∈ cs, c.toNat < 0x110000 := by
    intro c _
    have valid : c.toNat < 0xD800 ∨ 0xDFFF < c.toNat ∧ c.toNat < 0x110000 := c.valid
    omega
  cases charset with
  | usAscii => exact encodeNarrow_isSome 128 cs
  | iso88591 => exact encodeNarrow_isSome 256 cs
  | utf8 | utf16be | utf16le =>
    simp only [encodeChars, Option.isSome_some, true_iff]
    exact every

theorem encode_ok_iff (charset : Charset) {text : String} {bytes : Octets} :
    charset.encode text = .ok bytes ↔ charset.encodeChars text.toList = some bytes := by
  simp only [encode]
  cases charset.encodeChars text.toList <;> simp

theorem decode_ok_iff (charset : Charset) {text : String} {bytes : Octets} :
    charset.decode bytes = .ok text ↔ charset.decodeChars bytes = some text.toList := by
  simp only [decode]
  cases charset.decodeChars bytes with
  | none => simp
  | some cs =>
    simp only [Except.ok.injEq, Option.some.injEq]
    constructor
    · rintro rfl
      rw [String.toList_ofList]
    · rintro rfl
      rw [String.ofList_toList]

theorem encode_iff_decode (charset : Charset) {text : String} {bytes : Octets} :
    charset.encode text = .ok bytes ↔ charset.decode bytes = .ok text := by
  rw [encode_ok_iff, decode_ok_iff, encodeChars_iff]

theorem encode_error {charset : Charset} {text : String} {e : ProtocolError}
    (failed : charset.encode text = .error e) : e = .charset charset.name := by
  simp only [encode] at failed
  cases written : charset.encodeChars text.toList with
  | none => simpa [written, eq_comm] using failed
  | some bytes => simp [written] at failed

theorem decode_error {charset : Charset} {bytes : Octets} {e : ProtocolError}
    (failed : charset.decode bytes = .error e) : e = .charset charset.name := by
  simp only [decode] at failed
  cases read : charset.decodeChars bytes with
  | none => simpa [read, eq_comm] using failed
  | some cs => simp [read] at failed

theorem decode_isOk (charset : Charset) (bytes : Octets) :
    (∃ text, charset.decode bytes = .ok text) ↔ (charset.decodeChars bytes).isSome := by
  simp only [decode]
  cases charset.decodeChars bytes <;> simp

theorem encode_isOk (charset : Charset) (text : String) :
    (∃ bytes, charset.encode text = .ok bytes) ↔ (charset.encodeChars text.toList).isSome := by
  simp only [encode]
  cases charset.encodeChars text.toList <;> simp

theorem decodeChars_utf16le_isSome (bytes : Octets) :
    (Charset.utf16le.decodeChars bytes).isSome ↔
      bytes.length % 2 = 0 ∧ Paired (unitsIn false bytes) := by
  rw [decodeChars, decodeBigEndian_isSome, length_swapped]
  by_cases even : bytes.length % 2 = 0
  · rw [unitsIn_swapped even]
  · simp [even]

theorem decodeChars_iso88591_isSome (bytes : Octets) : (Charset.iso88591.decodeChars bytes).isSome := by
  rw [decodeChars, decodeNarrow_isSome]
  intro b _
  exact b.toNat_lt

/-! Payloads -/

theorem ofText_ok_iff (charset : Charset) {text : String} {p : Payload} :
    Payload.ofText text charset = .ok p ↔ ∃ bytes, charset.encode text = .ok bytes ∧ p = .new bytes := by
  simp only [Payload.ofText]
  cases charset.encode text with
  | error e => simp [Except.map]
  | ok bytes => simp [Except.map, eq_comm]

theorem ofText_error_iff (charset : Charset) {text : String} {e : ProtocolError} :
    Payload.ofText text charset = .error e ↔ charset.encode text = .error e := by
  simp only [Payload.ofText]
  cases charset.encode text <;> simp [Except.map]

/-- In every character set a text that is written is read back, and octets that are read are written
again as they were. A text can be written when all its characters belong to the set. Sixteen-bit octets
can be read when they are even in number and leave no surrogate alone, single octets always; and a
failure is the one of the character set. -/
theorem texts_read_as_written (charset : Charset) :
    (∀ text p, Payload.ofText text charset = .ok p → p.asText charset = .ok text) ∧
    (∀ (p : Payload) text, p.asText charset = .ok text →
      Payload.ofText text charset = .ok (.new p.data)) ∧
    (∀ text, (∃ p, Payload.ofText text charset = .ok p) ↔
      ∀ c ∈ text.toList, c.toNat < charset.repertoire) ∧
    (∀ p : Payload, (∃ text, p.asText .utf16be = .ok text) ↔
      p.data.length % 2 = 0 ∧ Paired (unitsIn true p.data)) ∧
    (∀ p : Payload, (∃ text, p.asText .utf16le = .ok text) ↔
      p.data.length % 2 = 0 ∧ Paired (unitsIn false p.data)) ∧
    (∀ p : Payload, ∃ text, p.asText .iso88591 = .ok text) ∧
    (∀ text e, Payload.ofText text charset = .error e → e = .charset charset.name) ∧
    (∀ (p : Payload) e, p.asText charset = .error e → e = .charset charset.name) := by
  refine ⟨?_, ?_, ?_, ?_, ?_, ?_, ?_, ?_⟩
  · intro text p written
    obtain ⟨bytes, encoded, rfl⟩ := (ofText_ok_iff charset).mp written
    exact (encode_iff_decode charset).mp encoded
  · intro p text read
    exact (ofText_ok_iff charset).mpr ⟨p.data, (encode_iff_decode charset).mpr read, rfl⟩
  · intro text
    rw [← encodeChars_isSome, ← encode_isOk]
    constructor
    · rintro ⟨p, written⟩
      obtain ⟨bytes, encoded, _⟩ := (ofText_ok_iff charset).mp written
      exact ⟨bytes, encoded⟩
    · rintro ⟨bytes, encoded⟩
      exact ⟨.new bytes, (ofText_ok_iff charset).mpr ⟨bytes, encoded, rfl⟩⟩
  · intro p
    exact (decode_isOk .utf16be p.data).trans (decodeBigEndian_isSome p.data)
  · intro p
    exact (decode_isOk .utf16le p.data).trans (decodeChars_utf16le_isSome p.data)
  · intro p
    exact (decode_isOk .iso88591 p.data).mpr (decodeChars_iso88591_isSome p.data)
  · intro text e failed
    exact encode_error ((ofText_error_iff charset).mp failed)
  · intro p e failed
    exact decode_error failed

/-- A letter, a sign of the basic plane and a clef, which takes two units. -/
theorem clef_read_as_written :
    let octets : Octets := [0x61, 0x00, 0xAC, 0x20, 0x34, 0xD8, 0x1E, 0xDD]
    Payload.ofText "a€𝄞" .utf16le = .ok (.new octets) ∧
    (Payload.new octets).asText .utf16le = .ok "a€𝄞" ∧
    Payload.ofText "a€" .iso88591 = .error (.charset "ISO-8859-1") ∧
    (Payload.new [0xD8, 0x34, 0x00, 0x61]).asText .utf16be = .error (.charset "UTF-16BE") := by
  intro octets
  have written : Payload.ofText "a€𝄞" .utf16le = .ok (.new octets) := by decide +kernel
  have unwritable : Payload.ofText "a€" .iso88591 = .error (.charset "ISO-8859-1") := by
    decide +kernel
  have unreadable : (Payload.new [0xD8, 0x34, 0x00, 0x61]).asText .utf16be =
      .error (.charset "UTF-16BE") := by decide +kernel
  exact ⟨written, (texts_read_as_written .utf16le).1 _ _ written, unwritable, unreadable⟩

end ProtocolGateway.Charset
