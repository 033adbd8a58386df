import Mathlib
import ProtocolGateway.Proofs.Text.Utf8
import ProtocolGateway.Web.Percent

/-!
Percent escapes. What has been escaped is not escaped a second time, and every escape is read as the
octet it was written for.
-/

namespace ProtocolGateway.Web.Percent

def marks : List Char :=
  ['%', '0', '1', '2', '3', '4', '5', '6', '7', '8', '9', 'A', 'B', 'C', 'D', 'E', 'F']

theorem upperDigit_mem {n : Nat} (small : n < 16) : Text.Hex.upperDigit n ∈ marks := by
  have all : ∀ n < 16, Text.Hex.upperDigit n ∈ marks := by decide
  exact all n small

theorem mem_escapeOctet {b : UInt8} {c : Char} (member : c ∈ escapeOctet b) : c ∈ marks := by
  have size := b.toNat_lt
  unfold escapeOctet at member
  rcases List.mem_cons.mp member with rfl | digits
  · exact List.mem_cons_self
  · rcases List.mem_cons.mp digits with rfl | digit
    · exact upperDigit_mem (by omega)
    · rw [List.mem_singleton.mp digit]
      exact upperDigit_mem (by omega)

/-! Encoding -/

def Kept (escaped : Char → Bool) (c : Char) : Prop := c.toNat < 0x80 ∧ escaped c = false

variable {escaped : Char → Bool} {cs : List Char}

theorem encodeChar_kept {c : Char} (kept : Kept escaped c) : encodeChar escaped c = [c] := by
  have small : decide (c.toNat ≥ 0x80) = false := decide_eq_false (Nat.not_le_of_lt kept.1)
  unfold encodeChar
  rw [small, kept.2]
  rfl

theorem encode_kept (kept : ∀ c ∈ cs, Kept escaped c) : encode escaped cs = cs := by
  unfold encode
  induction cs with
  | nil => rfl
  | cons c rest ih =>
    rw [List.flatMap_cons, encodeChar_kept (kept c List.mem_cons_self),
      ih fun d member => kept d (List.mem_cons_of_mem c member)]
    rfl

theorem mem_encode {c : Char} (member : c ∈ encode escaped cs) :
    c ∈ cs ∧ Kept escaped c ∨ c ∈ marks := by
  obtain ⟨d, source, written⟩ := List.mem_flatMap.mp member
  unfold encodeChar at written
  split at written
  · obtain ⟨b, _, mark⟩ := List.mem_flatMap.mp written
    exact Or.inr (mem_escapeOctet mark)
  · rename_i plain
    rw [Bool.or_eq_true, not_or, decide_eq_true_eq, Bool.not_eq_true] at plain
    rw [List.mem_singleton.mp written]
    exact Or.inl ⟨source, Nat.lt_of_not_le plain.1, plain.2⟩

theorem kept_encode (plain : ∀ c ∈ marks, Kept escaped c) :
    ∀ c ∈ encode escaped cs, Kept escaped c := by
  intro c member
  rcases mem_encode member with ⟨_, kept⟩ | mark
  · exact kept
  · exact plain c mark

theorem marks_kept (plain : marks.all (!escaped ·) = true) : ∀ c ∈ marks, Kept escaped c := by
  intro c mark
  have ascii : marks.all (decide <| Char.toNat · < 0x80) = true := by decide
  exact ⟨of_decide_eq_true (List.all_eq_true.mp ascii c mark),
    by simpa using List.all_eq_true.mp plain c mark⟩

theorem kept_inPath (cs : List Char) : ∀ c ∈ encode isEscapedInPath cs, Kept isEscapedInPath c :=
  kept_encode (marks_kept (by decide))

theorem kept_notControl (cs : List Char) : ∀ c ∈ encode isControl cs, Kept isControl c :=
  kept_encode (marks_kept (by decide))

/-! Decoding -/

theorem decode_plain {b : UInt8} {rest : Octets} (other : b ≠ 0x25) :
    decode (b :: rest) = b :: decode rest := by
  conv_lhs => unfold decode
  rw [if_neg other]

theorem octetDigit_upperDigit {n : Nat} (small : n < 16) :
    octetDigit? (Text.Hex.upperDigit n).toNat.toUInt8 = some n := by
  have all : ∀ n < 16, octetDigit? (Text.Hex.upperDigit n).toNat.toUInt8 = some n := by
    decide +kernel
  exact all n small

theorem encodeChar_ascii {c : Char} (ascii : c.toNat < 0x80) :
    Text.Utf8.encodeChar c = [c.toNat.toUInt8] := by
  unfold Text.Utf8.encodeChar
  exact if_pos ascii

theorem toNat_of_mem_marks {c : Char} (mark : c ∈ marks) : 0x20 < c.toNat ∧ c.toNat < 0x80 := by
  have all : marks.all (fun c => decide (0x20 < c.toNat ∧ c.toNat < 0x80)) = true := by decide
  exact of_decide_eq_true (List.all_eq_true.mp all c mark)

theorem decode_escape (b : UInt8) (rest : Octets) :
    decode (Text.Utf8.encodeChars (escapeOctet b) ++ rest) = b :: decode rest := by
  have size := b.toNat_lt
  have high : b.toNat / 16 < 16 := by omega
  have low : b.toNat % 16 < 16 := by omega
  have octets : Text.Utf8.encodeChars (escapeOctet b) =
      [0x25, (Text.Hex.upperDigit (b.toNat / 16)).toNat.toUInt8,
        (Text.Hex.upperDigit (b.toNat % 16)).toNat.toUInt8] := by
    unfold Text.Utf8.encodeChars escapeOctet
    simp only [List.flatMap_cons, List.flatMap_nil,
      encodeChar_ascii (toNat_of_mem_marks (upperDigit_mem high)).2,
      encodeChar_ascii (toNat_of_mem_marks (upperDigit_mem low)).2]
    rfl
  rw [octets, List.cons_append, List.cons_append, List.cons_append, List.nil_append, decode,
    if_pos rfl]
  rw [octetDigit_upperDigit high, octetDigit_upperDigit low]
  dsimp only
  rw [show 16 * (b.toNat / 16) + b.toNat % 16 = b.toNat by omega]
  exact congrArg (· :: _) (UInt8.ofNat_toNat)

end ProtocolGateway.Web.Percent
