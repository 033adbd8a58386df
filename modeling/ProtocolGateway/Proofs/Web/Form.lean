import Mathlib
import ProtocolGateway.Proofs.Text.Ascii
import ProtocolGateway.Proofs.Web.Percent
import ProtocolGateway.Web.Form

/-!
Form encoding. Pairs that were written are read back as they were, and what was written holds none of
the characters that end a query.
-/

namespace ProtocolGateway.Web.Form

open Text.Utf8 (encodeChars encodeChar)

/-! Characters of a written text -/

theorem ascii_of_isKept {c : Char} (kept : isKept c = true) : c.toNat < 128 := by
  simp only [isKept, Bool.or_eq_true, beq_iff_eq] at kept
  rcases kept with ((((letter | digit) | rfl) | rfl) | rfl) | rfl
  · exact Text.Ascii.ascii_of_isLetter letter
  · exact Text.Ascii.ascii_of_isDigit digit
  all_goals decide

structure IsWritten (c : Char) : Prop where
  ascii : c.toNat < 128
  visible : 0x20 < c.toNat
  apart : c ≠ '&' ∧ c ≠ '=' ∧ c ≠ '#'

theorem isWritten_of_isKept {c : Char} (kept : isKept c = true) : IsWritten c := by
  have ascii := ascii_of_isKept kept
  obtain ⟨visible, apart⟩ := Text.Ascii.of_ascii
    (P := fun c => isKept c = true → 0x20 < c.toNat ∧ c ≠ '&' ∧ c ≠ '=' ∧ c ≠ '#')
    (by decide +kernel) ascii kept
  exact ⟨ascii, visible, apart⟩

theorem isWritten_of_mark {c : Char} (mark : c ∈ Percent.marks) : IsWritten c := by
  obtain ⟨visible, ascii⟩ := Percent.toNat_of_mem_marks mark
  refine ⟨ascii, visible, ?_, ?_, ?_⟩
  all_goals
    rintro rfl
    revert mark
    decide

theorem encodeOctet_cases (b : UInt8) :
    (∃ c, encodeOctet b = [c] ∧ isKept c = true ∧ c.toNat = b.toNat) ∨
      b = 0x20 ∧ encodeOctet b = ['+'] ∨ encodeOctet b = Percent.escapeOctet b := by
  unfold encodeOctet
  dsimp only
  have size := b.toNat_lt
  have value : (Char.ofNat b.toNat).toNat = b.toNat :=
    Text.Ascii.toNat_ofNat _ (Or.inl (by omega))
  split
  · rename_i kept
    exact Or.inl ⟨_, rfl, (Bool.and_eq_true_iff.mp kept).2, value⟩
  · split
    · rename_i space
      refine Or.inr (Or.inl ⟨UInt8.toNat_inj.mp ?_, rfl⟩)
      rw [← value, space]
      rfl
    · exact Or.inr (Or.inr rfl)

theorem isWritten_of_mem {s : String} {c : Char} (member : c ∈ encodeText s) : IsWritten c := by
  obtain ⟨b, _, written⟩ := List.mem_flatMap.mp member
  rcases encodeOctet_cases b with ⟨d, same, kept, _⟩ | ⟨_, same⟩ | same
  · rw [same] at written
    rw [List.mem_singleton.mp written]
    exact isWritten_of_isKept kept
  · rw [same] at written
    rw [List.mem_singleton.mp written]
    exact ⟨by decide, by decide, by decide⟩
  · rw [same] at written
    exact isWritten_of_mark (Percent.mem_escapeOctet written)

/-! One text -/

/-- A plus stands for a space. -/
def spaced (bytes : Octets) : Octets := bytes.map fun b => if b = 0x2B then 0x20 else b

theorem spaced_append (xs ys : Octets) : spaced (xs ++ ys) = spaced xs ++ spaced ys :=
  List.map_append

theorem decode_kept {c : Char} (kept : isKept c = true) (rest : Octets) :
    Percent.decode (spaced (encodeChars [c]) ++ rest) = c.toNat.toUInt8 :: Percent.decode rest := by
  have ascii := ascii_of_isKept kept
  obtain ⟨plus, percent⟩ := Text.Ascii.of_ascii
    (P := fun c => isKept c = true → c.toNat.toUInt8 ≠ 0x2B ∧ c.toNat.toUInt8 ≠ 0x25)
    (by decide +kernel) ascii kept
  unfold Text.Utf8.encodeChars
  rw [List.flatMap_singleton, Percent.encodeChar_ascii ascii]
  change Percent.decode ((if c.toNat.toUInt8 = 0x2B then 0x20 else c.toNat.toUInt8) :: rest) = _
  rw [if_neg plus, Percent.decode_plain percent]

theorem spaced_escape (b : UInt8) :
    spaced (encodeChars (Percent.escapeOctet b)) = encodeChars (Percent.escapeOctet b) := by
  have apart : Percent.marks.all (fun c => decide (c.toNat.toUInt8 ≠ 0x2B)) = true := by decide
  refine (List.map_congr_left fun octet member => ?_).trans (List.map_id _)
  obtain ⟨c, escape, written⟩ := List.mem_flatMap.mp member
  have mark := Percent.mem_escapeOctet escape
  rw [Percent.encodeChar_ascii (Percent.toNat_of_mem_marks mark).2] at written
  rw [List.mem_singleton.mp written]
  exact if_neg (of_decide_eq_true (List.all_eq_true.mp apart c mark))

theorem decode_encodeOctet (b : UInt8) (rest : Octets) :
    Percent.decode (spaced (encodeChars (encodeOctet b)) ++ rest) = b :: Percent.decode rest := by
  rcases encodeOctet_cases b with ⟨c, same, kept, value⟩ | ⟨rfl, same⟩ | same
  · rw [same, decode_kept kept, value]
    exact congrArg (· :: _) UInt8.ofNat_toNat
  · rw [same]
    exact Percent.decode_plain (by decide)
  · rw [same, spaced_escape]
    exact Percent.decode_escape b rest

theorem decodeText_encodeText (s : String) : decodeText (encodeChars (encodeText s)) = s := by
  have octets (bytes : Octets) :
      Percent.decode (spaced (encodeChars (bytes.flatMap encodeOctet))) = bytes := by
    induction bytes with
    | nil => rfl
    | cons b rest ih =>
      have split : encodeChars ((b :: rest).flatMap encodeOctet) =
          encodeChars (encodeOctet b) ++ encodeChars (rest.flatMap encodeOctet) := by
        rw [List.flatMap_cons]
        exact List.flatMap_append
      rw [split, spaced_append, decode_encodeOctet, ih]
  unfold decodeText encodeText
  change Text.Utf8.decodeLossy (Percent.decode (spaced _)) = s
  rw [octets]
  exact Text.Utf8.decodeLossy_encode s

/-! Pairs -/

theorem split_unbroken {separator : UInt8} {piece : Octets} (unbroken : separator ∉ piece) :
    split separator piece = [piece] := by
  induction piece with
  | nil => rfl
  | cons b rest ih =>
    have other : b ≠ separator := fun same => unbroken (same ▸ List.mem_cons_self)
    rw [split, if_neg other, ih fun member => unbroken (List.mem_cons_of_mem b member)]

theorem split_append {separator : UInt8} {piece : Octets} (unbroken : separator ∉ piece)
    (rest : Octets) : split separator (piece ++ separator :: rest) = piece :: split separator rest := by
  induction piece with
  | nil => rw [List.nil_append, split, if_pos rfl]
  | cons b more ih =>
    have other : b ≠ separator := fun same => unbroken (same ▸ List.mem_cons_self)
    rw [List.cons_append, split, if_neg other, ih fun member => unbroken (List.mem_cons_of_mem b member)]

theorem octet_of_mem {s : String} {b : UInt8} (member : b ∈ encodeChars (encodeText s)) :
    ∃ c, IsWritten c ∧ b = c.toNat.toUInt8 := by
  obtain ⟨c, source, octet⟩ := List.mem_flatMap.mp member
  have written := isWritten_of_mem source
  rw [Percent.encodeChar_ascii written.ascii] at octet
  exact ⟨c, written, List.mem_singleton.mp octet⟩

theorem not_mem_of_apart {s : String} {d : Char} (ascii : d.toNat < 128)
    (apart : ∀ c, IsWritten c → c ≠ d) : d.toNat.toUInt8 ∉ encodeChars (encodeText s) := by
  intro member
  obtain ⟨c, written, same⟩ := octet_of_mem member
  have value : c.toNat = d.toNat := by
    have both := congrArg UInt8.toNat same
    rw [Text.Utf8.toNat_octet (by omega), Text.Utf8.toNat_octet (by have := written.ascii; omega)] at both
    exact both.symm
  refine apart c written ?_
  rw [← Char.ofNat_toNat c, value, Char.ofNat_toNat]

def piece (pair : String × String) : Octets :=
  encodeChars (encodeText pair.1) ++ 0x3D :: encodeChars (encodeText pair.2)

theorem encodeChars_encodePair (pair : String × String) : encodeChars (encodePair pair) = piece pair :=
  List.flatMap_append

theorem unbroken_piece (pair : String × String) : 0x26 ∉ piece pair := by
  have apart (s : String) : (0x26 : UInt8) ∉ encodeChars (encodeText s) :=
    not_mem_of_apart (d := '&') (by decide) fun c written => written.apart.1
  unfold piece
  simp [apart]

theorem decodePair_piece (pair : String × String) : decodePair (piece pair) = pair := by
  have apart : (0x3D : UInt8) ∉ encodeChars (encodeText pair.1) :=
    not_mem_of_apart (d := '=') (by decide) fun c written => written.apart.2.1
  have before : ∀ b ∈ encodeChars (encodeText pair.1), decide (b ≠ 0x3D) = true := fun b member =>
    decide_eq_true fun same => apart (same ▸ member)
  unfold decodePair piece
  rw [List.takeWhile_append_of_pos before, List.dropWhile_append_of_pos before,
    List.takeWhile_cons_of_neg (by decide), List.dropWhile_cons_of_neg (by decide), List.append_nil,
    List.drop_one, List.tail_cons, decodeText_encodeText, decodeText_encodeText]

theorem split_encodePairs (pair : String × String) (rest : List (String × String)) :
    split 0x26 (encodeChars (encodePairs (pair :: rest))) = (pair :: rest).map piece := by
  induction rest generalizing pair with
  | nil =>
    change split 0x26 (encodeChars (encodePair pair)) = _
    rw [encodeChars_encodePair, split_unbroken (unbroken_piece pair)]
    rfl
  | cons next rest ih =>
    have joined : encodeChars (encodePairs (pair :: next :: rest)) =
        piece pair ++ 0x26 :: encodeChars (encodePairs (next :: rest)) := by
      change encodeChars (encodePair pair ++ '&' :: _) = _
      rw [← encodeChars_encodePair]
      exact List.flatMap_append
    rw [joined, split_append (unbroken_piece pair), ih]
    rfl

theorem decode_encode (pairs : List (String × String)) : decode (encode pairs) = pairs := by
  unfold decode encode decodeOctets Text.Utf8.encode
  rw [String.toList_ofList]
  cases pairs with
  | nil => rfl
  | cons pair rest =>
    have whole : ∀ p ∈ (pair :: rest).map piece, (!p.isEmpty) = true := by
      intro p member
      obtain ⟨pair', _, rfl⟩ := List.mem_map.mp member
      unfold piece
      simp
    rw [split_encodePairs, List.filter_eq_self.mpr whole, List.map_map]
    refine (List.map_congr_left fun p _ => ?_).trans (List.map_id _)
    exact decodePair_piece p

theorem visible_of_mem {pairs : List (String × String)} {c : Char} (member : c ∈ encodePairs pairs) :
    0x20 < c.toNat ∧ c ≠ '#' := by
  have text {s : String} (member : c ∈ encodeText s) : 0x20 < c.toNat ∧ c ≠ '#' :=
    ⟨(isWritten_of_mem member).visible, (isWritten_of_mem member).apart.2.2⟩
  have one {pair : String × String} (member : c ∈ encodePair pair) : 0x20 < c.toNat ∧ c ≠ '#' := by
    rcases List.mem_append.mp member with name | value
    · exact text name
    · rcases List.mem_cons.mp value with rfl | value
      · decide
      · exact text value
  induction pairs with
  | nil => cases member
  | cons pair rest ih =>
    cases rest with
    | nil => exact one member
    | cons next rest =>
      rcases List.mem_append.mp member with first | later
      · exact one first
      · rcases List.mem_cons.mp later with rfl | later
        · decide
        · exact ih later

end ProtocolGateway.Web.Form
