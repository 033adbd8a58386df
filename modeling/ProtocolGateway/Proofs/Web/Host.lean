import Mathlib
import ProtocolGateway.Proofs.Web.Ipv6
import ProtocolGateway.Proofs.Web.Percent
import ProtocolGateway.Proofs.Text.Ascii
import ProtocolGateway.Web.Host

/-!
Hosts. No host holds a character that ends it or stands for something else in an authority, and an
opaque host is read as itself again.
-/

namespace ProtocolGateway.Web

/-! Domain names -/

namespace Domain

def Allowed (cs : List Char) : Prop := ∀ c ∈ cs, isForbidden c = false

theorem Allowed.append {xs ys : List Char} (front : Allowed xs) (back : Allowed ys) :
    Allowed (xs ++ ys) :=
  fun c member => (List.mem_append.mp member).elim (front c) (back c)

theorem allowed_nil : Allowed [] := fun _ member => nomatch member

theorem allowed_digit {n : Nat} (small : n < 36) : Allowed [Punycode.digitChar n] := by
  have all : ∀ n < 36, isForbidden (Punycode.digitChar n) = false := by decide
  intro c member
  rw [List.mem_singleton.mp member]
  exact all n small

theorem threshold_bounds (k bias : Nat) :
    1 ≤ Punycode.threshold k bias ∧ Punycode.threshold k bias ≤ 26 := by
  unfold Punycode.threshold
  split
  · decide
  · split
    · decide
    · simp only [Punycode.high] at *
      omega

theorem allowed_encodeDelta (bias fuel k delta : Nat) :
    Allowed (Punycode.encodeDelta bias fuel k delta) := by
  induction fuel generalizing k delta with
  | zero => exact allowed_nil
  | succ fuel ih =>
    obtain ⟨low, high⟩ := threshold_bounds k bias
    unfold Punycode.encodeDelta
    dsimp only
    split
    · exact allowed_digit (by omega)
    · change Allowed ([Punycode.digitChar _] ++ _)
      refine (allowed_digit ?_).append (ih _ _)
      have rest := Nat.mod_lt (delta - Punycode.threshold k bias)
        (show Punycode.base - Punycode.threshold k bias > 0 by simp only [Punycode.base]; omega)
      simp only [Punycode.base] at rest ⊢
      omega

theorem allowed_encodePass (n plain : Nat) (input : List Nat) {p : Punycode.Progress}
    (before : Allowed p.output) : Allowed (Punycode.encodePass n plain input p).output := by
  induction input generalizing p with
  | nil => exact before
  | cons c rest ih =>
    unfold Punycode.encodePass
    split
    · exact ih before
    · split
      · exact ih (before.append (allowed_encodeDelta _ _ _ _))
      · exact ih before

theorem allowed_encodeRounds (input : List Nat) (plain fuel n : Nat) {p : Punycode.Progress}
    (before : Allowed p.output) : Allowed (Punycode.encodeRounds input plain fuel n p).output := by
  induction fuel generalizing n p with
  | zero => exact before
  | succ fuel ih =>
    unfold Punycode.encodeRounds
    split
    · exact before
    · exact ih _ (allowed_encodePass _ _ _ before)

theorem allowed_punycode {label : List Char} (allowed : Allowed label) :
    Allowed (Punycode.encode label) := by
  have plain : Allowed (label.filter (·.toNat < 128)) := fun c member =>
    allowed c (List.mem_of_mem_filter member)
  refine allowed_encodeRounds _ _ _ _ ?_
  dsimp only
  split
  · exact allowed_nil
  · refine plain.append fun c member => ?_
    rw [List.mem_singleton.mp member]
    decide

theorem allowed_label {label : List Char} (allowed : Allowed label) {l : Label}
    (read : label? label = some l) : Allowed l.written := by
  unfold label? at read
  split at read
  · unfold ofEncoded? at read
    obtain ⟨shown, _, checks⟩ := Option.bind_eq_some_iff.mp read
    split at checks
    · cases checks
    · split at checks
      · cases checks
      · split at checks
        · cases checks
        · split at checks
          · cases checks
            exact allowed
          · cases checks
  · split at read
    · cases read
      exact allowed
    · split at read
      · cases read
        refine Allowed.append (fun c member => ?_) (allowed_punycode allowed)
        have all : ['x', 'n', '-', '-'].all (fun c => !isForbidden c) = true := by decide
        simpa using List.all_eq_true.mp all c member
      · cases read

theorem mem_of_mem_pieces {cut : Char → Bool} {cs part : List Char} {c : Char}
    (found : part ∈ Text.Runs.pieces cut cs) (member : c ∈ part) : c ∈ cs := by
  induction cs generalizing part with
  | nil =>
    rw [List.mem_singleton.mp found] at member
    cases member
  | cons d rest ih =>
    unfold Text.Runs.pieces at found
    dsimp only at found
    split at found
    · rcases List.mem_cons.mp found with rfl | later
      · cases member
      · exact List.mem_cons_of_mem d (ih later member)
    · split at found
      · rename_i word more same
        rcases List.mem_cons.mp found with rfl | later
        · rcases List.mem_cons.mp member with rfl | inside
          · exact List.mem_cons_self
          · exact List.mem_cons_of_mem d (ih (same ▸ List.mem_cons_self) inside)
        · exact List.mem_cons_of_mem d (ih (same ▸ List.mem_cons_of_mem word later) member)
      · rw [List.mem_singleton.mp found] at member
        rw [List.mem_singleton.mp member]
        exact List.mem_cons_self

theorem allowed_labels {parts : List (List Char)} (allowed : ∀ part ∈ parts, Allowed part)
    {labels : List Label} (read : parts.mapM label? = some labels) :
    Allowed (joinLabels (labels.map (·.written))) := by
  induction parts generalizing labels with
  | nil =>
    cases read
    exact allowed_nil
  | cons part rest ih =>
    rw [List.mapM_cons] at read
    obtain ⟨l, first, later⟩ := Option.bind_eq_some_iff.mp read
    obtain ⟨more, tail, same⟩ := Option.bind_eq_some_iff.mp later
    cases same
    have front := allowed_label (allowed part List.mem_cons_self) first
    have back := ih (fun p member => allowed p (List.mem_cons_of_mem part member)) tail
    cases more with
    | nil => exact front
    | cons l' more =>
      have dot : Allowed ['.'] := fun c member => by
        rw [List.mem_singleton.mp member]
        decide
      exact front.append (dot.append back)

theorem allowed_toAscii {name ascii : List Char} (read : toAscii? name = some ascii) :
    Allowed ascii := by
  unfold toAscii? at read
  obtain ⟨mapped, _, checks⟩ := Option.bind_eq_some_iff.mp read
  dsimp only at checks
  split at checks
  · cases checks
  · rename_i clear
    obtain ⟨labels, parts, directions⟩ := Option.bind_eq_some_iff.mp checks
    have written : Allowed (joinLabels (labels.map (·.written))) :=
      allowed_labels (fun part found c member => by
        have inside := mem_of_mem_pieces found member
        simp only [List.any_eq_true, not_exists, not_and, Bool.not_eq_true] at clear
        exact clear c inside) parts
    split at directions
    · cases directions
    · cases directions
      exact written

end Domain

/-! Hosts in an authority -/

/-- What stands as the host in an authority: brackets around something without brackets, or neither
brackets nor colons; and nothing that ends the authority or the user information in front of it. -/
structure IsHost (host : List Char) : Prop where
  present : host ≠ []
  visible : ∀ c ∈ host, 0x20 < c.toNat
  apart : ∀ c ∈ host, c ∉ ['/', '?', '#', '\\', '@', '|']
  shape : (∀ c ∈ host, c ∉ [':', '[', ']']) ∨
    ∃ inner, host = '[' :: (inner ++ [']']) ∧ ∀ c ∈ inner, c ∉ ['[', ']']

namespace Host

theorem isHost_allowed {host : List Char} (present : host ≠ []) (allowed : Domain.Allowed host) :
    IsHost host := by
  have clear (c : Char) (member : c ∈ host) : 0x20 < c.toNat ∧
      c ∉ ['%', '#', '/', ':', '<', '>', '?', '@', '[', '\\', ']', '^', '|'] := by
    have one := allowed c member
    simp only [Domain.isForbidden, Bool.or_eq_false_iff, decide_eq_false_iff_not,
      List.contains_eq_mem] at one
    exact ⟨Nat.lt_of_not_le one.1.1, one.2⟩
  refine ⟨present, fun c member => (clear c member).1, fun c member => ?_, Or.inl fun c member => ?_⟩
  · have other := (clear c member).2
    simp only [List.mem_cons, List.not_mem_nil, or_false, not_or] at other ⊢
    tauto
  · have other := (clear c member).2
    simp only [List.mem_cons, List.not_mem_nil, or_false, not_or] at other ⊢
    tauto

/-! Addresses -/

theorem bracketed_ok {cs : List Char} {host : String} (read : bracketed cs = .ok host) :
    ∃ a, Ipv6.IsWhole a ∧ host = "[" ++ Ipv6.text a ++ "]" := by
  unfold bracketed at read
  split at read
  · cases read
  · split at read
    · rename_i a parsed
      cases read
      exact ⟨a, Ipv6.isWhole_of_parse parsed, rfl⟩
    · cases read

theorem toList_bracketed (a : Ipv6.Address) :
    ("[" ++ Ipv6.text a ++ "]").toList = '[' :: ((Ipv6.text a).toList ++ [']']) := by
  rw [String.toList_append, String.toList_append]
  rfl

theorem bracketed_text {a : Ipv6.Address} (whole : Ipv6.IsWhole a) :
    bracketed ("[" ++ Ipv6.text a ++ "]").toList = .ok ("[" ++ Ipv6.text a ++ "]") := by
  unfold bracketed
  rw [toList_bracketed, ← List.cons_append, List.getLast?_concat, List.cons_append, List.drop_one,
    List.tail_cons, List.dropLast_concat, Ipv6.parse_text whole]
  rfl

theorem isHost_bracketed (a : Ipv6.Address) : IsHost ("[" ++ Ipv6.text a ++ "]").toList := by
  have inner (c : Char) (member : c ∈ (Ipv6.text a).toList) : 0x20 < c.toNat ∧
      c ∉ ['/', '?', '#', '\\', '@', '|'] ∧ c ∉ ['[', ']'] := by
    rcases Ipv6.mem_text member with rfl | digit
    · decide
    · obtain ⟨d, value⟩ := Option.isSome_iff_exists.mp digit
      exact Text.Ascii.of_ascii (P := fun c => (Text.Hex.digitValue? c).isSome = true →
        0x20 < c.toNat ∧ c ∉ ['/', '?', '#', '\\', '@', '|'] ∧ c ∉ ['[', ']'])
        (by decide +kernel) (Ipv6.digitValue_bounds value).2 digit
  have whole (c : Char) (member : c ∈ '[' :: ((Ipv6.text a).toList ++ [']'])) :
      0x20 < c.toNat ∧ c ∉ ['/', '?', '#', '\\', '@', '|'] := by
    rcases List.mem_cons.mp member with rfl | member
    · decide
    · rcases List.mem_append.mp member with inside | last
      · exact ⟨(inner c inside).1, (inner c inside).2.1⟩
      · rw [List.mem_singleton.mp last]
        decide
  rw [toList_bracketed]
  exact ⟨List.cons_ne_nil _ _, fun c member => (whole c member).1, fun c member => (whole c member).2,
    Or.inr ⟨_, rfl, fun c member => (inner c member).2.2⟩⟩

theorem allowed_ipv4 (n : Ipv4.Address) : Domain.Allowed (Ipv4.text n).toList := by
  have dot : Domain.Allowed ".".toList := fun c member => by
    rw [List.mem_singleton.mp member]
    decide
  have number (k : Nat) : Domain.Allowed (toString k).toList := fun c member => by
    have digit := Text.Ascii.isDigit_of_mem_toDigits (n := k) (by
      rwa [Nat.toString_eq_ofList_toDigits, String.toList_ofList] at member)
    exact Text.Ascii.of_ascii (P := fun c => Text.Ascii.isDigit c = true → Domain.isForbidden c = false)
      (by decide +kernel) (Text.Ascii.ascii_of_isDigit digit) digit
  unfold Ipv4.text
  simp only [String.intercalate_cons_cons, String.intercalate_singleton, String.toList_append]
  exact ((number _).append dot).append (((number _).append dot).append
    (((number _).append dot).append (number _)))

/-! Reading -/

theorem isHost_ofDomain {cs : List Char} {host : String} (present : host ≠ "")
    (read : ofDomain cs = .ok host) : IsHost host.toList := by
  have some : host.toList ≠ [] := fun empty => present (String.toList_eq_nil_iff.mp empty)
  unfold ofDomain at read
  split at read
  · obtain ⟨a, _, rfl⟩ := bracketed_ok read
    exact isHost_bracketed a
  · split at read
    · cases read
    · split at read
      · cases read
      · cases read
      · rename_i ascii _ named
        split at read
        · split at read
          · cases read
            exact isHost_allowed some (allowed_ipv4 _)
          · cases read
        · cases read
          refine isHost_allowed some ?_
          rw [String.toList_ofList]
          exact Domain.allowed_toAscii named

theorem opaque_chars {cs : List Char} (clear : ¬cs.any isForbiddenOpaque = true) {c : Char}
    (member : c ∈ Percent.encode Percent.isControl cs) :
    Percent.Kept Percent.isControl c ∧ isForbiddenOpaque c = false := by
  refine ⟨Percent.kept_notControl cs c member, ?_⟩
  rcases Percent.mem_encode member with ⟨source, _⟩ | mark
  · simp only [List.any_eq_true, not_exists, not_and, Bool.not_eq_true] at clear
    exact clear c source
  · have all : Percent.marks.all (fun c => !isForbiddenOpaque c) = true := by decide
    simpa using List.all_eq_true.mp all c mark

theorem isHost_ofOpaque {cs : List Char} {host : String} (present : host ≠ "")
    (read : ofOpaque cs = .ok host) : IsHost host.toList := by
  have some : host.toList ≠ [] := fun empty => present (String.toList_eq_nil_iff.mp empty)
  unfold ofOpaque at read
  split at read
  · obtain ⟨a, _, rfl⟩ := bracketed_ok read
    exact isHost_bracketed a
  · split at read
    · cases read
    · rename_i clear
      cases read
      rw [String.toList_ofList] at some ⊢
      have chars (c : Char) (member : c ∈ Percent.encode Percent.isControl cs) : 0x20 < c.toNat ∧
          c ∉ ['/', '?', '#', '\\', '@', '|'] ∧ c ∉ [':', '[', ']'] := by
        obtain ⟨⟨ascii, kept⟩, allowed⟩ := opaque_chars clear member
        exact Text.Ascii.of_ascii (P := fun c => (Percent.isControl c || isForbiddenOpaque c) = false →
          0x20 < c.toNat ∧ c ∉ ['/', '?', '#', '\\', '@', '|'] ∧ c ∉ [':', '[', ']'])
          (by decide +kernel) ascii (by rw [kept, allowed]; rfl)
      exact ⟨some, fun c member => (chars c member).1, fun c member => (chars c member).2.1,
        Or.inl fun c member => (chars c member).2.2⟩

theorem ofOpaque_again {cs : List Char} {host : String} (read : ofOpaque cs = .ok host) :
    ofOpaque host.toList = .ok host := by
  unfold ofOpaque at read
  split at read
  · obtain ⟨a, whole, rfl⟩ := bracketed_ok read
    unfold ofOpaque
    rw [bracketed_text whole, toList_bracketed]
    exact if_pos rfl
  · split at read
    · cases read
    · rename_i clear
      cases read
      rw [String.toList_ofList]
      have kept : ∀ c ∈ Percent.encode Percent.isControl cs, Percent.Kept Percent.isControl c :=
        fun c member => (opaque_chars clear member).1
      have closed : (Percent.encode Percent.isControl cs).head? ≠ some '[' := fun first => by
        have forbidden := (opaque_chars clear (List.mem_of_head? first)).2
        exact absurd forbidden (by decide)
      have still : ¬(Percent.encode Percent.isControl cs).any isForbiddenOpaque = true := by
        simp only [List.any_eq_true, not_exists, not_and, Bool.not_eq_true]
        exact fun c member => (opaque_chars clear member).2
      unfold ofOpaque
      rw [if_neg closed, if_neg still, Percent.encode_kept kept]

end Host

end ProtocolGateway.Web
