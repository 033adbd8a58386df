import Mathlib
import ProtocolGateway.Proofs.Web.Host
import ProtocolGateway.Web.Url

/-!
Authorities. A host and a port that were read are found again in the text they are written as,
whatever path follows.
-/

namespace ProtocolGateway.Web.Url

variable {k : SchemeClass} {scheme : String} {host : List Char}

/-! What ends an authority -/

theorem goes_on (is : IsHost host) : ∀ c ∈ host, endsAuthority k c = false := by
  intro c member
  have other := is.apart c member
  simp only [List.mem_cons, List.not_mem_nil, or_false, not_or] at other
  simp [endsAuthority, other]

theorem goes_on_digit {n : Nat} : ∀ c ∈ Nat.toDigits 10 n, endsAuthority k c = false := by
  intro c member
  have digit := Text.Ascii.isDigit_of_mem_toDigits member
  have apart := Text.Ascii.of_ascii
    (P := fun c => Text.Ascii.isDigit c = true → c ∉ ['/', '?', '#', '\\']) (by decide +kernel)
    (Text.Ascii.ascii_of_isDigit digit) digit
  simp only [List.mem_cons, List.not_mem_nil, or_false, not_or] at apart
  simp [endsAuthority, apart]

def portText : Option Nat → List Char
  | none => []
  | some p => ':' :: Nat.toDigits 10 p

theorem mem_portText {port : Option Nat} {c : Char} (member : c ∈ portText port) :
    c = ':' ∨ Text.Ascii.isDigit c = true := by
  cases port with
  | none => cases member
  | some p =>
    rcases List.mem_cons.mp member with colon | digit
    · exact Or.inl colon
    · exact Or.inr (Text.Ascii.isDigit_of_mem_toDigits digit)

/-! User information -/

theorem skipUserInfo_plain {authority more : List Char}
    (goes : ∀ c ∈ authority, endsAuthority k c = false) (plain : '@' ∉ authority) :
    skipUserInfo k (authority ++ '/' :: more) = .ok (false, authority ++ '/' :: more) := by
  have whole : (authority ++ '/' :: more).takeWhile (!endsAuthority k ·) = authority := by
    rw [List.takeWhile_append_of_pos fun c member => by simp [goes c member],
      List.takeWhile_cons_of_neg (by simp [endsAuthority]), List.append_nil]
  have kept : authority.reverse.takeWhile (fun c => decide (c ≠ '@')) = authority.reverse :=
    List.takeWhile_eq_self_iff.mpr fun c member =>
      decide_eq_true fun same => plain (same ▸ List.mem_reverse.mp member)
  unfold skipUserInfo
  dsimp only
  rw [whole, kept, List.reverse_reverse]
  exact if_pos rfl

/-! Host -/

theorem splitHost_inside {brackets : Bool} {front : List Char}
    (goes : ∀ c ∈ front, endsAuthority k c = false)
    (apart : ∀ c ∈ front, c ∉ ['[', ']'] ∧ (c = ':' → brackets = true)) (rest : List Char) :
    splitHost k brackets (front ++ rest) =
      (front ++ (splitHost k brackets rest).1, (splitHost k brackets rest).2) := by
  induction front with
  | nil => rfl
  | cons c front ih =>
    obtain ⟨outside, colon⟩ := apart c List.mem_cons_self
    simp only [List.mem_cons, List.not_mem_nil, or_false, not_or] at outside
    have on : ¬(endsAuthority k c || (c == ':' && !brackets)) = true := by
      rw [goes c List.mem_cons_self]
      simpa using colon
    rw [List.cons_append, splitHost, if_neg on]
    dsimp only
    rw [if_neg (by simp [outside.1]), if_neg (by simp [outside.2]),
      ih (fun d member => goes d (List.mem_cons_of_mem c member))
        fun d member => apart d (List.mem_cons_of_mem c member)]
    rfl

def StopsHost (k : SchemeClass) (rest : List Char) : Prop :=
  ∃ c more, rest = c :: more ∧ (endsAuthority k c || c == ':') = true

theorem splitHost_stop {rest : List Char} (stops : StopsHost k rest) :
    splitHost k false rest = ([], rest) := by
  obtain ⟨c, more, rfl, ends⟩ := stops
  rw [splitHost, if_pos (by simpa using ends)]

theorem splitHost_host (is : IsHost host) {rest : List Char} (stops : StopsHost k rest) :
    splitHost k false (host ++ rest) = (host, rest) := by
  have goes := goes_on (k := k) is
  rcases is.shape with plain | ⟨inner, rfl, inside⟩
  · have apart : ∀ c ∈ host, c ∉ ['[', ']'] ∧ (c = ':' → false = true) := by
      intro c member
      have other := plain c member
      simp only [List.mem_cons, List.not_mem_nil, or_false, not_or] at other ⊢
      exact ⟨other.2, fun colon => absurd colon other.1⟩
    rw [splitHost_inside goes apart, splitHost_stop stops, List.append_nil]
  · have opening : ¬(endsAuthority k '[' || ('[' == ':' && !false)) = true := by simp [endsAuthority]
    have closing : ¬(endsAuthority k ']' || (']' == ':' && !true)) = true := by simp [endsAuthority]
    have within : ∀ c ∈ inner, endsAuthority k c = false := fun c member =>
      goes c (List.mem_cons_of_mem _ (List.mem_append_left _ member))
    -- The brackets switch the colon off and on again.
    have bracket : splitHost k true (inner ++ ']' :: rest) = (inner ++ [']'], rest) := by
      rw [splitHost_inside within fun c member => ⟨inside c member, fun _ => rfl⟩, splitHost,
        if_neg closing]
      dsimp only
      rw [if_neg (by decide), if_pos (by decide), splitHost_stop stops]
    rw [List.cons_append, List.append_assoc, List.singleton_append, splitHost, if_neg opening]
    dsimp only
    rw [if_pos (by decide), bracket]

/-! Port -/

/-- A port that a reading gives: small enough, and not the one that the scheme has anyway. -/
def PortFits (scheme : String) (port : Option Nat) : Prop :=
  ∀ p, port = some p → p ≤ 65535 ∧ some p ≠ defaultPort? scheme

theorem readPort_digits {p : Nat} (fits : PortFits scheme (some p)) (more : List Char) :
    readPort scheme (Nat.toDigits 10 p ++ '/' :: more) = .ok (some p, '/' :: more) := by
  obtain ⟨small, own⟩ := fits p rfl
  have digits : (Nat.toDigits 10 p ++ '/' :: more).takeWhile Text.Ascii.isDigit =
      Nat.toDigits 10 p := by
    rw [List.takeWhile_append_of_pos fun c member => Text.Ascii.isDigit_of_mem_toDigits member,
      List.takeWhile_cons_of_neg (by decide), List.append_nil]
  have present : (Nat.toDigits 10 p).isEmpty = false :=
    List.isEmpty_eq_false_iff.mpr Nat.toDigits_ne_nil
  have big : ¬(decide (p > 65535) || !endsPort '/') = true := by
    simp only [gt_iff_lt, Bool.or_eq_true, decide_eq_true_eq, not_or, Nat.not_lt]
    exact ⟨small, by decide⟩
  unfold readPort
  dsimp only
  rw [digits, List.drop_left, Text.Ascii.natOf_toDigits]
  dsimp only
  rw [if_neg big, if_neg]
  rintro (empty | default)
  · rw [present] at empty
    cases empty
  · exact own default

theorem readPort_fits {cs rest : List Char} {port : Option Nat}
    (read : readPort scheme cs = .ok (port, rest)) : PortFits scheme port := by
  -- How the digits end does not matter here.
  obtain ⟨n, digits, ended, read⟩ : ∃ (n : Nat) (digits : List Char) (ended : Bool),
      (if (n > 65535 || !ended) = true then Except.error UrlError.port
        else .ok (if digits.isEmpty = true ∨ some n = defaultPort? scheme then none else some n,
          cs.drop digits.length)) = .ok (port, rest) := ⟨_, _, _, read⟩
  split at read
  · cases read
  · rename_i fits
    simp only [gt_iff_lt, Bool.or_eq_true, decide_eq_true_eq, not_or, Nat.not_lt] at fits
    cases read
    intro p number
    split at number
    · cases number
    · rename_i other
      cases number
      exact ⟨fits.1, fun same => other (Or.inr same)⟩

/-! Together -/

def readHost (k : SchemeClass) (cs : List Char) : Except UrlError String :=
  if k.isSpecial then Host.ofDomain cs else Host.ofOpaque cs

theorem isHost_readHost {cs : List Char} {name : String} (present : name ≠ "")
    (read : readHost k cs = .ok name) : IsHost name.toList := by
  unfold readHost at read
  split at read
  · exact Host.isHost_ofDomain present read
  · exact Host.isHost_ofOpaque present read

/-- What stands behind a host: a port, or nothing of the authority. -/
def readBehind (scheme name : String) (rest : List Char) :
    Except UrlError (Option String × Option Nat × List Char) :=
  match rest with
  | ':' :: afterColon => (readPort scheme afterColon).map fun read => (some name, read.1, read.2)
  | _ => .ok (some name, none, rest)

theorem readBehind_colon (scheme name : String) (more : List Char) :
    readBehind scheme name (':' :: more) =
      (readPort scheme more).map fun read => (some name, read.1, read.2) := rfl

theorem readBehind_end (name : String) {rest : List Char}
    (noColon : ∀ more, rest = ':' :: more → False) :
    readBehind scheme name rest = .ok (some name, none, rest) := by
  unfold readBehind
  split
  · exact absurd rfl (noColon _)
  · rfl

theorem readAuthority_present {cs text rest : List Char} {info : Bool × List Char}
    (skipped : skipUserInfo k cs = .ok info) (split : splitHost k false info.2 = (text, rest))
    (present : text.isEmpty = false) :
    readAuthority scheme k cs = (readHost k text).bind (readBehind scheme · rest) := by
  unfold readAuthority readHost
  simp only [bind, Except.bind, skipped, split, present, Bool.false_eq_true, ↓reduceIte]
  -- The two kinds of host are read alike from here on.
  cases k.isSpecial
  case' false => generalize Host.ofOpaque text = read
  case' true => generalize Host.ofDomain text = read
  all_goals
    cases read with
    | error e => rfl
    | ok name =>
      simp only [Bool.false_eq_true, ↓reduceIte]
      split
      · rw [readBehind_colon]
        cases readPort scheme _ <;> rfl
      · rename_i noColon
        rw [readBehind_end name noColon]

theorem readAuthority_text {port : Option Nat} (is : IsHost host) (fits : PortFits scheme port)
    (more : List Char) :
    readAuthority scheme k (host ++ portText port ++ '/' :: more) =
      (readHost k host).map fun name => (some name, port, '/' :: more) := by
  have goes : ∀ c ∈ host ++ portText port, endsAuthority k c = false := by
    intro c member
    rcases List.mem_append.mp member with inside | behind
    · exact goes_on is c inside
    · cases port with
      | none => cases behind
      | some p =>
        rcases List.mem_cons.mp behind with rfl | digit
        · simp [endsAuthority]
        · exact goes_on_digit c digit
  -- Neither a host nor a port has a mark that would be read as user information.
  have plain : '@' ∉ host ++ portText port := by
    intro member
    rcases List.mem_append.mp member with inside | behind
    · exact is.apart '@' inside (by decide)
    · rcases mem_portText behind with colon | digit
      · exact absurd colon (by decide)
      · exact absurd digit (by decide)
  have split : splitHost k false (host ++ portText port ++ '/' :: more) =
      (host, portText port ++ '/' :: more) := by
    rw [List.append_assoc]
    refine splitHost_host is ?_
    cases port with
    | none => exact ⟨'/', more, rfl, by simp [endsAuthority]⟩
    | some p => exact ⟨':', _, rfl, by simp⟩
  have behind (name : String) : readBehind scheme name (portText port ++ '/' :: more) =
      .ok (some name, port, '/' :: more) := by
    cases port with
    | none => rfl
    | some p =>
      change (readPort scheme (Nat.toDigits 10 p ++ '/' :: more)).map _ = _
      rw [readPort_digits fits more]
      rfl
  rw [readAuthority_present (skipUserInfo_plain goes plain) split
    (List.isEmpty_eq_false_iff.mpr is.present)]
  cases readHost k host with
  | error e => rfl
  | ok name => exact behind name

theorem of_readAuthority {cs rest : List Char} {name : String} {port : Option Nat}
    (read : readAuthority scheme k cs = .ok (some name, port, rest)) :
    (∃ text, readHost k text = .ok name) ∧ PortFits scheme port := by
  cases skipped : skipUserInfo k cs with
  | error e =>
    simp only [readAuthority, bind, Except.bind, skipped] at read
    cases read
  | ok info =>
    obtain ⟨text, behind⟩ : ∃ text, ∃ rest, splitHost k false info.2 = (text, rest) := ⟨_, _, rfl⟩
    obtain ⟨behind, split⟩ := behind
    -- No name is read out of an empty text.
    cases present : text.isEmpty with
    | true =>
      simp only [readAuthority, bind, Except.bind, skipped, split, present, ↓reduceIte] at read
      split at read
      · cases read
      · split at read <;> cases read
    | false =>
      rw [readAuthority_present skipped split present] at read
      cases named : readHost k text with
      | error e =>
        rw [named] at read
        cases read
      | ok found =>
        rw [named] at read
        change readBehind scheme found behind = _ at read
        unfold readBehind at read
        split at read
        · rename_i afterColon
          cases number : readPort scheme afterColon with
          | error e =>
            rw [number] at read
            cases read
          | ok result =>
            rw [number] at read
            cases read
            exact ⟨⟨text, named⟩, readPort_fits number⟩
        · cases read
          refine ⟨⟨text, named⟩, ?_⟩
          rintro p ⟨⟩

end ProtocolGateway.Web.Url
