import Mathlib
import ProtocolGateway.Plugin.Link
import ProtocolGateway.Proofs.Text.Ascii
import ProtocolGateway.ResourceUri

/-!
Schemes of URLs. A URL that starts with the name of a scheme has this scheme, whatever follows, and
the written form of a resource's name tells its scheme.
-/

namespace ProtocolGateway

namespace Web.Url

/-! Cleaning -/

def trimEnd (cs : List Char) : List Char := (cs.reverse.dropWhile isEdge).reverse

/-- What stands between two characters that are kept is kept, and only what follows is trimmed. -/
theorem trimEdges_append {xs ys : List Char} {c : Char} (first : ∀ x, xs.head? = some x → isEdge x = false)
    (last : isEdge c = false) : trimEdges (xs ++ c :: ys) = xs ++ c :: trimEnd ys := by
  have start : (xs ++ c :: ys).dropWhile isEdge = xs ++ c :: ys := by
    cases xs with
    | nil => exact List.dropWhile_cons_of_neg (by simp [last])
    | cons x rest => exact List.dropWhile_cons_of_neg (by simp [first x rfl])
  unfold trimEdges trimEnd
  rw [start, List.reverse_append, List.reverse_cons, List.append_assoc, List.dropWhile_append]
  split
  · rename_i empty
    rw [List.isEmpty_iff.mp empty, List.singleton_append, List.dropWhile_cons_of_neg (by simp [last])]
    simp
  · simp

theorem clean_append {xs ys : List Char} {c : Char}
    (kept : ∀ x ∈ xs ++ [c], isEdge x = false) :
    clean (String.ofList (xs ++ c :: ys)) =
      xs ++ c :: (trimEnd ys).filter (!isSkipped ·) := by
  have skipped (x : Char) (member : x ∈ xs ++ [c]) : isSkipped x = false := by
    by_contra is
    have edge : isEdge x = true := by
      simp only [isSkipped, Bool.not_eq_false, Bool.or_eq_true, beq_iff_eq] at is
      rcases is with (rfl | rfl) | rfl <;> decide
    rw [kept x member] at edge
    cases edge
  have whole : xs.filter (!isSkipped ·) = xs :=
    List.filter_eq_self.mpr fun x member => by simp [skipped x (List.mem_append_left _ member)]
  unfold clean
  rw [String.toList_ofList, trimEdges_append
    (fun x head => kept x (List.mem_append_left _ (List.mem_of_head? head))) (kept c (by simp)),
    List.filter_append, whole, List.filter_cons_of_pos (by simp [skipped c])]

/-! Scheme characters -/

theorem toNat_of_isSchemeChar {c : Char} (is : isSchemeChar c = true) :
    0x2B ≤ c.toNat ∧ c.toNat ≠ 0x3A ∧ c.toNat ≠ 0x2F ∧ c.toNat < 0x80 := by
  simp only [isSchemeChar, Text.Ascii.isLetter, Text.Ascii.isDigit, Bool.or_eq_true,
    Bool.and_eq_true, decide_eq_true_eq, beq_iff_eq] at is
  rcases is with (((((⟨low, high⟩ | ⟨low, high⟩) | ⟨low, high⟩) | rfl) | rfl) | rfl)
  · have from_a : 97 ≤ c.toNat := low
    have to_z : c.toNat ≤ 122 := high
    omega
  · have from_A : 65 ≤ c.toNat := low
    have to_Z : c.toNat ≤ 90 := high
    omega
  · have from_0 : 48 ≤ c.toNat := low
    have to_9 : c.toNat ≤ 57 := high
    omega
  · decide
  · decide
  · decide

theorem isSchemeChar_lowerChar {c : Char} (is : isSchemeChar c = true) :
    isSchemeChar (Text.Ascii.lowerChar c) = true := by
  unfold Text.Ascii.lowerChar
  split
  · rename_i upper
    have from_A : 65 ≤ c.toNat := upper.1
    have to_Z : c.toNat ≤ 90 := upper.2
    have lowered : (Char.ofNat (c.toNat + 32)).toNat = c.toNat + 32 :=
      Text.Ascii.toNat_ofNat _ (Or.inl (by omega))
    have low : 'a' ≤ Char.ofNat (c.toNat + 32) := by
      change 97 ≤ (Char.ofNat (c.toNat + 32)).toNat
      omega
    have high : Char.ofNat (c.toNat + 32) ≤ 'z' := by
      change (Char.ofNat (c.toNat + 32)).toNat ≤ 122
      omega
    simp [isSchemeChar, Text.Ascii.isLetter, low, high]
  · exact is

/-! Splitting the scheme off -/

theorem mem_scheme {cs : List Char} {scheme : String} {rest : List Char}
    (split : splitScheme? cs = some (scheme, rest)) : ∀ c ∈ scheme.toList, isSchemeChar c = true := by
  unfold splitScheme? at split
  dsimp only at split
  split at split
  · split at split
    · cases split
      intro c member
      rw [String.toList_ofList] at member
      obtain ⟨d, before, rfl⟩ := List.mem_map.mp member
      exact isSchemeChar_lowerChar (List.mem_takeWhile_imp before)
    · cases split
  · cases split

theorem splitScheme_name {c : Char} {name rest : List Char} (letter : Text.Ascii.isLetter c = true)
    (chars : ∀ x ∈ c :: name, isSchemeChar x = true)
    (folded : (c :: name).map Text.Ascii.lowerChar = c :: name) :
    splitScheme? (c :: name ++ ':' :: rest) = some (String.ofList (c :: name), rest) := by
  have taken : (c :: name ++ ':' :: rest).takeWhile isSchemeChar = c :: name := by
    rw [List.takeWhile_append_of_pos chars, List.takeWhile_cons_of_neg (by decide), List.append_nil]
  unfold splitScheme?
  dsimp only
  rw [taken, List.drop_left]
  change (if Text.Ascii.isLetter c = true then
    some (String.ofList ((c :: name).map Text.Ascii.lowerChar), rest) else none) = _
  rw [if_pos letter, folded]

theorem isLetter_lowerChar {c : Char} (letter : Text.Ascii.isLetter c = true) :
    Text.Ascii.isLetter (Text.Ascii.lowerChar c) = true :=
  Text.Ascii.of_ascii
    (P := fun c => Text.Ascii.isLetter c = true → Text.Ascii.isLetter (Text.Ascii.lowerChar c) = true)
    (by decide +kernel) (Text.Ascii.ascii_of_isLetter letter) letter

theorem splitScheme_again {cs : List Char} {scheme : String} {rest : List Char}
    (split : splitScheme? cs = some (scheme, rest)) :
    Text.Ascii.lower scheme = scheme ∧
      ∀ more, splitScheme? (scheme.toList ++ ':' :: more) = some (scheme, more) := by
  have chars := mem_scheme split
  unfold splitScheme? at split
  dsimp only at split
  generalize cs.takeWhile isSchemeChar = name at split
  split at split
  · rename_i c after first _
    split at split
    · rename_i letter
      cases split
      obtain ⟨name, rfl⟩ := List.head?_eq_some_iff.mp first
      have folded : ((c :: name).map Text.Ascii.lowerChar).map Text.Ascii.lowerChar =
          (c :: name).map Text.Ascii.lowerChar := by
        rw [List.map_map]
        exact List.map_congr_left fun d _ => Text.Ascii.lowerChar_lowerChar d
      rw [String.toList_ofList] at chars ⊢
      constructor
      · rw [Text.Ascii.lower, String.toList_ofList, folded]
      · intro more
        exact splitScheme_name (isLetter_lowerChar letter) chars folded
    · cases split
  · cases split

theorem file_of_class {scheme : String} (file : SchemeClass.of scheme = .file) : scheme = "file" := by
  by_contra other
  unfold SchemeClass.of at file
  rw [if_neg other] at file
  split at file <;> cases file

theorem ofAuthority_scheme {scheme : String} {k : SchemeClass} {cs : List Char} {url : Url}
    (read : ofAuthority scheme k cs = .ok url) : url.scheme = scheme := by
  unfold ofAuthority at read
  simp only [bind, Except.bind] at read
  split at read
  · cases read
  · cases read
    rfl

theorem ofFile_scheme {cs : List Char} {url : Url} (read : ofFile cs = .ok url) :
    url.scheme = "file" := by
  unfold ofFile at read
  simp only [bind, Except.bind] at read
  split at read
  · split at read
    · split at read
      · cases read
        rfl
      · split at read
        · cases read
        · split at read
          · cases read
            rfl
          · cases read
            rfl
    · cases read
      rfl
  · cases read
    rfl

theorem parse_scheme {raw : String} {url : Url} (parsed : parse raw = .ok url) :
    ∃ rest, splitScheme? (clean raw) = some (url.scheme, rest) := by
  unfold parse at parsed
  split at parsed
  · cases parsed
  · rename_i scheme rest split
    refine ⟨rest, split.trans ?_⟩
    have same : url.scheme = scheme := by
      split at parsed
      · rename_i file
        exact (ofFile_scheme parsed).trans (file_of_class file).symm
      · exact ofAuthority_scheme parsed
      · split at parsed
        · exact ofAuthority_scheme parsed
        · cases parsed
          rfl
    rw [same]

end Web.Url

open Web.Url

/-- A protocol name that is the name of a scheme: a letter, then letters, digits and marks. -/
def ProtocolName.isScheme (p : ProtocolName) : Bool :=
  match p.text.toList with
  | [] => false
  | c :: rest => Text.Ascii.isLetter c && (c :: rest).all isSchemeChar

namespace ResourceUri

theorem ofUrl_iff {raw : String} {u : ResourceUri} : ofUrl raw = .ok u ↔
    ∃ url host, Web.Url.parse raw = .ok url ∧ url.host = some host ∧ host ≠ "" ∧ u = {
      scheme := url.scheme
      authority := authorityText host url.port
      path := if url.path = "" then "/" else url.path
      query := sortQuery (Web.Form.decode (url.query.getD "")) } := by
  unfold ofUrl
  constructor
  · intro named
    split at named
    · cases named
    · rename_i url parsed
      split at named
      · cases named
      · cases named
      · rename_i host present hosted
        exact ⟨url, host, parsed, hosted, present, (Except.ok.inj named).symm⟩
  · rintro ⟨url, host, parsed, hosted, present, rfl⟩
    rw [parsed]
    dsimp only
    rw [hosted]
    split
    · rename_i none
      cases none
    · rename_i empty
      cases empty
      exact absurd rfl present
    · rename_i same
      cases same
      rfl

theorem ofUrl_of_parse {path : String} {u : ResourceUri} (named : parse path = .ok u) :
    ∃ raw, ofUrl raw = .ok u := by
  unfold parse at named
  split at named
  · cases named
  · split at named
    · exact ⟨_, named⟩
    · split at named
      · cases named
      · exact ⟨_, named⟩

theorem ofUrl_scheme {raw : String} {u : ResourceUri} (named : ofUrl raw = .ok u) :
    ∃ rest, splitScheme? (clean raw) = some (u.scheme, rest) := by
  obtain ⟨url, host, parsed, _, _, rfl⟩ := ofUrl_iff.mp named
  exact parse_scheme parsed

theorem ofUrl_chars {raw : String} {u : ResourceUri} (named : ofUrl raw = .ok u) :
    ∀ c ∈ u.scheme.toList, isSchemeChar c = true := by
  obtain ⟨rest, split⟩ := ofUrl_scheme named
  exact mem_scheme split

theorem parse_chars {path : String} {u : ResourceUri} (named : parse path = .ok u) :
    ∀ c ∈ u.scheme.toList, isSchemeChar c = true := by
  obtain ⟨raw, read⟩ := ofUrl_of_parse named
  exact ofUrl_chars read

/-- The route of an answer cannot leave the scheme of its sender. -/
theorem ofParts_scheme {q : ProtocolName} (valid : q.isScheme = true) {authority path : String}
    {u : ResourceUri} (named : ofParts q.text authority path = .ok u) : u.scheme = q.text := by
  unfold ProtocolName.isScheme at valid
  cases text : q.text.toList with
  | nil =>
    rw [text] at valid
    cases valid
  | cons c name =>
    rw [text] at valid
    obtain ⟨letter, all⟩ := Bool.and_eq_true_iff.mp valid
    have chars : ∀ x ∈ c :: name, isSchemeChar x = true := List.all_eq_true.mp all
    have whole : String.ofList (c :: name) = q.text := by rw [← text, String.ofList_toList]
    have folded : (c :: name).map Text.Ascii.lowerChar = c :: name := by
      have lower := congrArg String.toList q.folded
      rw [Text.Ascii.lower, String.toList_ofList, text] at lower
      exact lower
    -- However the parts are put together, the text begins with the name and a colon.
    obtain ⟨tail, joined⟩ : ∃ tail, joinParts q.text authority path =
        String.ofList (c :: name ++ ':' :: tail) := by
      unfold joinParts
      have mark : ("://" : String) = String.ofList (':' :: ['/', '/']) := rfl
      split
      all_goals
        rw [← whole, mark]
        exact ⟨_, by
          apply String.toList_inj.mp
          simp only [String.toList_append, String.toList_ofList, List.cons_append, List.append_assoc]
          rfl⟩
    obtain ⟨rest, split⟩ := ofUrl_scheme named
    have kept : ∀ x ∈ c :: name ++ [':'], isEdge x = false := by
      intro x member
      rcases List.mem_append.mp member with scheme | colon
      · have bound := (toNat_of_isSchemeChar (chars x scheme)).1
        simp only [isEdge, decide_eq_false_iff_not]
        omega
      · rw [List.mem_singleton.mp colon]
        decide
    rw [joined, clean_append kept, splitScheme_name letter chars folded] at split
    have scheme : String.ofList (c :: name) = u.scheme := congrArg Prod.fst (Option.some.inj split)
    exact scheme.symm.trans whole

theorem scheme_of_text {u u' : ResourceUri} (chars : ∀ c ∈ u.scheme.toList, isSchemeChar c = true)
    (chars' : ∀ c ∈ u'.scheme.toList, isSchemeChar c = true) (same : u.text = u'.text) :
    u.scheme = u'.scheme := by
  have read (v : ResourceUri) (all : ∀ c ∈ v.scheme.toList, isSchemeChar c = true) :
      v.text.toList.takeWhile (· ≠ ':') = v.scheme.toList := by
    have split : v.text.toList =
        v.scheme.toList ++ ':' :: (['/', '/'] ++ v.authority.toList ++ v.pathAndQuery.toList) := by
      unfold text
      simp only [String.toList_append, List.append_assoc]
      rfl
    rw [split, List.takeWhile_append_of_pos, List.takeWhile_cons_of_neg (by simp), List.append_nil]
    intro c member
    have other := (toNat_of_isSchemeChar (all c member)).2.1
    simp only [ne_eq, decide_not, Bool.not_eq_eq_eq_not, Bool.not_true, decide_eq_false_iff_not]
    rintro rfl
    exact other rfl
  apply String.toList_inj.mp
  rw [← read u chars, ← read u' chars', same]

end ResourceUri

end ProtocolGateway
