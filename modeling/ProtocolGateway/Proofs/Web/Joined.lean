import Mathlib
import ProtocolGateway.Proofs.Web.Authority
import ProtocolGateway.Proofs.Web.Path
import ProtocolGateway.Proofs.Web.Scheme

/-!
URLs put together from the parts of one that was read. A query behind them changes nothing else, and
a scheme of no own class gives the parts back.
-/

namespace ProtocolGateway.Web.Url

/-- Parts of a URL that was read, with a path in any case. -/
structure IsRead (scheme : String) (host : List Char) (port : Option Nat) (path : List Char) : Prop where
  named : ∀ c ∈ scheme.toList, isSchemeChar c = true
  split : ∀ more, splitScheme? (scheme.toList ++ ':' :: more) = some (scheme, more)
  within : IsHost host
  fits : PortFits scheme port
  escaped : IsEscaped path
  portless : SchemeClass.of scheme = .file → port = none
  settled : SchemeClass.of scheme ≠ .file → IsSettled (SchemeClass.of scheme) path
  plain : SchemeClass.of scheme = .other → Host.ofOpaque host = .ok (String.ofList host)

/-! What a reading gives -/

def rootedPath (path : String) : String := if path = "" then "/" else path

theorem rootedPath_of {P : List Char → Prop} {path : List Char} (root : P ['/'])
    (read : path ≠ [] → P path) : P (rootedPath (String.ofList path)).toList := by
  unfold rootedPath
  split
  · exact root
  · rename_i present
    rw [String.toList_ofList]
    exact read fun empty => present (by rw [empty])

theorem isEscaped_rooted (k : SchemeClass) (cs : List Char) :
    IsEscaped (rootedPath (String.ofList (readPath k cs).1.path)).toList := by
  refine rootedPath_of IsEscaped.root fun present => ?_
  rcases isEscaped_readPath k cs with ⟨empty, _⟩ | escaped
  · exact absurd empty present
  · exact escaped

theorem isSettled_rooted {k : SchemeClass} (other : k ≠ .file) (cs : List Char) :
    IsSettled k (rootedPath (String.ofList (readPath k cs).1.path)).toList := by
  refine rootedPath_of IsFolder.root.settled fun present => ?_
  rcases (isSettled_readPath other cs).1 with ⟨empty, _⟩ | settled
  · exact absurd empty present
  · exact settled

theorem ofFile_parts {cs : List Char} {url : Url} {host : String} (read : ofFile cs = .ok url)
    (hosted : url.host = some host) (present : host ≠ "") :
    IsHost host.toList ∧ url.port = none ∧ IsEscaped (rootedPath url.path).toList := by
  have absent (same : hostless "file" = url) : False := by
    rw [← same] at hosted
    cases hosted
  unfold ofFile at read
  simp only [bind, Except.bind] at read
  split at read
  · split at read
    · split at read
      · cases read
        exact (absent rfl).elim
      · split at read
        · cases read
        · rename_i name domain
          split at read
          · cases read
            exact (absent rfl).elim
          · cases read
            cases hosted
            exact ⟨Host.isHost_ofDomain present domain, rfl, isEscaped_rooted .file _⟩
    · cases read
      exact (absent rfl).elim
  · cases read
    exact (absent rfl).elim

theorem ofAuthority_parts {scheme : String} {k : SchemeClass} {cs : List Char} {url : Url}
    {host : String} (read : ofAuthority scheme k cs = .ok url) (other : k ≠ .file)
    (hosted : url.host = some host) :
    (∃ text, readHost k text = .ok host) ∧ PortFits scheme url.port ∧
      IsEscaped (rootedPath url.path).toList ∧ IsSettled k (rootedPath url.path).toList := by
  unfold ofAuthority at read
  simp only [bind, Except.bind] at read
  split at read
  · cases read
  · rename_i parts authority
    cases read
    obtain ⟨name, port, rest⟩ := parts
    cases hosted
    obtain ⟨named, fits⟩ := of_readAuthority authority
    exact ⟨named, fits, isEscaped_rooted k rest, isSettled_rooted other rest⟩

/-- What the class of a scheme that was split off says about how the rest was read. -/
theorem parse_class {raw : String} {url : Url} {rest : List Char} (parsed : parse raw = .ok url)
    (split : splitScheme? (clean raw) = some (url.scheme, rest)) {host : String}
    (hosted : url.host = some host) :
    SchemeClass.of url.scheme = .file ∧ ofFile rest = .ok url ∨
    SchemeClass.of url.scheme ≠ .file ∧
      ∃ cs, ofAuthority url.scheme (SchemeClass.of url.scheme) cs = .ok url := by
  unfold parse at parsed
  rw [split] at parsed
  dsimp only at parsed
  split at parsed
  · rename_i file
    exact Or.inl ⟨file, parsed⟩
  · rename_i web
    rw [web]
    exact Or.inr ⟨by decide, _, parsed⟩
  · rename_i other
    rw [other]
    split at parsed
    · exact Or.inr ⟨by decide, _, parsed⟩
    · have same : hostless url.scheme = url := Except.ok.inj parsed
      rw [← same] at hosted
      cases hosted

theorem isRead_parse {raw : String} {url : Url} (parsed : parse raw = .ok url) {host : String}
    (hosted : url.host = some host) (present : host ≠ "") :
    IsRead url.scheme host.toList url.port (rootedPath url.path).toList := by
  obtain ⟨rest, split⟩ := parse_scheme parsed
  have named := mem_scheme split
  have again := (splitScheme_again split).2
  rcases parse_class parsed split hosted with ⟨file, read⟩ | ⟨other, cs, read⟩
  · obtain ⟨is, portless, escaped⟩ := ofFile_parts read hosted present
    have fits : PortFits url.scheme url.port := by
      rw [portless]
      rintro p ⟨⟩
    exact ⟨named, again, is, fits, escaped, fun _ => portless, fun other => absurd file other,
      fun unclassed => absurd (file.symm.trans unclassed) (by decide)⟩
  · obtain ⟨⟨text, name⟩, fits, escaped, settled⟩ := ofAuthority_parts read other hosted
    refine ⟨named, again, isHost_readHost present name, fits, escaped,
      fun file => absurd file other, fun _ => settled, fun unclassed => ?_⟩
    rw [unclassed] at name
    rw [String.ofList_toList]
    exact Host.ofOpaque_again name

/-! Reading what was put together -/

def joined (scheme : String) (host : List Char) (port : Option Nat) (path tail : List Char) : String :=
  String.ofList (scheme.toList ++ ':' :: '/' :: '/' :: (host ++ portText port ++ path ++ tail))

theorem dropWhile_visible {cs : List Char} (visible : ∀ c ∈ cs, 0x20 < c.toNat) :
    cs.dropWhile isEdge = cs := by
  cases cs with
  | nil => rfl
  | cons c rest =>
    have above := visible c List.mem_cons_self
    exact List.dropWhile_cons_of_neg (by simpa [isEdge] using above)

theorem clean_visible {cs : List Char} (visible : ∀ c ∈ cs, 0x20 < c.toNat) :
    clean (String.ofList cs) = cs := by
  have backwards : ∀ c ∈ cs.reverse, 0x20 < c.toNat := fun c member =>
    visible c (List.mem_reverse.mp member)
  unfold clean trimEdges
  rw [String.toList_ofList, dropWhile_visible visible, dropWhile_visible backwards,
    List.reverse_reverse]
  refine List.filter_eq_self.mpr fun c member => ?_
  have above := visible c member
  by_contra skipped
  simp only [isSkipped, Bool.not_eq_true, Bool.not_eq_false', Bool.or_eq_true, beq_iff_eq] at skipped
  rcases skipped with (rfl | rfl) | rfl <;> exact absurd above (by decide)

theorem visible_path {path : List Char} (escaped : IsEscaped path) : ∀ c ∈ path, 0x20 < c.toNat := by
  intro c member
  obtain ⟨ascii, kept⟩ := escaped.kept c member
  exact Text.Ascii.of_ascii (P := fun c => Percent.isEscapedInPath c = false → 0x20 < c.toNat)
    (by decide +kernel) ascii kept

theorem visible_port {port : Option Nat} : ∀ c ∈ portText port, 0x20 < c.toNat := by
  intro c member
  rcases mem_portText member with rfl | digit
  · decide
  · exact Text.Ascii.of_ascii (P := fun c => Text.Ascii.isDigit c = true → 0x20 < c.toNat)
      (by decide +kernel) (Text.Ascii.ascii_of_isDigit digit) digit

variable {scheme : String} {host path tail : List Char} {port : Option Nat}

theorem clean_joined (is : IsRead scheme host port path) (visible : ∀ c ∈ tail, 0x20 < c.toNat) :
    clean (joined scheme host port path tail) =
      scheme.toList ++ ':' :: '/' :: '/' :: (host ++ portText port ++ path ++ tail) := by
  refine clean_visible fun c member => ?_
  simp only [List.mem_append, List.mem_cons] at member
  rcases member with name | rfl | rfl | rfl | ((inside | behind) | below) | after
  · have above := (toNat_of_isSchemeChar (is.named c name)).1
    omega
  · decide
  · decide
  · decide
  · exact is.within.visible c inside
  · exact visible_port c behind
  · exact visible_path is.escaped c below
  · exact visible c after

theorem head_not_slash (is : IsHost host) (rest : List Char) :
    (host ++ rest).dropWhile (fun c => c == '/' || c == '\\') = host ++ rest := by
  obtain ⟨c, more, rfl⟩ := List.exists_cons_of_ne_nil is.present
  have apart := is.apart c List.mem_cons_self
  simp only [List.mem_cons, List.not_mem_nil, or_false, not_or] at apart
  exact List.dropWhile_cons_of_neg (by simp [apart])

theorem parse_authority (is : IsRead scheme host port path) (other : SchemeClass.of scheme ≠ .file)
    (visible : ∀ c ∈ tail, 0x20 < c.toNat) :
    parse (joined scheme host port path tail) =
      ofAuthority scheme (SchemeClass.of scheme) (host ++ portText port ++ path ++ tail) := by
  have body := head_not_slash is.within (portText port ++ path ++ tail)
  rw [← List.append_assoc, ← List.append_assoc] at body
  unfold parse
  rw [clean_joined is visible, is.split]
  dsimp only
  generalize SchemeClass.of scheme = k at other
  cases k with
  | file => exact absurd rfl other
  | web =>
    dsimp only
    rw [List.dropWhile_cons_of_pos (by decide), List.dropWhile_cons_of_pos (by decide), body]
  | other => rfl

theorem parse_file (is : IsRead scheme host port path) (file : SchemeClass.of scheme = .file)
    (visible : ∀ c ∈ tail, 0x20 < c.toNat) :
    parse (joined scheme host port path tail) = ofFile ('/' :: '/' :: (host ++ (path ++ tail))) := by
  unfold parse
  rw [clean_joined is visible, is.split, is.portless file, portText, List.append_nil,
    List.append_assoc]
  dsimp only
  rw [file]

theorem ofAuthority_joined {k : SchemeClass} (is : IsRead scheme host port path)
    (ends : EndsPath tail) :
    ofAuthority scheme k (host ++ portText port ++ path ++ tail) =
      (readHost k host).map fun name =>
        ⟨scheme, some name, port, String.ofList (readPath k path).1.path, readQuery tail⟩ := by
  obtain ⟨more, rooted⟩ := List.head?_eq_some_iff.mp is.escaped.rooted
  have below : '/' :: (more ++ tail) = path ++ tail := by rw [rooted, List.cons_append]
  have text : host ++ portText port ++ path ++ tail = host ++ portText port ++ '/' :: (more ++ tail) := by
    rw [below, List.append_assoc]
  unfold ofAuthority
  rw [text, readAuthority_text is.within is.fits, below]
  cases readHost k host with
  | error e => rfl
  | ok name =>
    simp only [bind, Except.bind, Except.map]
    rw [readPath_append is.escaped ends]

theorem isDriveLetter_host (is : IsHost host) : isDriveLetter host = false := by
  unfold isDriveLetter
  split
  · rename_i c mark
    have bar := is.apart mark (by simp)
    have colon : mark ≠ ':' := by
      rcases is.shape with plain | ⟨inner, whole, _⟩
      · have other := plain mark (by simp)
        simp only [List.mem_cons, not_or] at other
        exact other.1
      · rintro rfl
        have last := congrArg List.getLast? whole
        rw [← List.cons_append, List.getLast?_concat] at last
        cases last
    simp only [List.mem_cons, not_or] at bar
    simp [colon, bar]
  · rfl

theorem ofFile_joined (is : IsRead scheme host port path) (ends : EndsPath tail) :
    ofFile ('/' :: '/' :: (host ++ (path ++ tail))) =
      (Host.ofDomain host).map fun name =>
        if name = "localhost" ∨ (readPath .file path).1.hostDropped then hostless "file"
        else ⟨"file", some name, none, String.ofList (readPath .file path).1.path, readQuery tail⟩ := by
  obtain ⟨more, rooted⟩ := List.head?_eq_some_iff.mp is.escaped.rooted
  have inside : ∀ c ∈ host, (!(c == '/' || c == '\\' || c == '?' || c == '#')) = true := by
    intro c member
    have apart := is.within.apart c member
    simp only [List.mem_cons, List.not_mem_nil, or_false, not_or] at apart
    simp [apart]
  have name : (host ++ (path ++ tail)).takeWhile
      (fun c => !(c == '/' || c == '\\' || c == '?' || c == '#')) = host := by
    rw [List.takeWhile_append_of_pos inside, rooted, List.cons_append,
      List.takeWhile_cons_of_neg (by decide), List.append_nil]
  have drive : ¬(isDriveLetter host || host.isEmpty) = true := by
    simp [isDriveLetter_host is.within, is.within.present]
  unfold ofFile
  dsimp only
  rw [if_pos (by decide), name, if_neg drive, List.drop_left, readPath_append is.escaped ends]
  cases Host.ofDomain host with
  | error e => rfl
  | ok name =>
    simp only [bind, Except.bind, Except.map]
    split
    · rfl
    · rfl

theorem endsPath_nil : EndsPath [] := fun _ head => nomatch head

/-- What is read from the parts alone is read from them with a query behind, and the query with it. -/
theorem parse_tail (is : IsRead scheme host port path) (ends : EndsPath tail)
    (visible : ∀ c ∈ tail, 0x20 < c.toNat) {name path' : String} {port' : Option Nat}
    (read : parse (joined scheme host port path []) = .ok ⟨scheme, some name, port', path', none⟩) :
    parse (joined scheme host port path tail) =
      .ok ⟨scheme, some name, port', path', readQuery tail⟩ := by
  -- A file has no port and perhaps no host, so it is read by a function of its own.
  by_cases file : SchemeClass.of scheme = .file
  · rw [parse_file is file (by simp), ofFile_joined is endsPath_nil] at read
    rw [parse_file is file visible, ofFile_joined is ends]
    cases domain : Host.ofDomain host with
    | error e =>
      rw [domain] at read
      cases read
    | ok found =>
      rw [domain] at read
      have same := Except.ok.inj read
      refine congrArg Except.ok ?_
      dsimp only at same ⊢
      split at same
      · cases same
      · rename_i kept
        rw [if_neg kept]
        cases same
        rfl
  · rw [parse_authority is file (by simp), ofAuthority_joined is endsPath_nil] at read
    rw [parse_authority is file visible, ofAuthority_joined is ends]
    cases named : readHost (SchemeClass.of scheme) host with
    | error e =>
      rw [named] at read
      cases read
    | ok found =>
      rw [named] at read
      cases read
      rfl

theorem parse_again (is : IsRead scheme host port path) (unfiled : SchemeClass.of scheme ≠ .file)
    (named : readHost (SchemeClass.of scheme) host = .ok (String.ofList host)) :
    parse (joined scheme host port path []) =
      .ok ⟨scheme, some (String.ofList host), port, String.ofList path, none⟩ := by
  have settled := readPath_settled (is.settled unfiled) unfiled
  rw [parse_authority is unfiled (by simp), ofAuthority_joined is endsPath_nil, named, settled]
  rfl

end ProtocolGateway.Web.Url
