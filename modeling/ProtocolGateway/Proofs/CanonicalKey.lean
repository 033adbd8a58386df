import Mathlib
import ProtocolGateway.Proofs.CanonicalUri
import ProtocolGateway.Proofs.RequestForms

/-!
Keys that are written as their own names. When authority and path of what a request path names make up
what stands in it behind the protocol, the name is read again as itself: no slash was dropped on the way.
-/

namespace ProtocolGateway

open Web.Url
open ResourceUri (dropSlashes)

namespace Web.Url

/-! Slashes in front -/

theorem dropSlashes_append {xs ys : List Char} : dropSlashes (xs ++ ys) =
    if (dropSlashes xs).isEmpty then dropSlashes ys else dropSlashes xs ++ ys :=
  List.dropWhile_append

theorem dropSlashes_unbroken {segment : List Char} (unbroken : '/' ∉ segment) :
    dropSlashes segment = segment := by
  refine ResourceUri.dropSlashes_of_head fun slash => unbroken (List.mem_of_head? slash)

variable {k : SchemeClass}

/-- Of several slashes at the root one is enough to lead into the same folder. -/
theorem IsFolder.squeezed {folder : List Char} (settled : IsFolder k folder) :
    IsFolder k ('/' :: dropSlashes folder) := by
  induction settled with
  | root => exact .root
  | sub folder segment above named ih =>
    rw [List.append_assoc, dropSlashes_append]
    split
    · cases segment with
      | nil => exact .root
      | cons c rest =>
        have start : c ≠ '/' := fun slash => slash_not_mem named (slash ▸ List.mem_cons_self)
        rw [ResourceUri.dropSlashes_of_head (by simpa using start)]
        exact .sub ['/'] (c :: rest) .root named
    · have inside := IsFolder.sub _ segment ih named
      rwa [List.append_assoc] at inside

theorem IsSettled.squeezed {path : List Char} (settled : IsSettled k path) :
    IsSettled k ('/' :: dropSlashes path) := by
  obtain ⟨folder, segment, above, named, rfl⟩ := settled
  rw [dropSlashes_append]
  split
  · rw [dropSlashes_unbroken (slash_not_mem named)]
    exact ⟨['/'], segment, .root, named, rfl⟩
  · exact ⟨_, segment, above.squeezed, named, rfl⟩

theorem IsEscaped.squeezed {path : List Char} (escaped : IsEscaped path) :
    IsEscaped ('/' :: dropSlashes path) := by
  refine ⟨rfl, fun c member => ?_⟩
  rcases List.mem_cons.mp member with rfl | inside
  · exact IsEscaped.slash _ List.mem_cons_self
  · exact escaped.kept c ((List.dropWhile_sublist _).subset inside)

theorem IsRead.squeezed {scheme : String} {host path : List Char} {port : Option Nat}
    (is : IsRead scheme host port path) : IsRead scheme host port ('/' :: dropSlashes path) :=
  { is with
    escaped := is.escaped.squeezed
    settled := fun other => (is.settled other).squeezed }

theorem parse_squeezed {scheme : String} {host path tail : List Char} {port : Option Nat}
    (is : IsRead scheme host port path) (ends : EndsPath tail) (visible : ∀ c ∈ tail, 0x20 < c.toNat)
    {url : Url} (parsed : parse (joined scheme host port ('/' :: dropSlashes path) tail) = .ok url)
    (hosted : url.host ≠ none) : ∃ y, url.path.toList = '/' :: dropSlashes y := by
  have squeezed := is.squeezed
  by_cases file : SchemeClass.of scheme = .file
  · rw [parse_file squeezed file visible, ofFile_joined squeezed ends] at parsed
    cases name : Host.ofDomain host with
    | error =>
      rw [name] at parsed
      cases parsed
    | ok name' =>
      rw [name] at parsed
      have same := Except.ok.inj parsed
      dsimp only at same
      split at same
      · rw [← same] at hosted
        exact absurd rfl hosted
      · rw [← same, String.toList_ofList, readPath_root]
        exact ⟨(readSegments .file ⟨['/'], false⟩ [] (dropSlashes path)).1.path, rfl⟩
  · rw [parse_authority squeezed file visible, ofAuthority_joined squeezed ends] at parsed
    cases name : readHost (SchemeClass.of scheme) host with
    | error =>
      rw [name] at parsed
      cases parsed
    | ok name' =>
      rw [name] at parsed
      have same := Except.ok.inj parsed
      rw [← same, String.toList_ofList, readPath_settled (squeezed.settled file) file]
      exact ⟨path, rfl⟩

end Web.Url

namespace ResourceUri

variable {u : ResourceUri} {host : String} {port : Option Nat}

/-! What a request path with this route is read as -/

theorem scheme_plain (parts : u.HasParts host port) : '/' ∉ u.scheme.toList ∧ ':' ∉ u.scheme.toList := by
  constructor
  · intro slash
    exact (toNat_of_isSchemeChar (parts.read.named _ slash)).2.2.1 rfl
  · intro colon
    exact (toNat_of_isSchemeChar (parts.read.named _ colon)).2.1 rfl

theorem scheme_present (parts : u.HasParts host port) : u.scheme ≠ "" := by
  intro empty
  have split := parts.read.split []
  rw [empty] at split
  cases split

theorem authority_plain (parts : u.HasParts host port) :
    ∀ c ∈ u.authority.toList, c ≠ '/' ∧ c ≠ '?' := by
  intro c member
  rw [parts.authority, toList_authorityText] at member
  rcases List.mem_append.mp member with inside | behind
  · have apart := parts.read.within.apart c inside
    simp only [List.mem_cons, List.not_mem_nil, or_false, not_or] at apart
    exact ⟨apart.1, apart.2.1⟩
  · rcases mem_portText behind with rfl | digit
    · exact ⟨by decide, by decide⟩
    · constructor
      · rintro rfl
        cases digit
      · rintro rfl
        cases digit

def routed (protocol key : String) : String := "/" ++ protocol ++ "/" ++ key

theorem toList_routed (protocol key : String) :
    (routed protocol key).toList = '/' :: (protocol.toList ++ '/' :: key.toList) := by
  simp only [routed, String.toList_append, List.append_assoc]
  rfl

theorem dropSlashes_routed (parts : u.HasParts host port) (key : String) :
    dropSlashes (routed u.scheme key).toList = u.scheme.toList ++ '/' :: key.toList := by
  rw [toList_routed]
  change dropSlashes (u.scheme.toList ++ _) = _
  exact dropSlashes_of_head (head_of_present (scheme_present parts) (scheme_plain parts).1 _)

theorem dropSlashes_queryText (u : ResourceUri) :
    dropSlashes (u.path.toList ++ u.queryText) = dropSlashes u.path.toList ++ u.queryText := by
  have kept : dropSlashes u.queryText = u.queryText := by
    apply dropSlashes_of_head
    intro slash
    have ends := endsPath_queryText u '/' slash
    revert ends
    decide
  rw [dropSlashes_append, kept]
  split
  · rename_i none
    rw [List.isEmpty_iff.mp none, List.nil_append]
  · rfl

theorem absoluteForm_routed (parts : u.HasParts host port) :
    absoluteForm? (routed u.scheme (u.authority ++ u.pathAndQuery)) =
      some (joined u.scheme host.toList port ('/' :: dropSlashes u.path.toList) u.queryText) := by
  have slashed : dropSlashes (routed u.scheme (u.authority ++ u.pathAndQuery)).toList =
      u.scheme.toList ++ '/' :: (u.authority.toList ++ (u.path.toList ++ u.queryText)) := by
    rw [dropSlashes_routed parts, String.toList_append, toList_pathAndQuery]
  have ends : ∀ c, (u.path.toList ++ u.queryText).head? = some c → c = '/' ∨ c = '?' := by
    intro c first
    rw [List.head?_append, parts.read.escaped.rooted] at first
    exact Or.inl (Option.some.inj first).symm
  rw [absoluteForm_parts slashed (scheme_plain parts).1 (authority_plain parts) ends,
    dropSlashes_queryText, parts.authority, toList_authorityText]
  unfold joined
  apply congrArg (fun cs => some (String.ofList cs))
  simp

theorem path_of_ofUrl {v : ResourceUri} (named : ofUrl (joined u.scheme host.toList port
      ('/' :: dropSlashes u.path.toList) u.queryText) = .ok v) (parts : u.HasParts host port) :
    ∃ rest, v.path.toList = '/' :: dropSlashes rest := by
  obtain ⟨url, host', parsed, hosted, _, rfl⟩ := ofUrl_iff.mp named
  dsimp only
  split
  · exact ⟨[], rfl⟩
  · refine parse_squeezed parts.read (endsPath_queryText u) (visible_queryText u) parsed ?_
    rw [hosted]
    exact Option.some_ne_none host'

/-- A name that has its own authority and path behind the protocol is read as itself. -/
theorem reread_of_routed (named : parse (routed u.scheme (u.authority ++ u.pathAndQuery)) = .ok u) :
    u.Reread := by
  obtain ⟨url, read⟩ := ofUrl_of_parse named
  obtain ⟨host, port, parts⟩ := parts_of_ofUrl read
  -- A separator in it would make the request path the text of a URL without a scheme.
  have absolute : ofUrl (joined u.scheme host.toList port ('/' :: dropSlashes u.path.toList)
      u.queryText) = .ok u := by
    unfold parse at named
    split at named
    · cases named
    · split at named
      · obtain ⟨_, _, parsed, _⟩ := ofUrl_iff.mp named
        rw [dropSlashes_routed parts, parse_of_slash (scheme_plain parts).2] at parsed
        cases parsed
      · rwa [absoluteForm_routed parts] at named
  obtain ⟨rest, single⟩ := path_of_ofUrl absolute parts
  have root : '/' :: dropSlashes u.path.toList = u.path.toList := by
    rw [single]
    change '/' :: dropSlashes (dropSlashes rest) = _
    rw [dropSlashes, dropSlashes, List.dropWhile_idempotent]
  rw [root, ← text_joined parts] at absolute
  unfold Reread
  rw [ofParts_text parts, absolute]

end ResourceUri

end ProtocolGateway
