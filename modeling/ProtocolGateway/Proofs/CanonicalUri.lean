import Mathlib
import ProtocolGateway.Proofs.Web.Form
import ProtocolGateway.Proofs.Web.Joined
import ProtocolGateway.ResourceUri

/-!
Canonical names are fixed points. The written form of a name is read as the name it was written from,
and so are its scheme, its authority and its path put together again.
-/

namespace ProtocolGateway

open Web.Url

namespace ResourceUri

/-! Parameters -/

theorem name_trans (a b c : String × String) (first : decide (a.1 ≤ b.1) = true)
    (second : decide (b.1 ≤ c.1) = true) : decide (a.1 ≤ c.1) = true :=
  decide_eq_true (String.le_trans (of_decide_eq_true first) (of_decide_eq_true second))

theorem name_total (a b : String × String) : (decide (a.1 ≤ b.1) || decide (b.1 ≤ a.1)) = true := by
  rcases String.le_total a.1 b.1 with le | ge
  · simp [le]
  · simp [ge]

theorem sorted_sortQuery (pairs : List (String × String)) :
    (sortQuery pairs).Pairwise fun a b => decide (a.1 ≤ b.1) = true :=
  List.pairwise_mergeSort name_trans name_total pairs

theorem sortQuery_sortQuery (pairs : List (String × String)) :
    sortQuery (sortQuery pairs) = sortQuery pairs :=
  List.mergeSort_of_pairwise (sorted_sortQuery pairs)

/-! Parts of a name -/

theorem toList_authorityText (host : String) (port : Option Nat) :
    (authorityText host port).toList = host.toList ++ portText port := by
  cases port with
  | none => exact (List.append_nil _).symm
  | some p =>
    change (host ++ ":" ++ toString p).toList = host.toList ++ ':' :: Nat.toDigits 10 p
    simp only [String.toList_append, Nat.toString_eq_ofList_toDigits, String.toList_ofList,
      List.append_assoc]
    rfl

theorem authorityText_present {host : String} {port : Option Nat} (is : Web.IsHost host.toList)
    (port' : Option Nat) : authorityText "" port' ≠ authorityText host port := by
  intro same
  have chars := congrArg String.toList same
  rw [toList_authorityText, toList_authorityText] at chars
  cases port' with
  | none => exact is.present (List.append_eq_nil_iff.mp chars.symm).1
  | some p =>
    -- A colon would open the host.
    obtain ⟨c, more, split⟩ := List.exists_cons_of_ne_nil is.present
    rw [split] at chars
    have colon : ':' = c := (List.cons.inj chars).1
    rcases is.shape with plain | ⟨inner, whole, _⟩
    · exact plain c (split ▸ List.mem_cons_self) (colon ▸ by decide)
    · rw [whole] at split
      rw [← (List.cons.inj split).1] at colon
      exact absurd colon (by decide)

/-- The parts that a name was read from. -/
structure HasParts (u : ResourceUri) (host : String) (port : Option Nat) : Prop where
  authority : u.authority = authorityText host port
  read : IsRead u.scheme host.toList port u.path.toList
  sorted : sortQuery u.query = u.query

theorem parts_of_ofUrl {raw : String} {u : ResourceUri} (named : ofUrl raw = .ok u) :
    ∃ host port, u.HasParts host port := by
  obtain ⟨url, host, parsed, hosted, present, rfl⟩ := ofUrl_iff.mp named
  exact ⟨host, url.port, rfl, isRead_parse parsed hosted present, sortQuery_sortQuery _⟩

/-! Written forms -/

def queryText (u : ResourceUri) : List Char :=
  if u.query.isEmpty then [] else '?' :: Web.Form.encodePairs u.query

theorem toList_pathAndQuery (u : ResourceUri) :
    u.pathAndQuery.toList = u.path.toList ++ u.queryText := by
  unfold pathAndQuery queryText
  split
  · exact (List.append_nil _).symm
  · simp only [String.toList_append, Web.Form.encode, String.toList_ofList, List.append_assoc]
    rfl

theorem endsPath_queryText (u : ResourceUri) : EndsPath u.queryText := by
  intro c first
  unfold queryText at first
  split at first
  · cases first
  · cases first
    decide

theorem visible_queryText (u : ResourceUri) : ∀ c ∈ u.queryText, 0x20 < c.toNat := by
  intro c member
  unfold queryText at member
  split at member
  · cases member
  · rcases List.mem_cons.mp member with rfl | pair
    · decide
    · exact (Web.Form.visible_of_mem pair).1

theorem decode_queryText (u : ResourceUri) :
    Web.Form.decode ((readQuery u.queryText).getD "") = u.query := by
  unfold queryText
  split
  · rename_i empty
    rw [List.isEmpty_iff.mp empty]
    rfl
  · have whole : (Web.Form.encodePairs u.query).takeWhile (fun c => decide (c ≠ '#')) =
        Web.Form.encodePairs u.query :=
      List.takeWhile_eq_self_iff.mpr fun c member => decide_eq_true (Web.Form.visible_of_mem member).2
    have found : readQuery ('?' :: Web.Form.encodePairs u.query) =
        some (Web.Form.encode u.query) :=
      congrArg (fun cs => some (String.ofList cs)) whole
    rw [found]
    exact Web.Form.decode_encode u.query

def bareText (u : ResourceUri) : String := u.scheme ++ "://" ++ u.authority ++ u.path

variable {u : ResourceUri} {host : String} {port : Option Nat}

theorem bareText_joined (parts : u.HasParts host port) :
    u.bareText = joined u.scheme host.toList port u.path.toList [] := by
  apply String.toList_inj.mp
  unfold bareText joined
  rw [parts.authority, String.toList_ofList]
  simp only [String.toList_append, toList_authorityText, List.append_nil, List.append_assoc]
  rfl

theorem text_joined (parts : u.HasParts host port) :
    u.text = joined u.scheme host.toList port u.path.toList u.queryText := by
  apply String.toList_inj.mp
  unfold text joined
  rw [parts.authority, String.toList_ofList]
  simp only [String.toList_append, toList_authorityText, toList_pathAndQuery, List.append_assoc]
  rfl

/-! Reading again -/

/-- The name without its parameters is read as the parts it consists of. -/
def ReadsBack (u : ResourceUri) : Prop :=
  ∃ host port, u.authority = authorityText host port ∧
    Web.Url.parse u.bareText = .ok ⟨u.scheme, some host, port, u.path, none⟩

theorem readsBack_of_host (parts : u.HasParts host port) (unfiled : Web.SchemeClass.of u.scheme ≠ .file)
    (named : readHost (Web.SchemeClass.of u.scheme) host.toList = .ok host) : u.ReadsBack := by
  have whole : String.ofList host.toList = host := String.ofList_toList
  have read := parse_again parts.read unfiled (by rw [whole, named])
  rw [whole, String.ofList_toList] at read
  exact ⟨host, port, parts.authority, (congrArg Web.Url.parse (bareText_joined parts)).trans read⟩

theorem readsBack_other (parts : u.HasParts host port)
    (other : Web.SchemeClass.of u.scheme = .other) : u.ReadsBack := by
  have plain := parts.read.plain other
  rw [String.ofList_toList] at plain
  refine readsBack_of_host parts ?_ ?_
  · rw [other]
    decide
  · rw [other]
    exact plain

theorem ofUrl_text (parts : u.HasParts host port) (back : u.ReadsBack) : ofUrl u.text = .ok u := by
  obtain ⟨name, port', authority, read⟩ := back
  have present : name ≠ "" := by
    rintro rfl
    exact authorityText_present parts.read.within port' (authority.symm.trans parts.authority)
  have rooted : u.path ≠ "" := by
    intro empty
    have first := parts.read.escaped.rooted
    rw [empty] at first
    cases first
  rw [bareText_joined parts] at read
  have whole := parse_tail parts.read (endsPath_queryText u) (visible_queryText u) read
  rw [← text_joined parts] at whole
  refine ofUrl_iff.mpr ⟨_, name, whole, rfl, present, ?_⟩
  dsimp only
  rw [if_neg rooted, decode_queryText, parts.sorted, ← authority]

-- A drive letter in a path of a file takes the host's place when it is read again.
example :
    (ofUrl "file://[::1]/C:x").toOption.map (·.text) = some "file://[::1]/C:/x" ∧
      (ofUrl "file://[::1]/C:/x").toOption = none := by
  decide +kernel

theorem ofParts_text (parts : u.HasParts host port) :
    ofParts (ProtocolName.of u.scheme).text u.authority u.pathAndQuery = ofUrl u.text := by
  have folded : (ProtocolName.of u.scheme).text = u.scheme :=
    (splitScheme_again (parts.read.split [])).1
  have first : u.pathAndQuery.toList.head? = some '/' := by
    rw [toList_pathAndQuery, List.head?_append, parts.read.escaped.rooted]
    rfl
  unfold ofParts joinParts
  rw [folded, first]
  rfl

/-! Names that are found again -/

/-- A name is the one that an answer with its route is about. -/
def Reread (u : ResourceUri) : Prop :=
  ofParts (ProtocolName.of u.scheme).text u.authority u.pathAndQuery = .ok u

theorem Reread.ofUrl_text {u : ResourceUri} (reread : u.Reread) : ofUrl u.text = .ok u := by
  obtain ⟨host, port, parts⟩ := parts_of_ofUrl reread
  rw [← ofParts_text parts]
  exact reread

theorem reread_other {path : String} {u : ResourceUri} (named : parse path = .ok u)
    (other : Web.SchemeClass.of u.scheme = .other) : u.Reread := by
  obtain ⟨raw, read⟩ := ofUrl_of_parse named
  obtain ⟨host, port, parts⟩ := parts_of_ofUrl read
  unfold Reread
  rw [ofParts_text parts, ResourceUri.ofUrl_text parts (readsBack_other parts other)]

theorem Reread.eq_of_text {u v : ResourceUri} (one : u.Reread) (two : v.Reread)
    (same : u.text = v.text) : u = v := by
  have read := one.ofUrl_text
  rw [same, two.ofUrl_text] at read
  exact (Except.ok.inj read).symm

theorem Reread.protocol_text {u : ResourceUri} (reread : u.Reread) :
    (ProtocolName.of u.scheme).text = u.scheme := by
  obtain ⟨host, port, parts⟩ := parts_of_ofUrl reread
  exact (splitScheme_again (parts.read.split [])).1

theorem Reread.eq_of_route {u v : ResourceUri} (one : u.Reread) (two : v.Reread)
    (protocol : ProtocolName.of u.scheme = .of v.scheme)
    (route : u.authority ++ u.pathAndQuery = v.authority ++ v.pathAndQuery) : u = v := by
  apply one.eq_of_text two
  have scheme : u.scheme = v.scheme := by
    rw [← one.protocol_text, protocol, two.protocol_text]
  unfold text
  rw [scheme, String.append_assoc, route, ← String.append_assoc]

end ResourceUri

end ProtocolGateway
