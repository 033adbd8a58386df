import Mathlib
import ProtocolGateway.Proofs.CanonicalUri

/-!
What a canonical name tells. Two request paths have the same written name exactly when they agree on
scheme, authority and path and give every parameter the same values in the same order; in which order
they give parameters of different names makes no difference.
-/

namespace ProtocolGateway

open Web.Url

/-! Values by name -/

def valuesOf (name : String) (pairs : List (String × String)) : List String :=
  (pairs.filter fun pair => pair.1 = name).map (·.2)

theorem valuesOf_cons (name : String) (pair : String × String) (rest : List (String × String)) :
    valuesOf name (pair :: rest) =
      if pair.1 = name then pair.2 :: valuesOf name rest else valuesOf name rest := by
  by_cases same : pair.1 = name <;> simp [valuesOf, same]

theorem mem_of_values {xs ys : List (String × String)}
    (same : ∀ name, valuesOf name xs = valuesOf name ys) {pair : String × String}
    (member : pair ∈ ys) : pair ∈ xs := by
  have value : pair.2 ∈ valuesOf pair.1 xs := by
    rw [same]
    exact List.mem_map_of_mem (List.mem_filter.mpr ⟨member, decide_eq_true rfl⟩)
  obtain ⟨found, among, second⟩ := List.mem_map.mp value
  obtain ⟨there, first⟩ := List.mem_filter.mp among
  exact Prod.ext (of_decide_eq_true first) second ▸ there

def Alphabetic (pairs : List (String × String)) : Prop := pairs.Pairwise fun a b => a.1 ≤ b.1

theorem Alphabetic.eq_of_values {xs ys : List (String × String)} (sorted : Alphabetic xs)
    (sorted' : Alphabetic ys) (same : ∀ name, valuesOf name xs = valuesOf name ys) : xs = ys := by
  induction xs generalizing ys with
  | nil =>
    cases ys with
    | nil => rfl
    | cons y ys =>
      have values := same y.1
      rw [valuesOf_cons, if_pos rfl] at values
      cases values
  | cons x xs ih =>
    cases ys with
    | nil =>
      have values := same x.1
      rw [valuesOf_cons, if_pos rfl] at values
      cases values
    | cons y ys =>
      obtain ⟨least, tail⟩ := List.pairwise_cons.mp sorted
      obtain ⟨least', tail'⟩ := List.pairwise_cons.mp sorted'
      -- The first pair of one list stands in the other, so its name is not before the first there.
      have name : x.1 = y.1 := by
        apply String.le_antisymm
        · rcases List.mem_cons.mp (mem_of_values same List.mem_cons_self) with rfl | later
          · exact String.le_refl _
          · exact least y later
        · rcases List.mem_cons.mp (mem_of_values (fun n => (same n).symm) List.mem_cons_self) with
            rfl | later
          · exact String.le_refl _
          · exact least' x later
      have value := same x.1
      rw [valuesOf_cons, valuesOf_cons, if_pos rfl, if_pos name.symm] at value
      obtain ⟨head, behind⟩ := List.cons.inj value
      have rest : xs = ys := by
        apply ih tail tail'
        intro other
        by_cases here : x.1 = other
        · exact here ▸ behind
        · have values := same other
          rw [valuesOf_cons, valuesOf_cons, if_neg here, if_neg (name ▸ here)] at values
          exact values
      rw [rest, Prod.ext name head]

namespace ResourceUri

theorem alphabetic_sortQuery (pairs : List (String × String)) : Alphabetic (sortQuery pairs) :=
  (sorted_sortQuery pairs).imp of_decide_eq_true

theorem valuesOf_sortQuery (name : String) (pairs : List (String × String)) :
    valuesOf name (sortQuery pairs) = valuesOf name pairs := by
  have one : (pairs.filter fun pair => pair.1 = name).Pairwise
      fun a b => decide (a.1 ≤ b.1) = true := by
    apply List.pairwise_of_forall_mem_list
    intro a first b second
    have a_named := of_decide_eq_true (List.mem_filter.mp first).2
    have b_named := of_decide_eq_true (List.mem_filter.mp second).2
    rw [a_named, b_named]
    exact decide_eq_true (String.le_refl name)
  have kept : (pairs.filter fun pair => pair.1 = name).Sublist (sortQuery pairs) :=
    List.sublist_mergeSort name_trans name_total one List.filter_sublist
  have among := kept.filter fun pair => decide (pair.1 = name)
  rw [List.filter_filter] at among
  simp only [Bool.and_self] at among
  have order := (List.mergeSort_perm pairs fun a b => decide (a.1 ≤ b.1)).filter
    fun pair => decide (pair.1 = name)
  exact congrArg (List.map (·.2)) (among.eq_of_length order.length_eq.symm).symm

/-! The pieces of a written name -/

/-- Two texts are cut at the same place when what goes before it and what comes behind it tell. -/
theorem append_inj_of_stop {xs xs' ys ys' : List Char} (inside : Char → Bool)
    (before : ∀ c ∈ xs, inside c = true) (before' : ∀ c ∈ xs', inside c = true)
    (behind : ∀ c, ys.head? = some c → inside c = false)
    (behind' : ∀ c, ys'.head? = some c → inside c = false) (same : xs ++ ys = xs' ++ ys') :
    xs = xs' ∧ ys = ys' := by
  have stop {zs : List Char} (ends : ∀ c, zs.head? = some c → inside c = false) :
      zs.takeWhile inside = [] := by
    cases zs with
    | nil => rfl
    | cons c rest => exact List.takeWhile_cons_of_neg (by simp [ends c rfl])
  have front := congrArg (List.takeWhile inside) same
  rw [List.takeWhile_append_of_pos before, List.takeWhile_append_of_pos before', stop behind,
    stop behind', List.append_nil, List.append_nil] at front
  exact ⟨front, List.append_cancel_left (front ▸ same)⟩

variable {u v : ResourceUri} {host host' : String} {port port' : Option Nat}

namespace HasParts

theorem authority_inside (parts : u.HasParts host port) :
    ∀ c ∈ u.authority.toList, decide (c ≠ '/') = true := by
  intro c member
  apply decide_eq_true
  rintro rfl
  rw [parts.authority, toList_authorityText, List.mem_append] at member
  rcases member with inside | number
  · exact parts.read.within.apart '/' inside (by simp)
  · rcases mem_portText number with colon | digit
    · exact absurd colon (by decide)
    · exact absurd digit (by decide)

theorem authority_ends (parts : u.HasParts host port) :
    ∀ c, (u.path.toList ++ u.queryText).head? = some c → decide (c ≠ '/') = false := by
  intro c first
  rw [List.head?_append, parts.read.escaped.rooted] at first
  cases first
  rfl

theorem path_inside (parts : u.HasParts host port) :
    ∀ c ∈ u.path.toList, (!endsPath c) = true := by
  intro c member
  rw [endsPath_of_kept (parts.read.escaped.kept c member)]
  rfl

end HasParts

theorem path_ends (u : ResourceUri) :
    ∀ c, u.queryText.head? = some c → (!endsPath c) = false := by
  intro c first
  rw [u.endsPath_queryText c first]
  rfl

theorem eq_of_text (parts : u.HasParts host port) (parts' : v.HasParts host' port')
    (same : u.text = v.text) : u = v := by
  have scheme : u.scheme = v.scheme := scheme_of_text parts.read.named parts'.read.named same
  have behind : u.authority.toList ++ (u.path.toList ++ u.queryText) =
      v.authority.toList ++ (v.path.toList ++ v.queryText) := by
    have chars := congrArg String.toList same
    simp only [text, String.toList_append, toList_pathAndQuery, List.append_assoc, scheme] at chars
    exact List.append_cancel_left (List.append_cancel_left chars)
  -- The first slash behind the scheme starts the path, and the first mark there the query.
  obtain ⟨authority, below⟩ := append_inj_of_stop (fun c => decide (c ≠ '/'))
    parts.authority_inside parts'.authority_inside parts.authority_ends parts'.authority_ends behind
  obtain ⟨path, query⟩ := append_inj_of_stop (fun c => !endsPath c)
    parts.path_inside parts'.path_inside u.path_ends v.path_ends below
  have pairs : u.query = v.query := by
    rw [← u.decode_queryText, query, v.decode_queryText]
  cases u
  cases v
  simp only [ResourceUri.mk.injEq]
  exact ⟨scheme, String.toList_inj.mp authority, String.toList_inj.mp path, pairs⟩

/-! Request paths -/

def absoluteText? (path : String) : Option String :=
  if hasSchemeMark path.toList then some (String.ofList (dropSlashes path.toList))
  else absoluteForm? path

/-- The parameters that a request path gives, in the order in which it gives them. -/
def writtenQuery (path : String) : List (String × String) :=
  match (absoluteText? path).map Web.Url.parse with
  | some (.ok url) => Web.Form.decode (url.query.getD "")
  | some (.error _) | none => []

theorem ofUrl_of_parse_absolute {path : String} (named : parse path = .ok u) :
    ∃ raw, absoluteText? path = some raw ∧ ofUrl raw = .ok u := by
  unfold parse at named
  unfold absoluteText?
  split at named
  · cases named
  · split at named
    · rename_i marked
      exact ⟨_, if_pos marked, named⟩
    · rename_i unmarked
      rw [if_neg unmarked]
      split at named
      · cases named
      · rename_i raw absolute
        exact ⟨raw, absolute, named⟩

theorem query_of_parse {path : String} (named : parse path = .ok u) :
    u.query = sortQuery (writtenQuery path) := by
  obtain ⟨raw, absolute, read⟩ := ofUrl_of_parse_absolute named
  unfold writtenQuery
  rw [absolute, Option.map_some]
  obtain ⟨url, host, parsed, _, _, rfl⟩ := ofUrl_iff.mp read
  rw [parsed]

theorem parts_of_parse {path : String} (named : parse path = .ok u) :
    ∃ host port, u.HasParts host port := by
  obtain ⟨raw, read⟩ := ofUrl_of_parse named
  exact parts_of_ofUrl read

/-- Two request paths name one resource, and have one written name as the key of its subscribers and
of its stored replies, exactly when scheme, authority and path are the same and every parameter has
the same values in the order in which the paths give them. -/
theorem same_key_iff_same_resource {s t : String} {u v : ResourceUri} (first : parse s = .ok u)
    (second : parse t = .ok v) :
    (u.text = v.text ↔ u = v) ∧
    (u.text = v.text ↔ u.scheme = v.scheme ∧ u.authority = v.authority ∧ u.path = v.path ∧
      ∀ name, valuesOf name (writtenQuery s) = valuesOf name (writtenQuery t)) := by
  obtain ⟨host, port, parts⟩ := parts_of_parse first
  obtain ⟨host', port', parts'⟩ := parts_of_parse second
  have whole : u.text = v.text ↔ u = v := ⟨eq_of_text parts parts', congrArg text⟩
  refine ⟨whole, ?_⟩
  rw [whole]
  constructor
  · rintro rfl
    refine ⟨rfl, rfl, rfl, ?_⟩
    intro name
    rw [← valuesOf_sortQuery, ← query_of_parse first, query_of_parse second, valuesOf_sortQuery]
  · rintro ⟨scheme, authority, path, values⟩
    have query : u.query = v.query := by
      rw [query_of_parse first, query_of_parse second]
      apply (alphabetic_sortQuery _).eq_of_values (alphabetic_sortQuery _)
      intro name
      rw [valuesOf_sortQuery, valuesOf_sortQuery, values]
    cases u
    cases v
    simp only [ResourceUri.mk.injEq]
    exact ⟨scheme, authority, path, query⟩

theorem parse_of_url {path raw host : String} {url : Web.Url}
    (short : path.utf8ByteSize ≤ maxPathLength) (absolute : absoluteText? path = some raw)
    (parsed : Web.Url.parse raw = .ok url) (hosted : url.host = some host) (present : host ≠ "") :
    parse path = .ok {
      scheme := url.scheme
      authority := authorityText host url.port
      path := if url.path = "" then "/" else url.path
      query := sortQuery (writtenQuery path) } := by
  have query : writtenQuery path = Web.Form.decode (url.query.getD "") := by
    rw [writtenQuery, absolute, Option.map_some, parsed]
  have read : parse path = ofUrl raw := by
    unfold absoluteText? at absolute
    unfold parse
    rw [if_neg (Nat.not_lt.mpr short)]
    split at absolute
    · rename_i marked
      rw [if_pos marked, Option.some.inj absolute]
    · rename_i unmarked
      rw [if_neg unmarked, absolute]
  rw [read, query]
  exact ofUrl_iff.mpr ⟨url, host, parsed, hosted, present, rfl⟩

def deviceName (path : String) : ResourceUri := ⟨"coap", "dev", "/temp", sortQuery (writtenQuery path)⟩

/-- Parameters of different names may change places, values of one name may not. -/
theorem reordered_parameters_keep_key :
    let path := "/coap/dev/temp?b=2&a=1&a=3"
    let parted := "coap://dev/temp?a=1&b=2&a=3"
    let turned := "/coap/dev/temp?b=2&a=3&a=1"
    parse path = .ok (deviceName path) ∧ parse parted = .ok (deviceName parted) ∧
      parse turned = .ok (deviceName turned) ∧
      (deviceName path).text = (deviceName parted).text ∧
      (deviceName path).text ≠ (deviceName turned).text := by
  intro path parted turned
  have read (s query : String) (short : s.utf8ByteSize ≤ maxPathLength)
      (absolute : absoluteText? s = some ("coap://dev/temp?" ++ query))
      (parsed : Web.Url.parse ("coap://dev/temp?" ++ query) =
        .ok ⟨"coap", some "dev", none, "/temp", some query⟩) : parse s = .ok (deviceName s) :=
    parse_of_url short absolute parsed rfl (by decide)
  have first := read path "b=2&a=1&a=3" (by decide +kernel) (by decide +kernel) (by decide +kernel)
  have second := read parted "a=1&b=2&a=3" (by decide +kernel) (by decide +kernel)
    (by decide +kernel)
  have third := read turned "b=2&a=3&a=1" (by decide +kernel) (by decide +kernel)
    (by decide +kernel)
  have written : writtenQuery path = [("b", "2"), ("a", "1"), ("a", "3")] := by decide +kernel
  have written' : writtenQuery parted = [("a", "1"), ("b", "2"), ("a", "3")] := by decide +kernel
  refine ⟨first, second, third, ?_, ?_⟩
  · apply (same_key_iff_same_resource first second).2.mpr
    refine ⟨rfl, rfl, rfl, ?_⟩
    intro name
    rw [written, written']
    simp only [valuesOf_cons]
    by_cases a : "a" = name
    · have b : "b" ≠ name := by
        rw [← a]
        decide
      simp [a, b]
    · simp [a]
  · intro same
    have values := ((same_key_iff_same_resource first third).2.mp same).2.2.2 "a"
    revert values
    decide +kernel

end ResourceUri

end ProtocolGateway
