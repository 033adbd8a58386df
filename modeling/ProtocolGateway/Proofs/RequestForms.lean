import Mathlib
import ProtocolGateway.Proofs.Web.Scheme

/-!
The two forms of a request path. The form with slashes only is rewritten to the absolute one and read
as that, unless its path or query spells a scheme separator: then it is taken for an absolute form
itself, and names no scheme.
-/

namespace ProtocolGateway

open Web.Url

/-- What both forms of a request path consist of. -/
structure RequestRoute where
  protocol : String
  authority : String
  path : String
  query? : Option String
  named : protocol ≠ ""
  plain : '/' ∉ protocol.toList
  hosted : authority ≠ ""
  whole : ∀ c ∈ authority.toList, c ≠ '/' ∧ c ≠ '?' ∧ c ≠ '#' ∧ c ≠ '\\'
  relative : path.toList.head? ≠ some '/'

namespace RequestRoute

def rest (r : RequestRoute) : String :=
  match r.query? with
  | none => r.path
  | some query => r.path ++ "?" ++ query

def slashed (r : RequestRoute) : String := "/" ++ r.protocol ++ "/" ++ r.authority ++ "/" ++ r.rest

def absolute (r : RequestRoute) : String := r.protocol ++ "://" ++ r.authority ++ "/" ++ r.rest

variable (r : RequestRoute)

theorem toList_slashed : r.slashed.toList =
    '/' :: (r.protocol.toList ++ '/' :: (r.authority.toList ++ '/' :: r.rest.toList)) := by
  simp only [slashed, String.toList_append, List.append_assoc]
  rfl

theorem toList_absolute : r.absolute.toList =
    r.protocol.toList ++ ':' :: '/' :: '/' :: (r.authority.toList ++ '/' :: r.rest.toList) := by
  simp only [absolute, String.toList_append, List.append_assoc]
  rfl

theorem rest_relative : r.rest.toList.head? ≠ some '/' := by
  have relative := r.relative
  unfold rest
  split
  · exact relative
  · rw [String.toList_append, String.toList_append, List.append_assoc, List.head?_append]
    cases first : r.path.toList.head? with
    | none => simp
    | some c =>
      rw [first] at relative
      simpa using relative

end RequestRoute

/-! Texts without a scheme -/

namespace Web.Url

theorem dropWhile_of_slash {xs : List Char} (plain : ':' ∉ xs) (ys rest : List Char) :
    (xs ++ '/' :: ys).dropWhile isSchemeChar ≠ ':' :: rest := by
  induction xs with
  | nil =>
    intro same
    rw [List.nil_append, List.dropWhile_cons_of_neg (by decide)] at same
    exact absurd (List.cons.inj same).1 (by decide)
  | cons c more ih =>
    rw [List.mem_cons, not_or] at plain
    intro same
    rw [List.cons_append] at same
    by_cases scheme : isSchemeChar c = true
    · rw [List.dropWhile_cons_of_pos scheme] at same
      exact ih plain.2 same
    · rw [List.dropWhile_cons_of_neg scheme] at same
      exact plain.1 (List.cons.inj same).1.symm

theorem drop_takeWhile (inside : Char → Bool) (cs : List Char) :
    cs.drop (cs.takeWhile inside).length = cs.dropWhile inside := by
  calc
    _ = (cs.takeWhile inside ++ cs.dropWhile inside).drop (cs.takeWhile inside).length := by
        rw [List.takeWhile_append_dropWhile]
    _ = _ := List.drop_left

theorem splitScheme_of_slash {xs : List Char} (plain : ':' ∉ xs) (ys : List Char) :
    splitScheme? (xs ++ '/' :: ys) = none := by
  unfold splitScheme?
  dsimp only
  rw [drop_takeWhile]
  split
  · rename_i rest _ colon
    exact absurd colon (dropWhile_of_slash plain ys rest)
  · rfl

theorem trimEdges_of_slash (xs ys : List Char) :
    trimEdges (xs ++ '/' :: ys) = xs.dropWhile isEdge ++ '/' :: trimEnd ys := by
  have start : (xs ++ '/' :: ys).dropWhile isEdge = xs.dropWhile isEdge ++ '/' :: ys := by
    rw [List.dropWhile_append]
    split
    · rename_i none
      rw [List.isEmpty_iff.mp none, List.dropWhile_cons_of_neg (by decide)]
      rfl
    · rfl
  have first : ∀ x, (xs.dropWhile isEdge).head? = some x → isEdge x = false := by
    intro x head
    have kept := List.head?_dropWhile_not isEdge xs
    rw [head] at kept
    exact kept
  -- What is trimmed at the front already is trimmed as it is.
  rw [← trimEdges_append first (by decide)]
  unfold trimEdges
  rw [← start, List.dropWhile_idempotent]

theorem clean_of_slash (xs ys : List Char) :
    ∃ xs' ys', clean (String.ofList (xs ++ '/' :: ys)) = xs' ++ '/' :: ys' ∧ xs' ⊆ xs := by
  refine ⟨(xs.dropWhile isEdge).filter (!isSkipped ·), (trimEnd ys).filter (!isSkipped ·), ?_, ?_⟩
  · unfold clean
    rw [String.toList_ofList, trimEdges_of_slash, List.filter_append,
      List.filter_cons_of_pos (by decide)]
  · intro c member
    exact (List.dropWhile_sublist isEdge).subset (List.mem_of_mem_filter member)

theorem parse_of_slash {xs : List Char} (plain : ':' ∉ xs) (ys : List Char) :
    parse (String.ofList (xs ++ '/' :: ys)) = .error .relativeWithoutBase := by
  obtain ⟨xs', ys', cleaned, less⟩ := clean_of_slash xs ys
  unfold parse
  rw [cleaned, splitScheme_of_slash fun colon => plain (less colon)]

end Web.Url

namespace ResourceUri

/-! Scheme separators -/

theorem hasSchemeMark_cons {c : Char} {cs : List Char}
    (other : ∀ tail, c :: cs ≠ ':' :: '/' :: '/' :: tail) :
    hasSchemeMark (c :: cs) = hasSchemeMark cs := by
  rw [hasSchemeMark]
  rintro tail rfl rfl
  exact other tail rfl

/-- A piece without slashes that a single slash ends spells no separator. -/
theorem hasSchemeMark_piece {xs ys : List Char} (plain : '/' ∉ xs) (single : ys.head? ≠ some '/') :
    hasSchemeMark (xs ++ '/' :: ys) = hasSchemeMark ys := by
  induction xs with
  | nil =>
    apply hasSchemeMark_cons
    intro tail same
    exact absurd (List.cons.inj same).1 (by decide)
  | cons c more ih =>
    rw [List.mem_cons, not_or] at plain
    rw [← ih plain.2]
    apply hasSchemeMark_cons
    intro tail same
    obtain ⟨-, split⟩ := List.cons.inj same
    cases more with
    | nil => exact single (by rw [(List.cons.inj split).2]; rfl)
    | cons d more => exact plain.2 ((List.cons.inj split).1 ▸ List.mem_cons_self)

theorem hasSchemeMark_mark (xs ys : List Char) :
    hasSchemeMark (xs ++ ':' :: '/' :: '/' :: ys) = true := by
  induction xs with
  | nil => rfl
  | cons c more ih =>
    by_cases earlier : ∃ tail, c :: (more ++ ':' :: '/' :: '/' :: ys) = ':' :: '/' :: '/' :: tail
    · obtain ⟨tail, same⟩ := earlier
      rw [List.cons_append, same]
      rfl
    · rw [List.cons_append, hasSchemeMark_cons (not_exists.mp earlier)]
      exact ih

/-! Both forms -/

theorem dropSlashes_of_head {cs : List Char} (other : cs.head? ≠ some '/') :
    dropSlashes cs = cs := by
  cases cs with
  | nil => rfl
  | cons c rest =>
    apply List.dropWhile_cons_of_neg
    simpa using other

theorem head_of_present {s : String} (present : s ≠ "") (plain : '/' ∉ s.toList)
    (more : List Char) : (s.toList ++ more).head? ≠ some '/' := by
  cases split : s.toList with
  | nil => exact absurd (String.toList_eq_nil_iff.mp split) present
  | cons c rest =>
    intro slash
    cases slash
    exact plain (split ▸ List.mem_cons_self)

theorem absoluteForm_parts {path : String} {scheme authority rest : List Char}
    (parts : dropSlashes path.toList = scheme ++ '/' :: (authority ++ rest)) (plain : '/' ∉ scheme)
    (whole : ∀ c ∈ authority, c ≠ '/' ∧ c ≠ '?')
    (ends : ∀ c, rest.head? = some c → c = '/' ∨ c = '?') :
    absoluteForm? path = some (String.ofList
      (scheme ++ [':', '/', '/'] ++ authority ++ '/' :: dropSlashes rest)) := by
  have first : (scheme ++ '/' :: (authority ++ rest)).takeWhile (fun c => decide (c ≠ '/')) = scheme := by
    rw [List.takeWhile_append_of_pos, List.takeWhile_cons_of_neg (by simp), List.append_nil]
    intro c member
    apply decide_eq_true
    rintro rfl
    exact plain member
  have stop : rest.takeWhile (fun c => decide (c ≠ '/' ∧ c ≠ '?')) = [] := by
    cases rest with
    | nil => rfl
    | cons c more =>
      apply List.takeWhile_cons_of_neg
      rcases ends c rfl with rfl | rfl <;> simp
  have second : (authority ++ rest).takeWhile (fun c => decide (c ≠ '/' ∧ c ≠ '?')) = authority := by
    rw [List.takeWhile_append_of_pos, stop, List.append_nil]
    exact fun c member => decide_eq_true (whole c member)
  unfold absoluteForm?
  dsimp only
  rw [parts, first, List.drop_left]
  dsimp only
  rw [second, List.drop_left]

section Route

variable (r : RequestRoute)

theorem dropSlashes_slashed : dropSlashes r.slashed.toList =
    r.protocol.toList ++ '/' :: (r.authority.toList ++ '/' :: r.rest.toList) := by
  rw [r.toList_slashed]
  change dropSlashes (r.protocol.toList ++ _) = _
  exact dropSlashes_of_head (head_of_present r.named r.plain _)

/-- A separator in the slashed form stands behind the authority. -/
theorem hasSchemeMark_slashed : hasSchemeMark r.slashed.toList = hasSchemeMark r.rest.toList := by
  have authority : '/' ∉ r.authority.toList := fun slash => (r.whole '/' slash).1 rfl
  have single : (r.authority.toList ++ '/' :: r.rest.toList).head? ≠ some '/' :=
    head_of_present r.hosted authority _
  have slash : ∀ tail, '/' :: (r.protocol.toList ++ '/' :: (r.authority.toList ++
      '/' :: r.rest.toList)) ≠ ':' :: '/' :: '/' :: tail := by
    intro tail same
    exact absurd (List.cons.inj same).1 (by decide)
  rw [r.toList_slashed, hasSchemeMark_cons slash, hasSchemeMark_piece r.plain single,
    hasSchemeMark_piece authority r.rest_relative]

theorem absoluteForm_slashed : absoluteForm? r.slashed = some r.absolute := by
  have whole : ∀ c ∈ r.authority.toList, c ≠ '/' ∧ c ≠ '?' :=
    fun c member => ⟨(r.whole c member).1, (r.whole c member).2.1⟩
  have remainder : dropSlashes ('/' :: r.rest.toList) = r.rest.toList :=
    dropSlashes_of_head r.rest_relative
  rw [absoluteForm_parts (dropSlashes_slashed r) r.plain whole (by simp), remainder]
  apply congrArg some
  apply String.toList_inj.mp
  rw [String.toList_ofList, r.toList_absolute]
  simp

theorem parse_absolute (short : r.absolute.utf8ByteSize ≤ maxPathLength) :
    parse r.absolute = ofUrl r.absolute := by
  have marked : hasSchemeMark r.absolute.toList = true := by
    rw [r.toList_absolute]
    exact hasSchemeMark_mark _ _
  have whole : dropSlashes r.absolute.toList = r.absolute.toList := by
    rw [r.toList_absolute]
    exact dropSlashes_of_head (head_of_present r.named r.plain _)
  unfold parse
  rw [if_neg (Nat.not_lt.mpr short), if_pos marked, whole, String.ofList_toList]

theorem slashed_shorter : r.slashed.utf8ByteSize < r.absolute.utf8ByteSize := by
  have slash : ("/" : String).utf8ByteSize = 1 := rfl
  have mark : ("://" : String).utf8ByteSize = 3 := rfl
  simp only [RequestRoute.slashed, RequestRoute.absolute, String.utf8ByteSize_append, slash, mark]
  omega

end Route

/-- Where neither path nor query of a route spells a scheme separator, both forms of its request path
are read alike. Where one does, the slashed form is taken for the name of a scheme and refused,
whatever the absolute form names. -/
theorem request_forms_read_alike (r : RequestRoute)
    (short : r.absolute.utf8ByteSize ≤ maxPathLength) :
    (hasSchemeMark r.rest.toList = false → parse r.slashed = parse r.absolute) ∧
    (hasSchemeMark r.rest.toList = true → ':' ∉ r.protocol.toList →
      ∃ raw, parse r.slashed =
        .error (.invalidUri (raw ++ ": " ++ Web.UrlError.relativeWithoutBase.message))) := by
  have within : r.slashed.utf8ByteSize ≤ maxPathLength :=
    Nat.le_trans (Nat.le_of_lt (slashed_shorter r)) short
  constructor
  · intro plain
    rw [parse_absolute r short]
    unfold parse
    rw [if_neg (Nat.not_lt.mpr within), hasSchemeMark_slashed, plain, absoluteForm_slashed]
    rfl
  · intro marked colonless
    refine ⟨String.ofList (dropSlashes r.slashed.toList), ?_⟩
    unfold parse
    rw [if_neg (Nat.not_lt.mpr within), hasSchemeMark_slashed, if_pos marked]
    unfold ofUrl
    rw [dropSlashes_slashed, parse_of_slash colonless]

def referenceRoute (page : String) : RequestRoute where
  protocol := "coap"
  authority := "dev"
  path := "temp"
  query? := some ("ref=" ++ page)
  named := by decide
  plain := by decide
  hosted := by decide
  whole := by simp
  relative := by decide

theorem plain_reference_reads_alike :
    parse "/coap/dev/temp?ref=x" = parse "coap://dev/temp?ref=x" ∧
    ∃ raw, parse "/coap/dev/temp?ref=http://x" =
      .error (.invalidUri (raw ++ ": " ++ Web.UrlError.relativeWithoutBase.message)) := by
  have name : (referenceRoute "x").absolute.utf8ByteSize ≤ maxPathLength := by decide +kernel
  have address : (referenceRoute "http://x").absolute.utf8ByteSize ≤ maxPathLength := by
    decide +kernel
  constructor
  · exact (request_forms_read_alike (referenceRoute "x") name).1 (by decide +kernel)
  · exact (request_forms_read_alike (referenceRoute "http://x") address).2 (by decide +kernel)
      (by decide +kernel)

/-- An address in the query of the slashed form makes it unreadable. -/
theorem address_in_query_parts_forms :
    ¬∀ r : RequestRoute, r.absolute.utf8ByteSize ≤ maxPathLength →
      (parse r.slashed).toOption = (parse r.absolute).toOption := by
  intro all
  have same := all (referenceRoute "http://x") (by decide +kernel)
  revert same
  decide +kernel

end ResourceUri

end ProtocolGateway
