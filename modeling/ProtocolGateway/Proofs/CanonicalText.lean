import Mathlib
import ProtocolGateway.Proofs.RequestForms
import ProtocolGateway.Proofs.CanonicalUri

/-!
Written names as request paths. The written form of a name is read as that name again, unless it has
grown past the length that a request path may have: escapes make it longer than the path it comes from.
-/

namespace ProtocolGateway.ResourceUri

open Web.Url

variable {u : ResourceUri} {host : String} {port : Option Nat}

theorem toList_text (u : ResourceUri) :
    u.text.toList = u.scheme.toList ++ ':' :: '/' :: '/' :: (u.authority ++ u.pathAndQuery).toList := by
  simp only [text, String.toList_append, List.append_assoc]
  rfl

theorem hasSchemeMark_text (u : ResourceUri) : hasSchemeMark u.text.toList = true := by
  rw [toList_text]
  exact hasSchemeMark_mark _ _

theorem dropSlashes_text (chars : ∀ c ∈ u.scheme.toList, Web.Url.isSchemeChar c = true) :
    dropSlashes u.text.toList = u.text.toList := by
  apply dropSlashes_of_head
  rw [toList_text]
  cases letters : u.scheme.toList with
  | nil => simp
  | cons c rest =>
    intro slash
    cases slash
    have letter := chars '/' (letters ▸ List.mem_cons_self)
    revert letter
    decide

theorem parse_text (chars : ∀ c ∈ u.scheme.toList, Web.Url.isSchemeChar c = true) :
    parse u.text =
      if u.text.utf8ByteSize ≤ maxPathLength then ofUrl u.text
      else .error (.invalidUri "path too long") := by
  by_cases short : u.text.utf8ByteSize ≤ maxPathLength
  · simp only [parse, Nat.not_lt.mpr short, ↓reduceIte, hasSchemeMark_text, dropSlashes_text chars,
      String.ofList_toList, short]
  · simp only [parse, Nat.not_le.mp short, ↓reduceIte, short]

theorem short_of_parse {path : String} (named : parse path = .ok u) :
    path.utf8ByteSize ≤ maxPathLength := by
  by_contra long
  simp [parse, Nat.not_le.mp long] at named

/-- The written form of a name is read as that name again as long as it is no longer than a request path
may be, which it never is when it has not grown; a longer one is refused for its length. For the schemes
that have a class of their own this rests on the name's being read as its parts again. -/
theorem text_names_again {path : String} {u : ResourceUri} (named : parse path = .ok u)
    (back : Web.SchemeClass.of u.scheme ≠ .other → u.ReadsBack) :
    (parse u.text =
      if u.text.utf8ByteSize ≤ maxPathLength then .ok u
      else .error (.invalidUri "path too long")) ∧
    (u.text.utf8ByteSize ≤ path.utf8ByteSize → parse u.text = .ok u) := by
  obtain ⟨raw, url⟩ := ofUrl_of_parse named
  obtain ⟨host, port, parts⟩ := parts_of_ofUrl url
  -- A scheme of no own class keeps its host as it is, so nothing is assumed of it.
  have readable : u.ReadsBack := by
    by_cases other : Web.SchemeClass.of u.scheme = .other
    · exact readsBack_other parts other
    · exact back other
  have again := parse_text (parse_chars named)
  rw [ofUrl_text parts readable] at again
  constructor
  · exact again
  · intro grown
    rw [again, if_pos (grown.trans (short_of_parse named))]

def looseAddress : String := "/HTTP/[0:0::1]:8080/a/../b?x=1"

def looseName : ResourceUri := ⟨"http", "[::1]:8080", "/b", [("x", "1")]⟩

theorem loose_text_names_again :
    parse looseAddress = .ok looseName ∧ parse "http://[::1]:8080/b?x=1" = .ok looseName := by
  have named : parse looseAddress = .ok looseName := by decide +kernel
  have back : looseName.ReadsBack := ⟨"[::1]", some 8080, by decide, by decide +kernel⟩
  have shorter : looseName.text.utf8ByteSize ≤ looseAddress.utf8ByteSize := by decide +kernel
  have written : looseName.text = "http://[::1]:8080/b?x=1" := by decide +kernel
  rw [← written]
  exact ⟨named, (text_names_again named fun _ => back).2 shorter⟩

/-! Names of any length. Those near the limit have too many letters to read them by evaluation, so they
are put together from the parts that a shorter name was read as. -/

theorem parse_slashed (r : RequestRoute) (short : r.slashed.utf8ByteSize ≤ maxPathLength)
    (plain : hasSchemeMark r.rest.toList = false) : parse r.slashed = ofUrl r.absolute := by
  simp only [parse, Nat.not_lt.mpr short, ↓reduceIte, hasSchemeMark_slashed, plain,
    absoluteForm_slashed]
  rfl

section Long

variable (n : Nat)

def letters : String := String.ofList (List.replicate n 'a')

theorem toList_letters : (letters n).toList = List.replicate n 'a' := String.toList_ofList

theorem utf8ByteSize_letters : (letters n).utf8ByteSize = n := by
  induction n with
  | zero => rfl
  | succ n ih =>
    calc (letters (n + 1)).utf8ByteSize
        = (String.singleton 'a' ++ letters n).utf8ByteSize := by
          rw [letters, List.replicate_succ, String.ofList_cons]
          rfl
      _ = n + 1 := by
          rw [String.utf8ByteSize_append, ih, Nat.add_comm]
          rfl

theorem hasSchemeMark_letters : hasSchemeMark (List.replicate n 'a') = false := by
  induction n with
  | zero => rfl
  | succ n ih =>
    rw [List.replicate_succ, hasSchemeMark_cons, ih]
    intro tail same
    exact absurd (List.cons.inj same).1 (by decide)

theorem plainDots_letters : plainDots (List.replicate n 'a') = List.replicate n 'a' := by
  induction n with
  | zero => rfl
  | succ n ih => simp [List.replicate_succ, plainDots, ih]

theorem isSegment_letters (k : Web.SchemeClass) : IsSegment k (List.replicate n 'a') := by
  have dotless : '.' ∉ plainDots (List.replicate n 'a') := by
    intro dot
    rw [plainDots_letters] at dot
    exact absurd (List.eq_of_mem_replicate dot) (by decide)
  constructor
  · intro c member
    cases List.eq_of_mem_replicate member
    constructor <;> decide
  · intro c member
    cases List.eq_of_mem_replicate member
    simp [isSlash]
  · constructor <;> intro dots <;> simp [dots] at dotless

def longRoute : RequestRoute where
  protocol := "mqtt"
  authority := "hub"
  path := letters n
  query? := none
  named := by decide
  plain := by decide
  hosted := by decide
  whole := by simp
  relative := by
    intro slash
    rw [toList_letters] at slash
    exact absurd (List.eq_of_mem_replicate (List.mem_of_mem_head? slash)) (by decide)

def longName : ResourceUri := ⟨"mqtt", "hub", "/" ++ letters n, []⟩

theorem text_longName : (longName n).text = (longRoute n).absolute := by
  apply String.toList_inj.mp
  rw [toList_text, RequestRoute.toList_absolute, String.toList_append, toList_pathAndQuery]
  simp [longName, longRoute, queryText, RequestRoute.rest]

theorem hasParts_longName : (longName n).HasParts "hub" none := by
  have root : Web.Url.parse "mqtt://hub/" = .ok ⟨"mqtt", some "hub", none, "/", none⟩ := by
    decide +kernel
  have read := isRead_parse root rfl (by decide)
  have named := isSegment_letters n
  have path : (longName n).path.toList = '/' :: List.replicate n 'a' := by
    simp [longName, toList_letters]
  constructor
  · rfl
  · rw [path]
    exact { read with
      escaped := IsEscaped.root.append (named .other).kept
      settled := fun _ => ⟨['/'], _, .root, named _, rfl⟩ }
  · exact List.mergeSort_nil

theorem class_longName : Web.SchemeClass.of (longName n).scheme = .other := by
  change Web.SchemeClass.of "mqtt" = .other
  decide

theorem parse_longRoute (fits : n + 10 ≤ maxPathLength) :
    parse (longRoute n).slashed = .ok (longName n) := by
  have parts := hasParts_longName n
  have size : (longRoute n).slashed.utf8ByteSize = n + 10 := by
    have room : ("/" ++ "mqtt" ++ "/" ++ "hub" ++ "/" : String).utf8ByteSize = 10 := rfl
    calc
      _ = ("/" ++ "mqtt" ++ "/" ++ "hub" ++ "/" ++ letters n).utf8ByteSize := rfl
      _ = n + 10 := by rw [String.utf8ByteSize_append, room, utf8ByteSize_letters, Nat.add_comm]
  have plain : hasSchemeMark (longRoute n).rest.toList = false := by
    have rest : (longRoute n).rest = letters n := rfl
    rw [rest, toList_letters]
    exact hasSchemeMark_letters n
  rw [parse_slashed _ (size ▸ fits) plain, ← text_longName]
  exact ofUrl_text parts (readsBack_other parts (class_longName n))

theorem parse_longName (exceeds : maxPathLength < n + 11) :
    parse (longName n).text = .error (.invalidUri "path too long") := by
  have chars := (hasParts_longName n).read.named
  have size : (longName n).text.utf8ByteSize = n + 11 := by
    have room : ("mqtt" ++ "://" ++ "hub" ++ "/" : String).utf8ByteSize = 11 := rfl
    calc
      _ = (longRoute n).absolute.utf8ByteSize := by rw [text_longName]
      _ = ("mqtt" ++ "://" ++ "hub" ++ "/" ++ letters n).utf8ByteSize := rfl
      _ = n + 11 := by rw [String.utf8ByteSize_append, room, utf8ByteSize_letters, Nat.add_comm]
  rw [parse_text chars, if_neg]
  rw [size]
  exact Nat.not_le.mpr exceeds

end Long

/-- A path just within the limit, of a name whose text is just beyond it. -/
theorem long_name_parts_texts :
    ¬∀ (path : String) (u : ResourceUri), parse path = .ok u →
      (Web.SchemeClass.of u.scheme ≠ .other → u.ReadsBack) → parse u.text = .ok u := by
  intro again
  have named := parse_longRoute 2038 (by decide)
  have refused := parse_longName 2038 (by decide)
  have read := again _ _ named (fun other => absurd (class_longName 2038) other)
  rw [refused] at read
  cases read

end ProtocolGateway.ResourceUri
