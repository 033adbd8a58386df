import Mathlib
import ProtocolGateway.Proofs.Web.Percent
import ProtocolGateway.Web.Url

/-!
Paths. What was read as a path is read as the same path again: its segments are escaped already, and
none of them is a step up or down. The one exception are drive letters in front of a file path.
-/

namespace ProtocolGateway.Web.Url

/-! Characters -/

/-- A path that starts at the root, of characters that stay as they are. -/
structure IsEscaped (path : List Char) : Prop where
  rooted : path.head? = some '/'
  kept : ∀ c ∈ path, Percent.Kept Percent.isEscapedInPath c

namespace IsEscaped

variable {path : List Char} {k : SchemeClass}

theorem root : IsEscaped ['/'] := by
  refine ⟨rfl, fun c member => ?_⟩
  rw [List.mem_singleton.mp member]
  exact ⟨by decide, by decide⟩

theorem append (escaped : IsEscaped path) {more : List Char}
    (kept : ∀ c ∈ more, Percent.Kept Percent.isEscapedInPath c) : IsEscaped (path ++ more) := by
  obtain ⟨rooted, before⟩ := escaped
  refine ⟨?_, fun c member => (List.mem_append.mp member).elim (before c) (kept c)⟩
  rw [List.head?_append, rooted]
  rfl

theorem slash : ∀ c ∈ ['/'], Percent.Kept Percent.isEscapedInPath c := root.kept

theorem withSlash (escaped : IsEscaped path) : IsEscaped (withSlash path) := by
  unfold Url.withSlash
  split
  · exact escaped
  · exact escaped.append slash

theorem take {front : List Char} (escaped : IsEscaped path) (part : front <+: path)
    (present : front ≠ []) : IsEscaped front := by
  obtain ⟨rest, rfl⟩ := part
  refine ⟨?_, fun c member => escaped.kept c (List.mem_append_left _ member)⟩
  cases front with
  | nil => exact absurd rfl present
  | cons c front => exact escaped.rooted

theorem upToLastSlash (escaped : IsEscaped path) : IsEscaped (upToLastSlash path) := by
  have whole := List.takeWhile_append_dropWhile (p := fun c => decide (c ≠ '/')) (l := path.reverse)
  refine escaped.take ⟨(path.reverse.takeWhile (· ≠ '/')).reverse, ?_⟩ ?_
  · unfold Url.upToLastSlash
    rw [← List.reverse_append, whole, List.reverse_reverse]
  · unfold Url.upToLastSlash
    intro empty
    have all := List.dropWhile_eq_nil_iff.mp (List.reverse_eq_nil_iff.mp empty)
    have slash := all '/' (List.mem_reverse.mpr (List.mem_of_head? escaped.rooted))
    simp at slash

theorem stepUp (escaped : IsEscaped path) : IsEscaped (stepUp k path) := by
  unfold Url.stepUp
  dsimp only
  have shorter : IsEscaped (if path.getLast? = some '/' ∧ path.dropLast.contains '/' = true ∧
      (!isDriveLetter (lastSegment path.dropLast)) = true then path.dropLast else path) := by
    split
    · rename_i steps
      refine escaped.take (List.dropLast_prefix path) fun empty => ?_
      have slash := steps.2.1
      rw [empty] at slash
      cases slash
    · exact escaped
  generalize (if path.getLast? = some '/' ∧ path.dropLast.contains '/' = true ∧
    (!isDriveLetter (lastSegment path.dropLast)) = true then path.dropLast else path) = shorted
    at shorter ⊢
  split
  · exact shorter
  · exact shorter.upToLastSlash

theorem addSegment {r : PathReading} (escaped : IsEscaped r.path) {segment : List Char}
    (kept : ∀ c ∈ segment, Percent.Kept Percent.isEscapedInPath c) (slash : Bool) :
    IsEscaped (addSegment k r segment slash).path := by
  have tail : ∀ c ∈ (if slash = true then ['/'] else []), Percent.Kept Percent.isEscapedInPath c := by
    split
    · exact IsEscaped.slash
    · simp
  have colon : Percent.Kept Percent.isEscapedInPath ':' := ⟨by decide, by decide⟩
  -- One case per kind of segment; what is added is escaped or has been there before.
  unfold Url.addSegment
  dsimp only
  split
  · dsimp only
    split
    · exact escaped.stepUp.withSlash
    · exact escaped.stepUp
  · split
    · exact escaped.withSlash
    · split
      · refine escaped.append fun c member => ?_
        rcases List.mem_append.mp member with front | last
        · rcases List.mem_append.mp front with letter | mark
          · exact kept c (List.mem_of_mem_take letter)
          · rw [List.mem_singleton.mp mark]
            exact colon
        · exact tail c last
      · split
        · refine escaped.append fun c member => ?_
          rcases List.mem_append.mp member with front | last
          · rcases List.mem_append.mp front with front | rest
            · rcases List.mem_append.mp front with letter | mark
              · exact kept c (List.mem_of_mem_take letter)
              · exact IsEscaped.slash c mark
            · exact kept c (List.mem_of_mem_drop rest)
          · exact tail c last
        · exact (escaped.append kept).append tail

theorem readSegments {r : PathReading} (escaped : IsEscaped r.path) (segment cs : List Char) :
    IsEscaped (readSegments k r segment cs).1.path := by
  induction cs generalizing r segment with
  | nil => exact escaped.addSegment (Percent.kept_inPath _) false
  | cons c rest ih =>
    unfold Url.readSegments
    split
    · exact escaped.addSegment (Percent.kept_inPath _) false
    · split
      · exact ih (escaped.addSegment (Percent.kept_inPath _) true) []
      · exact ih escaped (c :: segment)

theorem squeezeFile (escaped : IsEscaped path) : IsEscaped (squeezeFile k path) := by
  unfold Url.squeezeFile
  split
  · refine ⟨rfl, fun c member => ?_⟩
    rcases List.mem_cons.mp member with rfl | member
    · exact slash '/' List.mem_cons_self
    · exact escaped.kept c (List.dropWhile_subset _ member)
  · exact escaped

end IsEscaped

/-- A path that is read is escaped, unless it is missing, which only schemes of no own class allow. -/
theorem isEscaped_readPath (k : SchemeClass) (cs : List Char) :
    (readPath k cs).1.path = [] ∧ k = .other ∨ IsEscaped (readPath k cs).1.path := by
  unfold readPath
  split
  · rename_i c rest
    split
    · rename_i bare
      left
      refine ⟨rfl, ?_⟩
      cases k <;> simp [SchemeClass.isSpecial] at bare ⊢
    · right
      exact (IsEscaped.root.readSegments [] _).squeezeFile
  · cases k with
    | file => exact Or.inr IsEscaped.root
    | web => exact Or.inr IsEscaped.root
    | other => exact Or.inl ⟨rfl, rfl⟩

/-! Segments -/

structure IsSegment (k : SchemeClass) (segment : List Char) : Prop where
  kept : ∀ c ∈ segment, Percent.Kept Percent.isEscapedInPath c
  unbroken : ∀ c ∈ segment, isSlash k c = false
  plain : plainDots segment ≠ ['.'] ∧ plainDots segment ≠ ['.', '.']

inductive IsFolder (k : SchemeClass) : List Char → Prop where
  | root : IsFolder k ['/']
  | sub (folder segment : List Char) (above : IsFolder k folder) (named : IsSegment k segment) :
      IsFolder k (folder ++ segment ++ ['/'])

/-- A path in its final form. -/
def IsSettled (k : SchemeClass) (path : List Char) : Prop :=
  ∃ folder segment, IsFolder k folder ∧ IsSegment k segment ∧ path = folder ++ segment

variable {k : SchemeClass}

theorem isSegment_nil : IsSegment k [] :=
  ⟨by simp, by simp, by decide, by decide⟩

namespace IsFolder

variable {path : List Char}

theorem ends (folder : IsFolder k path) : path.getLast? = some '/' := by
  cases folder with
  | root => rfl
  | sub folder segment above named => exact List.getLast?_concat

theorem settled (folder : IsFolder k path) : IsSettled k path :=
  ⟨path, [], folder, isSegment_nil, (List.append_nil path).symm⟩

theorem withSlash (folder : IsFolder k path) : withSlash path = path := by
  unfold Url.withSlash
  exact if_pos folder.ends

end IsFolder

theorem slash_not_mem {segment : List Char} (named : IsSegment k segment) : '/' ∉ segment := by
  intro member
  have slash := named.unbroken '/' member
  simp [isSlash] at slash

theorem upToLastSlash_append {folder segment : List Char} (ends : folder.getLast? = some '/')
    (unbroken : '/' ∉ segment) : upToLastSlash (folder ++ segment) = folder := by
  have inside : ∀ c ∈ segment.reverse, decide (c ≠ '/') = true := fun c member =>
    decide_eq_true fun same => unbroken (same ▸ List.mem_reverse.mp member)
  obtain ⟨front, rfl⟩ := List.getLast?_eq_some_iff.mp ends
  unfold upToLastSlash
  rw [List.reverse_append, List.dropWhile_append_of_pos inside, List.reverse_append]
  simp

theorem IsFolder.stepUp {path : List Char} (folder : IsFolder k path) (other : k ≠ .file) :
    IsFolder k (stepUp k path) := by
  have same : upToLastSlash path = path := by
    have whole := upToLastSlash_append folder.ends (List.not_mem_nil (a := '/'))
    rwa [List.append_nil] at whole
  unfold Url.stepUp
  dsimp only
  rw [if_neg fun both => other both.1]
  split
  · rename_i steps
    cases folder with
    | root => exact absurd steps.2.1 (by decide)
    | sub folder segment above named =>
      rw [List.dropLast_concat, upToLastSlash_append above.ends (slash_not_mem named)]
      exact above
  · rw [same]
    exact folder

/-! Reading segments -/

theorem addSegment_named {r : PathReading} {segment : List Char} (other : k ≠ .file)
    (named : IsSegment k segment) (slash : Bool) :
    addSegment k r segment slash =
      { r with path := r.path ++ segment ++ if slash = true then ['/'] else [] } := by
  unfold addSegment
  dsimp only
  rw [if_neg named.plain.2, if_neg named.plain.1, if_neg fun all => other all.1,
    if_neg fun all => other all.1]

theorem unbroken_encode {cs : List Char} (unbroken : ∀ c ∈ cs, isSlash k c = false) :
    ∀ c ∈ Percent.encode Percent.isEscapedInPath cs, isSlash k c = false := by
  intro c member
  rcases Percent.mem_encode member with ⟨source, _⟩ | mark
  · exact unbroken c source
  · have all : Percent.marks.all (fun c => c != '/' && c != '\\') = true := by decide
    have apart := List.all_eq_true.mp all c mark
    simp only [Bool.and_eq_true, bne_iff_ne] at apart
    simp [isSlash, apart]

theorem IsFolder.enter {r : PathReading} (folder : IsFolder k r.path) (other : k ≠ .file)
    {segment : List Char} (kept : ∀ c ∈ segment, Percent.Kept Percent.isEscapedInPath c)
    (unbroken : ∀ c ∈ segment, isSlash k c = false) :
    IsFolder k (addSegment k r segment true).path ∧
      (addSegment k r segment true).hostDropped = r.hostDropped := by
  by_cases plain : plainDots segment ≠ ['.'] ∧ plainDots segment ≠ ['.', '.']
  · rw [addSegment_named other ⟨kept, unbroken, plain⟩]
    exact ⟨.sub r.path segment folder ⟨kept, unbroken, plain⟩, rfl⟩
  · unfold addSegment
    dsimp only
    split
    · have up := folder.stepUp other
      refine ⟨?_, rfl⟩
      change IsFolder k (Url.withSlash (Url.stepUp k r.path))
      rw [up.withSlash]
      exact up
    · rename_i two
      split
      · refine ⟨?_, rfl⟩
        change IsFolder k (Url.withSlash r.path)
        rw [folder.withSlash]
        exact folder
      · rename_i one
        exact absurd ⟨one, two⟩ plain

theorem IsFolder.finish {r : PathReading} (folder : IsFolder k r.path) (other : k ≠ .file)
    {segment : List Char} (kept : ∀ c ∈ segment, Percent.Kept Percent.isEscapedInPath c)
    (unbroken : ∀ c ∈ segment, isSlash k c = false) :
    IsSettled k (addSegment k r segment false).path ∧
      (addSegment k r segment false).hostDropped = r.hostDropped := by
  by_cases plain : plainDots segment ≠ ['.'] ∧ plainDots segment ≠ ['.', '.']
  · have named : IsSegment k segment := ⟨kept, unbroken, plain⟩
    rw [addSegment_named other named]
    exact ⟨⟨r.path, segment, folder, named, List.append_nil _⟩, rfl⟩
  · unfold addSegment
    dsimp only
    split
    · exact ⟨(folder.stepUp other).settled, rfl⟩
    · rename_i two
      split
      · refine ⟨?_, rfl⟩
        change IsSettled k (Url.withSlash r.path)
        rw [folder.withSlash]
        exact folder.settled
      · rename_i one
        exact absurd ⟨one, two⟩ plain

theorem IsFolder.readSegments {r : PathReading} (folder : IsFolder k r.path) (other : k ≠ .file)
    {segment : List Char} (unbroken : ∀ c ∈ segment, isSlash k c = false) (cs : List Char) :
    IsSettled k (readSegments k r segment cs).1.path ∧
      (readSegments k r segment cs).1.hostDropped = r.hostDropped := by
  have none : ∀ c ∈ ([] : List Char), isSlash k c = false := by simp
  have kept (segment : List Char) := Percent.kept_inPath segment.reverse
  have inside {segment : List Char} (unbroken : ∀ c ∈ segment, isSlash k c = false) :=
    unbroken_encode fun c member => unbroken c (List.mem_reverse.mp member)
  induction cs generalizing r segment with
  | nil => exact folder.finish other (kept segment) (inside unbroken)
  | cons c rest ih =>
    unfold Url.readSegments
    split
    · exact folder.finish other (kept segment) (inside unbroken)
    · split
      · obtain ⟨entered, dropped⟩ := folder.enter other (kept segment) (inside unbroken)
        obtain ⟨settled, same⟩ := ih entered none
        exact ⟨settled, same.trans dropped⟩
      · rename_i slash
        refine ih folder fun d member => ?_
        rcases List.mem_cons.mp member with rfl | member
        · exact Bool.not_eq_true _ ▸ slash
        · exact unbroken d member

/-! Reading again -/

theorem readSegments_inside {r : PathReading} {front : List Char}
    (kept : ∀ c ∈ front, endsPath c = false) (unbroken : ∀ c ∈ front, isSlash k c = false)
    (segment rest : List Char) :
    readSegments k r segment (front ++ rest) = readSegments k r (front.reverse ++ segment) rest := by
  induction front generalizing segment with
  | nil => rfl
  | cons c front ih =>
    rw [List.cons_append, readSegments, if_neg (by simp [kept c List.mem_cons_self]),
      if_neg (by simp [unbroken c List.mem_cons_self]),
      ih (fun d member => kept d (List.mem_cons_of_mem c member))
        fun d member => unbroken d (List.mem_cons_of_mem c member)]
    simp

theorem endsPath_of_kept {c : Char} (kept : Percent.Kept Percent.isEscapedInPath c) :
    endsPath c = false := by
  have escaped := kept.2
  simp only [Percent.isEscapedInPath, Bool.or_eq_false_iff] at escaped
  simp [endsPath, escaped]

theorem IsSegment.read {segment : List Char} (named : IsSegment k segment) (other : k ≠ .file)
    {r : PathReading} (slash : Bool) :
    addSegment k r (Percent.encode Percent.isEscapedInPath (segment.reverse ++ []).reverse) slash =
      { r with path := r.path ++ segment ++ if slash = true then ['/'] else [] } := by
  rw [List.append_nil, List.reverse_reverse, Percent.encode_kept named.kept,
    addSegment_named other named]

theorem IsFolder.read {folder : List Char} (settled : IsFolder k folder) (other : k ≠ .file)
    {front rest : List Char} (split : folder ++ rest = '/' :: front) :
    Url.readSegments k ⟨['/'], false⟩ [] front = Url.readSegments k ⟨folder, false⟩ [] rest := by
  induction settled generalizing rest with
  | root =>
    cases split
    rfl
  | sub folder segment above named ih =>
    rw [List.append_assoc, List.append_assoc, List.singleton_append] at split
    rw [ih split, readSegments_inside (fun c member => endsPath_of_kept (named.kept c member))
      named.unbroken, Url.readSegments, if_neg (by decide), if_pos (by simp [isSlash]),
      named.read other]
    rfl

def EndsPath (tail : List Char) : Prop := ∀ c, tail.head? = some c → endsPath c = true

theorem readSegments_tail {r : PathReading} {tail : List Char} (ends : EndsPath tail)
    (segment : List Char) :
    readSegments k r segment tail =
      (addSegment k r (Percent.encode Percent.isEscapedInPath segment.reverse) false, tail) := by
  cases tail with
  | nil => rfl
  | cons c rest => rw [readSegments, if_pos (ends c rfl)]

/-- What follows a path does not change how it is read. -/
theorem readSegments_append {r : PathReading} {path tail : List Char}
    (kept : ∀ c ∈ path, endsPath c = false) (ends : EndsPath tail) (segment : List Char) :
    readSegments k r segment (path ++ tail) = ((readSegments k r segment path).1, tail) := by
  induction path generalizing r segment with
  | nil => exact readSegments_tail ends segment
  | cons c rest ih =>
    have later (r : PathReading) :=
      ih (r := r) fun d member => kept d (List.mem_cons_of_mem c member)
    have going : ¬endsPath c = true := by simp [kept c List.mem_cons_self]
    rw [List.cons_append, readSegments, readSegments, if_neg going, if_neg going]
    split
    · exact later _ []
    · exact later r (c :: segment)

theorem readPath_root (k : SchemeClass) (rest : List Char) :
    readPath k ('/' :: rest) =
      ({ (readSegments k ⟨['/'], false⟩ [] rest).1 with
          path := squeezeFile k (readSegments k ⟨['/'], false⟩ [] rest).1.path },
        (readSegments k ⟨['/'], false⟩ [] rest).2) := by
  have bare : ¬(!k.isSpecial && endsPath '/') = true := by
    rw [show endsPath '/' = false from rfl, Bool.and_false]
    exact Bool.false_ne_true
  have slash : isSlash k '/' = true := by simp [isSlash]
  unfold readPath
  dsimp only
  rw [if_neg bare, if_pos slash]

theorem readPath_append {path tail : List Char} (escaped : IsEscaped path) (ends : EndsPath tail) :
    readPath k (path ++ tail) = ((readPath k path).1, tail) := by
  obtain ⟨rest, rfl⟩ := List.head?_eq_some_iff.mp escaped.rooted
  have kept : ∀ c ∈ rest, endsPath c = false := fun c member =>
    endsPath_of_kept (escaped.kept c (List.mem_cons_of_mem _ member))
  rw [List.cons_append, readPath_root, readPath_root, readSegments_append kept ends]

theorem IsFolder.rooted {folder : List Char} (settled : IsFolder k folder) :
    folder.head? = some '/' := by
  induction settled with
  | root => rfl
  | sub folder segment above named ih =>
    rw [List.append_assoc, List.head?_append, ih]
    rfl

theorem readPath_settled {path : List Char} (settled : IsSettled k path) (other : k ≠ .file) :
    (readPath k path).1 = ⟨path, false⟩ := by
  obtain ⟨folder, segment, above, named, rfl⟩ := settled
  obtain ⟨rest, rfl⟩ := List.head?_eq_some_iff.mp above.rooted
  have folders : readSegments k ⟨['/'], false⟩ [] (rest ++ segment) =
      readSegments k ⟨'/' :: rest, false⟩ [] segment := above.read other rfl
  have inside := readSegments_inside (r := ⟨'/' :: rest, false⟩)
    (fun c member => endsPath_of_kept (named.kept c member)) named.unbroken [] []
  rw [List.append_nil] at inside
  rw [List.cons_append, readPath_root, folders, inside, readSegments, named.read other]
  unfold squeezeFile
  rw [if_neg other]
  simp

theorem isSettled_readPath (other : k ≠ .file) (cs : List Char) :
    ((readPath k cs).1.path = [] ∧ k = .other ∨ IsSettled k (readPath k cs).1.path) ∧
      (readPath k cs).1.hostDropped = false := by
  have start : IsFolder k ['/'] := .root
  unfold readPath
  split
  · rename_i c rest
    split
    · rename_i bare
      refine ⟨Or.inl ⟨rfl, ?_⟩, rfl⟩
      cases k <;> simp [SchemeClass.isSpecial] at bare ⊢
    · have none : ∀ c ∈ ([] : List Char), isSlash k c = false := by simp
      obtain ⟨settled, dropped⟩ := start.readSegments (r := ⟨['/'], false⟩) other none
        (if isSlash k c = true then rest else c :: rest)
      refine ⟨Or.inr ?_, dropped⟩
      change IsSettled k (squeezeFile k _)
      unfold squeezeFile
      rw [if_neg other]
      exact settled
  · cases k with
    | file => exact absurd rfl other
    | web => exact ⟨Or.inr start.settled, rfl⟩
    | other => exact ⟨Or.inl ⟨rfl, rfl⟩, rfl⟩

end ProtocolGateway.Web.Url
