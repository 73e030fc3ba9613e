import Tangle.Proofs.Text.Trim
import Tangle.TreePath
import Tangle.Tree.Listing

namespace Tangle

/-!
# Plain names and the texts of paths

Making a written path safe leaves plain names only: they are not empty, hold no
slash, are not a single dot, and have no blank at either end.  Written with
slashes between them, plain names can be read off again, so different paths
have different texts.
-/

/-- A name that a safe path may have as a part. -/
structure PlainName (name : String) : Prop where
  notEmpty : name ≠ ""
  noSlash : '/' ∉ name.toList
  notDot : name ≠ "."
  noBlankFirst : ∀ first, name.toList.head? = some first → Text.isBlank first = false
  noBlankLast : ∀ last, name.toList.getLast? = some last → Text.isBlank last = false

namespace TreePath

/-- Every name left of a written path is plain. -/
theorem plainName_of_mem_names
    {written part : List Char} (member : part ∈ names written) :
    PlainName (String.ofList part) := by
  obtain ⟨trimmed, naming⟩ := List.mem_filter.mp member
  obtain ⟨piece, isPiece, rfl⟩ := List.mem_map.mp trimmed
  simp only [isNaming, Bool.not_eq_true', Bool.or_eq_false_iff] at naming
  refine
    { notEmpty := ?_
      noSlash := ?_
      notDot := ?_
      noBlankFirst := ?_
      noBlankLast := ?_ }
  · intro empty
    simp_all
  · rw [String.toList_ofList]
    intro slash
    have notSlash := (Text.mem_of_mem_splitOnP isPiece (Text.mem_of_mem_trimWhere slash)).2
    simp at notSlash
  · intro dot
    have shape := congrArg String.toList dot
    rw [String.toList_ofList] at shape
    simp [shape] at naming
  · intro first found
    rw [String.toList_ofList] at found
    exact Text.head?_trimWhere found
  · intro last found
    rw [String.toList_ofList] at found
    exact Text.getLast?_trimWhere found

/-- A written path that is made safe has plain names only. -/
theorem plainName_of_sanitize?
    {written : String} {path : TreePath} (safe : sanitize? written = some path)
    {name : String} (member : name ∈ path.segments) :
    PlainName name := by
  rw [segments_of_ofNames? safe] at member
  obtain ⟨part, isPart, rfl⟩ := List.mem_map.mp member
  exact plainName_of_mem_names isPart

end TreePath

/-- Names that are not empty are written with slashes between them. -/
theorem pathText_eq_intercalate
    {names : List String} (notEmpty : ∀ name ∈ names, name ≠ "") :
    pathText names = String.intercalate "/" names := by
  have fromPlace :
      ∀ (later : List String) (place : String), place ≠ "" →
        later.foldl extendPath place = String.intercalate "/" (place :: later) := by
    intro later
    induction later with
    | nil =>
        intro place _
        simp
    | cons next rest inductionHypothesis =>
        intro place placeNotEmpty
        have extended : extendPath place next = place ++ "/" ++ next := by
          simp [extendPath, placeNotEmpty]
        have extendedNotEmpty : extendPath place next ≠ "" := by
          simp [extended]
        rw [List.foldl_cons, inductionHypothesis _ extendedNotEmpty, extended]
        simp [String.append_assoc]
  cases names with
  | nil =>
      rfl
  | cons first rest =>
      have firstNotEmpty := notEmpty first List.mem_cons_self
      rw [pathText, List.foldl_cons, ← fromPlace rest first firstNotEmpty]
      simp [extendPath]

/-- The text of a path has the names in order, with slashes between them. -/
theorem pathText_toList
    {names : List String} (plain : ∀ name ∈ names, PlainName name) :
    (pathText names).toList = List.intercalate ['/'] (names.map String.toList) := by
  rw [pathText_eq_intercalate (fun name member => (plain name member).notEmpty),
    String.toList_intercalate]
  rfl

/-- Plain names can be read off the text of a path again. -/
theorem splitOn_pathText
    {names : List String} (nonempty : names ≠ []) (plain : ∀ name ∈ names, PlainName name) :
    (pathText names).toList.splitOn '/' = names.map String.toList := by
  rw [pathText_toList plain]
  refine List.splitOn_intercalate '/' ?_ (by simpa using nonempty)
  intro characters member
  obtain ⟨name, nameMember, rfl⟩ := List.mem_map.mp member
  exact (plain name nameMember).noSlash

/-- Paths of plain names that have the same text are the same. -/
theorem pathText_injective_of_plain
    {first second : List String} (firstNonempty : first ≠ []) (secondNonempty : second ≠ [])
    (firstPlain : ∀ name ∈ first, PlainName name)
    (secondPlain : ∀ name ∈ second, PlainName name)
    (sameText : pathText first = pathText second) :
    first = second := by
  have sameLists : first.map String.toList = second.map String.toList := by
    rw [← splitOn_pathText firstNonempty firstPlain, sameText,
      splitOn_pathText secondNonempty secondPlain]
  exact (List.map_inj_right (fun _ _ => String.toList_inj.mp)).mp sameLists

/-- A path whose text goes on behind a slash where another text ends goes on from that path. -/
theorem exists_append_of_pathText_append
    {front names : List String} (frontNonempty : front ≠ []) (nonempty : names ≠ [])
    (frontPlain : ∀ name ∈ front, PlainName name) (plain : ∀ name ∈ names, PlainName name)
    {below : String} (goesOn : pathText names = pathText front ++ "/" ++ below) :
    ∃ rest, rest ≠ [] ∧ names = front ++ rest := by
  have shape : (pathText names).toList = (pathText front).toList ++ '/' :: below.toList := by
    rw [goesOn]
    simp
  have parted :
      names.map String.toList = front.map String.toList ++ below.toList.splitOn '/' := by
    rw [← splitOn_pathText nonempty plain, ← splitOn_pathText frontNonempty frontPlain, shape,
      List.splitOn_append_cons_self]
  obtain ⟨start, rest, rfl, sameStart, restParts⟩ := List.map_eq_append_iff.mp parted
  have isFront : start = front :=
    (List.map_inj_right (fun _ _ => String.toList_inj.mp)).mp sameStart
  refine ⟨rest, ?_, by rw [isFront]⟩
  intro empty
  rw [empty, List.map_nil] at restParts
  exact List.splitOn_ne_nil '/' below.toList restParts.symm

/-- The text of a path starts with that of any place on the way. -/
theorem pathText_append
    {front back : List String} (frontNonempty : front ≠ []) (backNonempty : back ≠ [])
    (plain : ∀ name ∈ front ++ back, PlainName name) :
    pathText (front ++ back) = pathText front ++ "/" ++ pathText back := by
  have notEmpty : ∀ name ∈ front ++ back, name ≠ "" :=
    fun name member => (plain name member).notEmpty
  rw [pathText_eq_intercalate notEmpty,
    pathText_eq_intercalate (fun name member => notEmpty name (List.mem_append_left back member)),
    pathText_eq_intercalate (fun name member => notEmpty name (List.mem_append_right front member)),
    String.intercalate_append_of_ne_nil frontNonempty backNonempty]

end Tangle
