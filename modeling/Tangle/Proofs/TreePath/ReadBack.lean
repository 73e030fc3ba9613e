import Mathlib.Data.List.Basic
import Tangle.Proofs.TreePath

namespace Tangle

/-!
# Reading the text of a path again

A path that was made safe is written out, and its text is made safe once more.
Nothing is lost by this unless the text starts or ends in a dot, which goes the
second time.  A blank in the written path is needed for that: it keeps a dot
from being at the end until it is dropped itself.
-/

/-- A text neither starts nor ends in a dot. -/
structure NoDotAtEnds (text : String) : Prop where
  first : text.toList.head? ≠ some '.'
  last : text.toList.getLast? ≠ some '.'

/-- A text without any blank character. -/
def NoBlank (text : String) : Prop :=
  ∀ character ∈ text.toList, Text.isBlank character = false

instance (text : String) : Decidable (NoBlank text) :=
  inferInstanceAs (Decidable (∀ character ∈ text.toList, Text.isBlank character = false))

namespace PlainName

variable {name : String} (plain : PlainName name)

include plain

/-- A plain name is not empty. -/
theorem toList_ne_nil : name.toList ≠ [] := by
  intro empty
  exact plain.notEmpty (String.toList_eq_nil_iff.mp empty)

/-- It has no blanks at its ends. -/
theorem trimWhere_eq_self : Text.trimWhere Text.isBlank name.toList = name.toList :=
  Text.trimWhere_eq_self plain.noBlankFirst plain.noBlankLast

/-- So it counts as a name. -/
theorem isNaming : TreePath.isNaming name.toList = true := by
  have notDot : name.toList ≠ ['.'] := by
    intro dot
    exact plain.notDot (String.toList_inj.mp dot)
  simp [TreePath.isNaming, plain.toList_ne_nil, notDot]

end PlainName

section TextEnds

variable {first last : String} {names : List String}

/-- The text of a path starts as its first name does. -/
theorem head?_pathText_cons (plain : ∀ name ∈ first :: names, PlainName name) :
    (pathText (first :: names)).toList.head? = first.toList.head? := by
  have firstNonempty := (plain first List.mem_cons_self).toList_ne_nil
  rw [pathText_toList plain]
  cases names with
  | nil =>
      simp
  | cons next later =>
      rw [List.map_cons, List.map_cons, List.intercalate_cons_cons, List.append_assoc,
        List.head?_append_of_ne_nil _ firstNonempty]

/-- The text of a path ends as its last name does. -/
theorem getLast?_pathText_concat (plain : ∀ name ∈ names ++ [last], PlainName name) :
    (pathText (names ++ [last])).toList.getLast? = last.toList.getLast? := by
  have lastPlain : PlainName last := plain last (by simp)
  have lastAlone : pathText [last] = last := by
    simp [pathText, extendPath]
  cases names with
  | nil =>
      rw [List.nil_append, lastAlone]
  | cons first later =>
      rw [pathText_append (List.cons_ne_nil first later) (by simp) plain, lastAlone,
        String.toList_append, List.getLast?_append_of_ne_nil _ lastPlain.toList_ne_nil]

end TextEnds

namespace TreePath

/-- Plain names are neither trimmed nor left out. -/
theorem names_of_plain {segments : List String} (plain : ∀ name ∈ segments, PlainName name) :
    ((segments.map String.toList).map (Text.trimWhere Text.isBlank)).filter isNaming =
      segments.map String.toList := by
  have allTrimmed :
      (segments.map String.toList).map (Text.trimWhere Text.isBlank) =
        segments.map String.toList := by
    rw [List.map_map]
    exact List.map_congr_left fun name member => (plain name member).trimWhere_eq_self
  rw [allTrimmed, List.filter_eq_self]
  intro part isPart
  obtain ⟨name, member, rfl⟩ := List.mem_map.mp isPart
  exact (plain name member).isNaming

/-- A written path in which there are names is made into the path with these names. -/
theorem exists_sanitize?_of_names
    {written : String} {segments : List String} (nonempty : segments ≠ [])
    (sameNames : names written.toList = segments.map String.toList) :
    ∃ path, sanitize? written = some path ∧ path.segments = segments := by
  obtain ⟨front, last, shape⟩ := (List.eq_nil_or_concat' segments).resolve_left nonempty
  have read : sanitize? written = some ⟨front, last⟩ := by
    rw [sanitize?, sameNames, List.map_map]
    simp [ofNames?, shape, Function.comp_def]
  exact ⟨_, read, shape.symm⟩

/-- The text of plain names is read as these names when it has no dot at either end. -/
theorem segments_sanitize?_pathText
    {segments : List String} (nonempty : segments ≠ [])
    (plain : ∀ name ∈ segments, PlainName name) (noDot : NoDotAtEnds (pathText segments)) :
    ∃ path, sanitize? (pathText segments) = some path ∧ path.segments = segments := by
  have firstKept :
      ∀ first, (pathText segments).toList.head? = some first → isEdge first = false := by
    intro first found
    obtain ⟨name, others, rfl⟩ := List.exists_cons_of_ne_nil nonempty
    have notDot : first ≠ '.' := by
      intro dot
      exact noDot.first (dot ▸ found)
    rw [head?_pathText_cons plain] at found
    have notSlash : first ≠ '/' := by
      intro slash
      exact (plain name List.mem_cons_self).noSlash (slash ▸ List.mem_of_head? found)
    simp [isEdge, notDot, notSlash]
  have lastKept :
      ∀ last, (pathText segments).toList.getLast? = some last → isEdge last = false := by
    intro last found
    obtain ⟨others, name, rfl⟩ := (List.eq_nil_or_concat' segments).resolve_left nonempty
    have notDot : last ≠ '.' := by
      intro dot
      exact noDot.last (dot ▸ found)
    rw [getLast?_pathText_concat plain] at found
    have notSlash : last ≠ '/' := by
      intro slash
      exact (plain name (by simp)).noSlash (slash ▸ List.mem_of_getLast? found)
    simp [isEdge, notDot, notSlash]
  apply exists_sanitize?_of_names nonempty
  rw [names, Text.trimWhere_eq_self firstKept lastKept, ← List.splitOn_eq_splitOnP,
    splitOn_pathText nonempty plain, names_of_plain plain]

/-- Nothing at the ends of a trimmed path is left of two dots, so they stand between slashes. -/
theorem isInfix_of_dotDot_mem
    {written : List Char}
    (isPart : ['.', '.'] ∈ (Text.trimWhere isEdge written).splitOnP (· == '/')) :
    ['/', '.', '.', '/'] <:+: written := by
  rw [← List.splitOn_eq_splitOnP] at isPart
  obtain ⟨front, back, joined, atFront, atBack⟩ := Text.exists_around_of_mem '/' isPart
  rw [List.intercalate_splitOn] at joined
  have startsWithSlash : ['/'] <:+ front := by
    apply atFront.resolve_left
    intro nothing
    have noEdge : isEdge '.' = false := by
      apply Text.head?_trimWhere
      rw [joined, nothing]
      rfl
    contradiction
  have endsWithSlash : ['/'] <+: back := by
    apply atBack.resolve_left
    intro nothing
    have noEdge : isEdge '.' = false := by
      apply Text.getLast?_trimWhere
      rw [joined, nothing, List.append_nil, List.getLast?_append_of_ne_nil _ (by simp)]
      rfl
    contradiction
  obtain ⟨before, rfl⟩ := startsWithSlash
  obtain ⟨behind, rfl⟩ := endsWithSlash
  have inTrimmed : ['/', '.', '.', '/'] <:+: Text.trimWhere isEdge written :=
    ⟨before, behind, by simp [joined]⟩
  exact inTrimmed.trans (Text.trimWhere_isInfix isEdge written)

section WithoutBlanks

variable {written : String} (noBlank : NoBlank written)

include noBlank

/-- Without blanks the names are the parts between slashes, but for those that name nothing. -/
theorem names_of_noBlank :
    names written.toList =
      ((Text.trimWhere isEdge written.toList).splitOnP (· == '/')).filter isNaming := by
  have partsKept :
      ∀ part ∈ (Text.trimWhere isEdge written.toList).splitOnP (· == '/'),
        Text.trimWhere Text.isBlank part = part := by
    intro part isPart
    have notBlank : ∀ character ∈ part, Text.isBlank character = false := by
      intro character member
      have inTrimmed := (Text.mem_of_mem_splitOnP isPart member).1
      exact noBlank character (Text.mem_of_mem_trimWhere inTrimmed)
    exact Text.trimWhere_eq_self (fun first found => notBlank first (List.mem_of_head? found))
      (fun last found => notBlank last (List.mem_of_getLast? found))
  rw [names, List.map_congr_left partsKept, List.map_id']

variable {path : TreePath} (safe : sanitize? written = some path)

include safe

/-- A text that is made into a path is more than edges. -/
theorem trimWhere_isEdge_ne_nil : Text.trimWhere isEdge written.toList ≠ [] := by
  intro nothingLeft
  have noNames : path.segments = [] := by
    rw [segments_of_ofNames? safe, names_of_noBlank noBlank, nothingLeft]
    rfl
  exact path.segments_ne_nil noNames

/-- Without blanks the first name starts with what the written path starts with behind its edge. -/
theorem exists_first_name :
    ∃ first part others,
      first ≠ '.' ∧ path.segments = String.ofList (first :: part) :: others := by
  have segmentsAre := segments_of_ofNames? safe
  obtain ⟨first, rest, trimmed⟩ :=
    List.exists_cons_of_ne_nil (trimWhere_isEdge_ne_nil noBlank safe)
  have noEdge : isEdge first = false := by
    apply Text.head?_trimWhere
    rw [trimmed, List.head?_cons]
  simp only [isEdge, Bool.or_eq_false_iff] at noEdge
  have notDot : first ≠ '.' := ne_of_beq_false noEdge.1
  obtain ⟨part, others, split⟩ := Text.exists_first_part (· == '/') noEdge.2 rest
  have naming : isNaming (first :: part) = true := by
    simp [isNaming, notDot]
  rw [names_of_noBlank noBlank, trimmed, split, List.filter_cons_of_pos naming,
    List.map_cons] at segmentsAre
  exact ⟨first, part, _, notDot, segmentsAre⟩

/-- The last name of the path does not end with a dot. -/
theorem exists_last_name :
    ∃ others part last,
      last ≠ '.' ∧ path.segments = others ++ [String.ofList (part ++ [last])] := by
  have segmentsAre := segments_of_ofNames? safe
  obtain ⟨front, last, trimmed⟩ :=
    (List.eq_nil_or_concat' _).resolve_left (trimWhere_isEdge_ne_nil noBlank safe)
  have noEdge : isEdge last = false := by
    apply Text.getLast?_trimWhere
    rw [trimmed, List.getLast?_concat]
  simp only [isEdge, Bool.or_eq_false_iff] at noEdge
  have notDot : last ≠ '.' := ne_of_beq_false noEdge.1
  obtain ⟨others, part, split⟩ := Text.exists_last_part (· == '/') noEdge.2 front
  have naming : isNaming (part ++ [last]) = true := by
    cases part <;> simp [isNaming, notDot]
  rw [names_of_noBlank noBlank, trimmed, split, List.filter_append,
    List.filter_cons_of_pos naming, List.filter_nil, List.map_append,
    List.map_singleton] at segmentsAre
  exact ⟨_, part, last, notDot, segmentsAre⟩

/-- A path that was written without blanks has no dot at the ends of its text. -/
theorem noDotAtEnds_of_noBlank : NoDotAtEnds (pathText path.segments) := by
  have plain : ∀ name ∈ path.segments, PlainName name :=
    fun name member => plainName_of_sanitize? safe member
  constructor
  · obtain ⟨first, part, others, notDot, startsWith⟩ := exists_first_name noBlank safe
    rw [startsWith] at plain ⊢
    rw [head?_pathText_cons plain]
    simpa using notDot
  · obtain ⟨others, part, last, notDot, endsWith⟩ := exists_last_name noBlank safe
    rw [endsWith] at plain ⊢
    rw [getLast?_pathText_concat plain]
    simpa using notDot

/--
Two dots are a name of a path that was written without blanks only where they
stand between slashes, so the path has a name in front of them and one behind.
-/
theorem dotDot_between_of_noBlank
    {place below : List String} (parted : path.segments = place ++ ".." :: below) :
    place ≠ [] ∧ below ≠ [] ∧ ['/', '.', '.', '/'] <:+: written.toList := by
  have plain : ∀ name ∈ path.segments, PlainName name :=
    fun name member => plainName_of_sanitize? safe member
  have noDot := noDotAtEnds_of_noBlank noBlank safe
  have notFirst : place ≠ [] := by
    intro first
    rw [parted, first, List.nil_append] at plain noDot
    apply noDot.first
    rw [head?_pathText_cons plain]
    rfl
  have notLast : below ≠ [] := by
    intro last
    rw [parted, last] at plain noDot
    apply noDot.last
    rw [getLast?_pathText_concat plain]
    rfl
  refine ⟨notFirst, notLast, ?_⟩
  have member : ".." ∈ path.segments := by
    rw [parted]
    exact List.mem_append_right place List.mem_cons_self
  rw [segments_of_ofNames? safe, names_of_noBlank noBlank] at member
  obtain ⟨part, kept, isDots⟩ := List.mem_map.mp member
  have shape : part = ['.', '.'] := by
    rw [← String.toList_ofList (l := part), isDots]
    rfl
  rw [shape] at kept
  exact isInfix_of_dotDot_mem (List.mem_filter.mp kept).1

end WithoutBlanks

end TreePath

end Tangle
