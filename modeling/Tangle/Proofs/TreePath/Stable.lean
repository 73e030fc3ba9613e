import Mathlib.Data.List.Flatten
import Tangle.Proofs.TreePath.ReadBack

namespace Tangle

/-!
# What making a path safe can give

Every list of plain names is what some written path is made into: with blanks
around each name, nothing of it is at an edge.  The text of a path made safe
is made into the same path again unless it has a dot at an end; such a dot goes,
and what is left then has fewer dots than the path.
-/

namespace TreePath

section Image

/-- Blanks around every slash and at both ends are blanks around every part. -/
theorem intercalate_spaced {parts : List (List Char)} (nonempty : parts ≠ []) :
    ' ' :: (List.intercalate [' ', '/', ' '] parts ++ [' ']) =
      List.intercalate ['/'] (parts.map fun part => ' ' :: (part ++ [' '])) := by
  induction parts with
  | nil =>
      contradiction
  | cons first rest inductionHypothesis =>
      cases rest with
      | nil =>
          simp
      | cons next later =>
          have behind := inductionHypothesis (List.cons_ne_nil next later)
          rw [List.map_cons] at behind
          rw [List.intercalate_cons_cons, List.map_cons, List.map_cons, List.intercalate_cons_cons,
            ← behind]
          simp

/-- Names with a blank on either side of each are read as these names. -/
theorem names_spaced
    {segments : List String} (nonempty : segments ≠ [])
    (plain : ∀ name ∈ segments, PlainName name) :
    names (' ' :: (List.intercalate [' ', '/', ' '] (segments.map String.toList) ++ [' '])) =
      segments.map String.toList := by
  have partsNonempty : segments.map String.toList ≠ [] := by
    simpa using nonempty
  have edgesKept :
      Text.trimWhere isEdge
          (' ' :: (List.intercalate [' ', '/', ' '] (segments.map String.toList) ++ [' '])) =
        ' ' :: (List.intercalate [' ', '/', ' '] (segments.map String.toList) ++ [' ']) := by
    apply Text.trimWhere_eq_self
    · intro first found
      cases found
      rfl
    · intro last found
      rw [← List.cons_append, List.getLast?_concat] at found
      cases found
      rfl
  have noSlash :
      ∀ part ∈ (segments.map String.toList).map (fun part => ' ' :: (part ++ [' '])),
        '/' ∉ part := by
    simp only [List.map_map, List.mem_map]
    rintro _ ⟨name, member, rfl⟩
    simpa using (plain name member).noSlash
  have trimmed :
      ((segments.map String.toList).map (fun part => ' ' :: (part ++ [' ']))).map
          (Text.trimWhere Text.isBlank) =
        (segments.map String.toList).map (Text.trimWhere Text.isBlank) := by
    rw [List.map_map]
    apply List.map_congr_left
    intro part _
    rw [Function.comp_apply, Text.trimWhere_cons_of_drops Text.isBlank_space,
      Text.trimWhere_append_of_drops (by simp [Text.isBlank_space])]
  rw [names, edgesKept, intercalate_spaced partsNonempty, ← List.splitOn_eq_splitOnP,
    List.splitOn_intercalate '/' noSlash (by simpa using nonempty), trimmed,
    names_of_plain plain]

/-- Every list of plain names is the segments of some path that was made safe. -/
theorem exists_written_of_plain
    {segments : List String} (nonempty : segments ≠ [])
    (plain : ∀ name ∈ segments, PlainName name) :
    ∃ written path, sanitize? written = some path ∧ path.segments = segments := by
  refine ⟨String.ofList
    (' ' :: (List.intercalate [' ', '/', ' '] (segments.map String.toList) ++ [' '])), ?_⟩
  apply exists_sanitize?_of_names nonempty
  rw [String.toList_ofList, names_spaced nonempty plain]

end Image

section Again

/-- Joining parts brings in the separator alone. -/
theorem count_intercalate
    {separator character : Char} (different : separator ≠ character) (parts : List (List Char)) :
    (List.intercalate [separator] parts).count character = parts.flatten.count character := by
  induction parts with
  | nil =>
      rfl
  | cons first rest inductionHypothesis =>
      cases rest with
      | nil =>
          simp
      | cons next later =>
          rw [List.intercalate_cons_cons, List.flatten_cons, List.count_append, List.count_append,
            List.count_append, inductionHypothesis]
          simp [different]

/-- Splitting a text brings in nothing. -/
theorem flatten_splitOnP_sublist (separates : Char → Bool) (characters : List Char) :
    (characters.splitOnP separates).flatten.Sublist characters := by
  induction characters with
  | nil =>
      simp
  | cons first rest inductionHypothesis =>
      rw [List.splitOnP_cons_eq_if_modifyHead]
      split
      · exact inductionHypothesis.cons first
      · cases parts : rest.splitOnP separates with
        | nil =>
            simp
        | cons part others =>
            rw [parts] at inductionHypothesis
            exact inductionHypothesis.cons_cons first

/-- Nor does trimming its parts. -/
theorem flatten_trimmed_sublist (drops : Char → Bool) (parts : List (List Char)) :
    (parts.map (Text.trimWhere drops)).flatten.Sublist parts.flatten := by
  induction parts with
  | nil =>
      exact .slnil
  | cons first rest inductionHypothesis =>
      exact (Text.trimWhere_isInfix drops first).sublist.append inductionHypothesis

/-- The names left of a written path have their characters from between its edges. -/
theorem flatten_names_sublist (written : List Char) :
    (names written).flatten.Sublist (Text.trimWhere isEdge written) :=
  (List.filter_sublist.flatten.trans (flatten_trimmed_sublist _ _)).trans
    (flatten_splitOnP_sublist _ _)

variable {written : String} {path : TreePath}

/--
A path whose text is made into the path again has no dot at the ends of the text.
Whatever the text starts or ends with is dropped, and so neither is an edge.
-/
theorem noDotAtEnds_of_sanitize?_pathText
    (again : sanitize? (pathText path.segments) = some path) :
    NoDotAtEnds (pathText path.segments) := by
  have plain : ∀ name ∈ path.segments, PlainName name :=
    fun name member => plainName_of_sanitize? again member
  have sameNames :
      path.segments.map String.toList = names (pathText path.segments).toList := by
    calc
      path.segments.map String.toList =
          ((names (pathText path.segments).toList).map String.ofList).map String.toList :=
        congrArg (List.map String.toList) (segments_of_ofNames? again)
      _ = names (pathText path.segments).toList := by
        simp [Function.comp_def]
  obtain ⟨front, back, shape, _, _⟩ :=
    Text.exists_around_trimWhere isEdge (pathText path.segments).toList
  have fewer :
      (pathText path.segments).toList.count '.' ≤
        (Text.trimWhere isEdge (pathText path.segments).toList).count '.' := by
    calc
      (pathText path.segments).toList.count '.' =
          (names (pathText path.segments).toList).flatten.count '.' := by
        rw [← sameNames, pathText_toList plain, count_intercalate (by decide)]
      _ ≤ (Text.trimWhere isEdge (pathText path.segments).toList).count '.' :=
        (flatten_names_sublist _).count_le '.'
  have all := congrArg (List.count '.') shape
  rw [List.count_append, List.count_append] at all
  have notInFront : '.' ∉ front := List.count_eq_zero.mp (by omega)
  have notBehind : '.' ∉ back := List.count_eq_zero.mp (by omega)
  constructor
  · intro starts
    rw [shape, List.head?_append, List.head?_append, Option.or_eq_some_iff,
      Option.or_eq_some_iff] at starts
    rcases starts with (inFront | ⟨_, inTrimmed⟩) | ⟨_, behind⟩
    · exact notInFront (List.mem_of_head? inFront)
    · exact absurd (Text.head?_trimWhere inTrimmed) (by decide)
    · exact notBehind (List.mem_of_head? behind)
  · intro ends
    rw [shape, List.getLast?_append, List.getLast?_append, Option.or_eq_some_iff,
      Option.or_eq_some_iff] at ends
    rcases ends with behind | ⟨_, inTrimmed | ⟨_, inFront⟩⟩
    · exact notBehind (List.mem_of_getLast? behind)
    · exact absurd (Text.getLast?_trimWhere inTrimmed) (by decide)
    · exact notInFront (List.mem_of_getLast? inFront)

/-- The text of a path is its segments with slashes between them. -/
theorem text_eq_pathText (safe : sanitize? written = some path) :
    path.text = pathText path.segments :=
  (pathText_eq_intercalate fun _ member => (plainName_of_sanitize? safe member).notEmpty).symm

/-- A path made safe is made into itself again exactly when its text has no dot at an end. -/
theorem sanitize?_text_eq_some_iff (safe : sanitize? written = some path) :
    sanitize? path.text = some path ↔ NoDotAtEnds (pathText path.segments) := by
  rw [text_eq_pathText safe]
  constructor
  · exact noDotAtEnds_of_sanitize?_pathText
  · intro noDot
    obtain ⟨other, again, sameSegments⟩ :=
      segments_sanitize?_pathText path.segments_ne_nil
        (fun _ member => plainName_of_sanitize? safe member) noDot
    have samePath : some other = some path := by
      rw [← ofNames?_segments other, sameSegments, ofNames?_segments]
    rw [again, samePath]

/-- The text of a path starts as its first segment does, and ends as its name does. -/
theorem noDotAtEnds_iff (safe : sanitize? written = some path) :
    NoDotAtEnds (pathText path.segments) ↔
      (∀ first, path.segments.head? = some first → first.toList.head? ≠ some '.') ∧
        path.name.toList.getLast? ≠ some '.' := by
  have plain : ∀ name ∈ path.segments, PlainName name :=
    fun name member => plainName_of_sanitize? safe member
  have endsAsName :
      (pathText path.segments).toList.getLast? = path.name.toList.getLast? :=
    getLast?_pathText_concat plain
  have startsAsFirst :
      ∀ first, path.segments.head? = some first →
        (pathText path.segments).toList.head? = first.toList.head? := by
    intro first found
    obtain ⟨others, shape⟩ := List.head?_eq_some_iff.mp found
    rw [shape] at plain ⊢
    exact head?_pathText_cons plain
  obtain ⟨first, others, shape⟩ := List.exists_cons_of_ne_nil path.segments_ne_nil
  constructor
  · intro noDot
    refine ⟨fun first found => ?_, endsAsName ▸ noDot.last⟩
    rw [← startsAsFirst first found]
    exact noDot.first
  · rintro ⟨firstStarts, nameEnds⟩
    have found : path.segments.head? = some first := by
      rw [shape, List.head?_cons]
    refine ⟨?_, endsAsName ▸ nameEnds⟩
    rw [startsAsFirst first found]
    exact firstStarts first found

end Again

/--
A path that is made safe has plain names as its segments: none is empty or a
single dot, none holds a slash, and none has a blank at an end.  Every list of
such names, but for the empty one, is had from some written path.  The text of a
path made safe is made into the same path exactly when its first segment does
not start with a dot and its name does not end with one, and that is so whenever
there was no blank in the written path: a blank keeps the dot behind it from
being an edge, until the blank goes itself.
-/
theorem plain_and_stable_paths :
    (∀ written path, sanitize? written = some path →
      ∀ segment ∈ path.segments, PlainName segment) ∧
    (∀ segments : List String, segments ≠ [] → (∀ segment ∈ segments, PlainName segment) →
      ∃ written path, sanitize? written = some path ∧ path.segments = segments) ∧
    (∀ written path, sanitize? written = some path →
      (sanitize? path.text = some path ↔
        (∀ first, path.segments.head? = some first → first.toList.head? ≠ some '.') ∧
          path.name.toList.getLast? ≠ some '.')) ∧
    (∀ written path, sanitize? written = some path → NoBlank written →
      sanitize? path.text = some path) := by
  refine ⟨fun _ _ safe _ member => plainName_of_sanitize? safe member,
    fun _ nonempty plain => exists_written_of_plain nonempty plain, ?_, ?_⟩
  · intro written path safe
    rw [sanitize?_text_eq_some_iff safe, noDotAtEnds_iff safe]
  · intro written path safe noBlank
    exact (sanitize?_text_eq_some_iff safe).mpr (noDotAtEnds_of_noBlank noBlank safe)

example :
    (sanitize? "./ .js").map text = some ".js" ∧ (sanitize? ".js").map text = some "js" := by
  decide +kernel

end TreePath

end Tangle
