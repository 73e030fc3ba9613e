import Tangle.Proofs.Text.ByteOrder
import Tangle.Proofs.Tree.WellFormed

namespace Tangle

/-!
# The order of a listing

A tree lists its files directory by directory, so their paths ascend name by
name.  As whole texts they ascend as well, but for one case: where a name goes
on behind that of a directory with a character smaller than the slash, all that
is below the directory comes first in the listing and last in the order of
texts.
-/

section Parting

variable {Item : Type} [LT Item]

/-- Of two lists in order, the second goes on from the first, or has a greater item somewhere. -/
theorem exists_parting_of_lt {first second : List Item} (smaller : first < second) :
    (∃ below, below ≠ [] ∧ second = first ++ below) ∨
      ∃ front item greater rest greaterRest,
        first = front ++ item :: rest ∧ second = front ++ greater :: greaterRest ∧
          item < greater := by
  induction smaller with
  | @nil item rest =>
      exact Or.inl ⟨item :: rest, List.cons_ne_nil item rest, rfl⟩
  | @rel item rest greater greaterRest lower =>
      exact Or.inr ⟨[], item, greater, rest, greaterRest, rfl, rfl, lower⟩
  | @cons same _ _ _ inductionHypothesis =>
      rcases inductionHypothesis with
          ⟨below, nonempty, rfl⟩ | ⟨front, item, greater, rest, greaterRest, rfl, rfl, lower⟩
      · exact Or.inl ⟨below, nonempty, rfl⟩
      · exact Or.inr ⟨same :: front, item, greater, rest, greaterRest, rfl, rfl, lower⟩

/-- Behind the same front the order is that of what follows. -/
theorem append_lt_append_iff
    [Std.Irrefl fun first second : Item => first < second]
    (front : List Item) {first second : List Item} :
    front ++ first < front ++ second ↔ first < second := by
  induction front with
  | nil =>
      rfl
  | cons item rest inductionHypothesis =>
      rw [List.cons_append, List.cons_append, List.cons_lt_cons_iff, inductionHypothesis]
      simp [Std.Irrefl.irrefl]

end Parting

/-- In a list ordered strictly in two ways, one order tells of the other. -/
theorem rel_of_pairwise
    {Item : Type} {before related : Item → Item → Prop}
    (asymmetric : ∀ first second, before first second → ¬ before second first)
    {items : List Item} (ordered : items.Pairwise before) (alsoRelated : items.Pairwise related)
    {first second : Item} (firstMember : first ∈ items) (secondMember : second ∈ items)
    (inOrder : before first second) :
    related first second := by
  have itself : ∀ item ∈ items, before item item → related item item :=
    fun item _ isBefore => (asymmetric item item isBefore isBefore).elim
  have forwards :
      items.Pairwise fun first second => before first second → related first second := by
    apply alsoRelated.imp
    exact fun isRelated _ => isRelated
  have backwards :
      items.Pairwise fun first second => before second first → related second first := by
    apply ordered.imp
    exact fun isBefore isBehind => (asymmetric _ _ isBefore isBehind).elim
  exact List.Pairwise.forall_of_forall_of_flip itself forwards backwards firstMember secondMember
    inOrder

/-- A name goes on behind another one, and does so with a character smaller than the slash. -/
def GoesOnBelowSlash (name longer : String) : Prop :=
  ∃ next rest, longer.toList = name.toList ++ next :: rest ∧ next < '/'

section Texts

variable {name other : String} {below otherBelow : List String}

/-- A name that goes on is greater. -/
theorem GoesOnBelowSlash.lt (goesOn : GoesOnBelowSlash name other) : name < other := by
  obtain ⟨next, rest, shape, _⟩ := goesOn
  have longer : name.toList ++ [] < name.toList ++ next :: rest :=
    List.append_left_lt (List.nil_lt_cons next rest)
  rwa [List.append_nil, ← shape, ← String.lt_iff] at longer

/-- The text of a path is its first name, and a slash behind it if the path goes on. -/
theorem exists_tail_pathText (plain : ∀ part ∈ name :: below, PlainName part) :
    ∃ tail,
      (pathText (name :: below)).toList = name.toList ++ tail ∧
        (below = [] ∧ tail = [] ∨ below ≠ [] ∧ ∃ behind, tail = '/' :: behind) := by
  have nameAlone : pathText [name] = name := by
    simp [pathText, extendPath]
  by_cases ends : below = []
  · subst ends
    exact ⟨[], by rw [nameAlone, List.append_nil], Or.inl ⟨rfl, rfl⟩⟩
  · refine ⟨'/' :: (pathText below).toList, ?_, Or.inr ⟨ends, _, rfl⟩⟩
    rw [← List.singleton_append (x := name), pathText_append (List.cons_ne_nil name []) ends plain,
      nameAlone]
    simp

/--
Where two paths part, the one with the smaller name has the smaller text, unless
it goes on and the other name does so before the slash: the slash behind the
smaller name meets the character with which the other name goes on.
-/
theorem pathText_cons_lt_iff
    (plain : ∀ part ∈ name :: below, PlainName part)
    (otherPlain : ∀ part ∈ other :: otherBelow, PlainName part) (smaller : name < other) :
    pathText (name :: below) < pathText (other :: otherBelow) ↔
      below = [] ∨ ¬ GoesOnBelowSlash name other := by
  obtain ⟨tail, text, tailShape⟩ := exists_tail_pathText plain
  obtain ⟨otherTail, otherText, _⟩ := exists_tail_pathText otherPlain
  rw [String.lt_iff, text, otherText]
  rcases exists_parting_of_lt (String.lt_iff.mp smaller) with
      ⟨rest, nonempty, shape⟩ | ⟨front, item, greater, rest, greaterRest, shape, otherShape, lower⟩
  · obtain ⟨next, later, rfl⟩ := List.exists_cons_of_ne_nil nonempty
    have goesOnIff : GoesOnBelowSlash name other ↔ next < '/' := by
      constructor
      · rintro ⟨_, _, sameShape, low⟩
        rw [shape] at sameShape
        cases List.append_cancel_left sameShape
        exact low
      · exact fun low => ⟨next, later, shape, low⟩
    have notSlash : next ≠ '/' := by
      rintro rfl
      exact (otherPlain other List.mem_cons_self).noSlash (by simp [shape])
    rw [shape, List.append_assoc, append_lt_append_iff, List.cons_append, goesOnIff]
    rcases tailShape with ⟨ends, rfl⟩ | ⟨goesOn, behind, rfl⟩
    · simp [ends]
    · have slashFirst : '/' < next ↔ ¬ next < '/' := by
        grind
      simp [List.cons_lt_cons_iff, goesOn, notSlash.symm, slashFirst]
  · have notGoingOn : ¬ GoesOnBelowSlash name other := by
      rintro ⟨next, later, sameShape, _⟩
      rw [shape, otherShape, List.append_assoc] at sameShape
      cases List.append_cancel_left sameShape
      exact Char.lt_irrefl _ lower
    simp only [notGoingOn, not_false_eq_true, or_true, iff_true]
    rw [shape, otherShape, List.append_assoc, List.append_assoc, append_lt_append_iff]
    exact List.cons_lt_cons_iff.mpr (Or.inl lower)

/-- The names in front of the place where two paths part make no difference. -/
theorem pathText_append_lt_iff
    {place : List String}
    (plain : ∀ part ∈ place ++ name :: below, PlainName part)
    (otherPlain : ∀ part ∈ place ++ other :: otherBelow, PlainName part) (smaller : name < other) :
    pathText (place ++ name :: below) < pathText (place ++ other :: otherBelow) ↔
      below = [] ∨ ¬ GoesOnBelowSlash name other := by
  have fromName :=
    pathText_cons_lt_iff (fun part member => plain part (List.mem_append_right place member))
      (fun part member => otherPlain part (List.mem_append_right place member)) smaller
  by_cases atRoot : place = []
  · rw [atRoot, List.nil_append, List.nil_append, fromName]
  · rw [pathText_append atRoot (List.cons_ne_nil _ _) plain,
      pathText_append atRoot (List.cons_ne_nil _ _) otherPlain, String.lt_iff, ← fromName,
      String.lt_iff]
    simp only [String.toList_append, append_lt_append_iff]

end Texts

namespace Tree

/--
Beside a directory stands an entry whose name goes on behind that of the
directory below the slash.
-/
def Overtakes (tree : Tree) (place : List String) (directory name : String) : Prop :=
  tree.HasDirectory (place ++ [directory]) ∧
    (∃ entry, tree.lookup? (place ++ [name]) = some entry) ∧ GoesOnBelowSlash directory name

/-- An entry stands on the way to every file. -/
theorem HasFile.exists_entry
    {tree : Tree} {place below : List String} {name contents : String}
    (file : tree.HasFile (place ++ name :: below) contents) :
    ∃ entry, tree.lookup? (place ++ [name]) = some entry := by
  cases below with
  | nil =>
      exact ⟨_, file⟩
  | cons next later =>
      have onTheWay : ProperPrefix (place ++ [name]) (place ++ name :: next :: later) :=
        properPrefix_iff_append.mpr ⟨next :: later, by simp, by simp⟩
      obtain ⟨children, directory⟩ := hasDirectory_of_lookup? file (by simp) onTheWay
      exact ⟨_, directory⟩

namespace WellFormed

variable {tree : Tree} (wellFormed : tree.WellFormed)

include wellFormed

/-- Where no name overtakes a directory, texts are in the order of the names that lead to files. -/
theorem pathText_lt_of_not_overtakes
    (noneOvertakes : ∀ place directory name, ¬ tree.Overtakes place directory name)
    {names otherNames : List String} {contents text : String}
    (file : tree.HasFile names contents) (otherFile : tree.HasFile otherNames text)
    (smaller : names < otherNames) :
    pathText names < pathText otherNames := by
  rcases exists_parting_of_lt smaller with
      ⟨below, nonempty, rfl⟩ | ⟨place, name, other, below, otherBelow, rfl, rfl, lower⟩
  · have nothing := file.lookup?_below (properPrefix_iff_append.mpr ⟨below, nonempty, rfl⟩)
    rw [HasFile, nothing] at otherFile
    contradiction
  · rw [pathText_append_lt_iff (wellFormed.plain file) (wellFormed.plain otherFile) lower]
    by_cases ends : below = []
    · exact Or.inl ends
    · right
      intro goesOn
      have onTheWay : ProperPrefix (place ++ [name]) (place ++ name :: below) :=
        properPrefix_iff_append.mpr ⟨below, ends, by simp⟩
      exact noneOvertakes place name other
        ⟨hasDirectory_of_lookup? file (by simp) onTheWay, otherFile.exists_entry, goesOn⟩

/-- Below a directory that is overtaken stands a file that is listed earlier under a later text. -/
theorem exists_files_of_overtakes
    {place : List String} {directory name : String}
    (overtakes : tree.Overtakes place directory name) :
    ∃ names otherNames contents text,
      tree.HasFile names contents ∧ tree.HasFile otherNames text ∧ names < otherNames ∧
        ¬ pathText names < pathText otherNames := by
  obtain ⟨isDirectory, ⟨entry, found⟩, goesOn⟩ := overtakes
  obtain ⟨below, contents, nonempty, file⟩ := wellFormed.populated isDirectory
  obtain ⟨otherBelow, text, otherFile⟩ := wellFormed.exists_file_of_lookup? found
  rw [List.append_assoc, List.singleton_append] at file otherFile
  refine ⟨_, _, contents, text, file, otherFile, ?_, ?_⟩
  · exact List.append_left_lt (List.cons_lt_cons_iff.mpr (Or.inl goesOn.lt))
  · rw [pathText_append_lt_iff (wellFormed.plain file) (wellFormed.plain otherFile) goesOn.lt]
    simp [nonempty, goesOn]

/-- The texts of a listing ascend exactly where no name overtakes a directory. -/
theorem pathTexts_pairwise_iff :
    (tree.leaves []).Pairwise (fun first second => pathText first.1 < pathText second.1) ↔
      ∀ place directory name, ¬ tree.Overtakes place directory name := by
  have ascending := wellFormed.ordered.leaves_pairwise []
  constructor
  · intro textsAscend place directory name overtakes
    obtain ⟨names, otherNames, contents, text, file, otherFile, smaller, notAscending⟩ :=
      wellFormed.exists_files_of_overtakes overtakes
    have listed := wellFormed.mem_leaves_iff.mpr file
    have otherListed := wellFormed.mem_leaves_iff.mpr otherFile
    have asymmetric :
        ∀ first second : List String × String, first.1 < second.1 → ¬ second.1 < first.1 :=
      fun _ _ => List.lt_asymm
    exact notAscending
      (rel_of_pairwise asymmetric ascending textsAscend listed otherListed smaller)
  · intro noneOvertakes
    refine ascending.imp_of_mem fun firstMember secondMember smaller => ?_
    exact wellFormed.pathText_lt_of_not_overtakes noneOvertakes
      (wellFormed.mem_leaves_iff.mp firstMember) (wellFormed.mem_leaves_iff.mp secondMember) smaller

end WellFormed

/--
A tree that is built from empty ones by insertions and merges lists its files in
ascending order of the names that lead to them, name by name, each under these
names joined by slashes.  As whole texts these paths ascend exactly if beside no
directory stands an entry whose name goes on behind that of the directory with a
character smaller than the slash.
-/
theorem listing_ascends_name_by_name {tree : Tree} (built : tree.Built) :
    (tree.leaves []).Pairwise
      (fun first second => first.1.map Text.bytes < second.1.map Text.bytes) ∧
    tree.files =
      (tree.leaves []).map (fun leaf => (String.intercalate "/" leaf.1, leaf.2)) ∧
    ((tree.files.map Prod.fst).Pairwise
        (fun first second => Text.bytes first < Text.bytes second) ↔
      ∀ place directory name, ¬ tree.Overtakes place directory name) := by
  have wellFormed := built.wellFormed
  refine ⟨(wellFormed.ordered.leaves_pairwise []).imp (List.map_lt fun _ _ => Text.bytes_lt),
    ?_, ?_⟩
  · rw [files]
    apply List.map_congr_left
    rintro ⟨names, contents⟩ member
    have plain := wellFormed.plain (wellFormed.mem_leaves_iff.mp member)
    rw [pathText_eq_intercalate fun name inNames => (plain name inNames).notEmpty]
  · rw [← wellFormed.pathTexts_pairwise_iff, files, List.map_map, List.pairwise_map]
    simp only [Function.comp_apply, Text.bytes_lt_iff]

/-- A directory `a` beside a file whose name goes on behind its own with a hyphen. -/
def hyphenBesideDirectory : Tree :=
  ofWrites [("a/x", "one"), ("a-b", "two")]

/-- A hyphen is smaller than a slash, so the paths do not ascend here. -/
theorem hyphenBesideDirectory_listing :
    hyphenBesideDirectory.Built ∧
      hyphenBesideDirectory.files = [("a/x", "one"), ("a-b", "two")] ∧
      hyphenBesideDirectory.Overtakes [] "a" "a-b" ∧
      ¬ (hyphenBesideDirectory.files.map Prod.fst).Pairwise
        (fun first second => Text.bytes first < Text.bytes second) := by
  have built : hyphenBesideDirectory.Built := Built.empty.final _
  have overtakes : hyphenBesideDirectory.Overtakes [] "a" "a-b" :=
    ⟨by decide +kernel, ⟨.file "two", by decide +kernel⟩, '-', ['b'], rfl, by decide⟩
  refine ⟨built, by decide +kernel, overtakes, ?_⟩
  rw [(listing_ascends_name_by_name built).2.2]
  exact fun noneOvertakes => noneOvertakes [] "a" "a-b" overtakes

/-- The paths of a listing, as texts, need not ascend. -/
theorem listed_paths_not_ascending :
    ¬ ∀ tree : Tree, tree.Built →
        (tree.files.map Prod.fst).Pairwise
          (fun first second => Text.bytes first < Text.bytes second) := by
  intro ascending
  have built : hyphenBesideDirectory.Built := Built.empty.final _
  exact absurd (ascending _ built) (by decide +kernel)

end Tree

end Tangle
