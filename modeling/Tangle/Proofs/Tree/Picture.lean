import Mathlib.Data.List.Basic
import Tangle.Proofs.Text.Lines
import Tangle.Proofs.Text.Runs
import Tangle.Proofs.Tree.WellFormed

namespace Tangle

/-!
# The picture of a tree

A picture has one line for every entry at every level, and shows of an entry how
deep it stands, its name, and whether it is a directory.  Plain names start with
no blank and hold no slash, so a line without a line feed in it can be read
again; and with the lines the whole tree can, but for the contents of its files.
-/

/-- Where an entry of a tree stands, at whatever level, and whether it is a directory. -/
structure PlacedName where
  place : List String
  name : String
  isDirectory : Bool
  deriving Repr, DecidableEq

/-- What a line of a picture shows. -/
structure PictureLine where
  level : Nat
  name : String
  isDirectory : Bool
  deriving Repr, DecidableEq

namespace PictureLine

/-- A line as it is drawn: two blanks for each level, and a slash behind a directory. -/
def text (line : PictureLine) : List Char :=
  List.replicate (2 * line.level) ' ' ++
    (line.name.toList ++ if line.isDirectory then ['/'] else [])

/-- What a drawn line shows. -/
def ofText (text : List Char) : PictureLine :=
  let shown := text.dropWhile (· == ' ')
  ⟨(text.takeWhile (· == ' ')).length / 2, String.ofList (shown.takeWhile (· != '/')),
    shown.contains '/'⟩

/-- A line with a plain name can be read again. -/
theorem ofText_text {line : PictureLine} (plain : PlainName line.name) :
    ofText line.text = line := by
  obtain ⟨level, name, isDirectory⟩ := line
  have noSlash : ∀ character ∈ name.toList, (character != '/') = true := by
    intro character member
    rw [bne_iff_ne]
    rintro rfl
    exact plain.noSlash member
  have ends :
      (name.toList ++ if isDirectory then ['/'] else []).head? ≠ some ' ' := by
    intro startsBlank
    have nonempty : name.toList ≠ [] :=
      fun empty => plain.notEmpty (String.toList_eq_nil_iff.mp empty)
    rw [List.head?_append_of_ne_nil _ nonempty] at startsBlank
    have kept := plain.noBlankFirst ' ' startsBlank
    rw [Text.isBlank_space] at kept
    contradiction
  rw [ofText, text, Text.takeWhile_signs ends, Text.dropWhile_signs ends,
    List.takeWhile_append_of_pos noSlash]
  cases isDirectory <;> simp [plain.noSlash]

end PictureLine

namespace PlacedName

/-- All names that lead to an entry. -/
def names (placed : PlacedName) : List String :=
  placed.place ++ [placed.name]

/-- The line that shows an entry. -/
def line (placed : PlacedName) : PictureLine :=
  ⟨placed.place.length, placed.name, placed.isDirectory⟩

/-- A placed name is told by the names that lead to it and by its kind. -/
theorem eq_of_names_eq
    {placed other : PlacedName} (sameNames : placed.names = other.names)
    (sameKind : placed.isDirectory = other.isDirectory) :
    placed = other := by
  obtain ⟨samePlace, sameName⟩ := List.append_inj' sameNames rfl
  obtain ⟨place, name, isDirectory⟩ := placed
  cases samePlace
  cases sameName
  cases sameKind
  rfl

end PlacedName

namespace Entry

/-- What following names on from an entry ends at. -/
def reach : List String → Entry → Option Entry
  | [], entry => some entry
  | _ :: _, .file _ => none
  | name :: below, .directory children => children.lookup? (name :: below)

end Entry

namespace Tree

/-- Where all entries of a tree stand; a directory comes in front of what it holds. -/
def layout (place : List String) : Tree → List PlacedName
  | .empty => []
  | .file name _ rest => ⟨place, name, false⟩ :: layout place rest
  | .directory name children rest =>
      ⟨place, name, true⟩ :: (layout (place ++ [name]) children ++ layout place rest)

end Tree

/-- Where all entries below an entry stand that stands at a place itself. -/
def Entry.layout (place : List String) : Entry → List PlacedName
  | .file _ => []
  | .directory children => children.layout place

namespace Tree

/-- The first entry is laid out, then what is inside it, then the rest. -/
theorem layout_before (place : List String) (name : String) (entry : Entry) (rest : Tree) :
    (entry.before name rest).layout place =
      ⟨place, name, entry.isDirectory⟩ ::
        (entry.layout (place ++ [name]) ++ rest.layout place) := by
  cases entry <;> rfl

/-- The lines of a picture show the entries in the order in which they stand. -/
theorem renderAt_toList (place : List String) (tree : Tree) :
    (tree.renderAt place.length).toList =
      Text.ended ((tree.layout place).map fun placed => placed.line.text) := by
  induction tree generalizing place with
  | empty =>
      rfl
  | file name contents rest inRest =>
      simp [renderAt, margin, layout, Text.ended, PictureLine.text, PlacedName.line, inRest]
  | directory name children rest inChildren inRest =>
      have deeper := inChildren (place ++ [name])
      rw [List.length_append, List.length_singleton] at deeper
      simp [renderAt, margin, layout, Text.ended, PictureLine.text, PlacedName.line, inRest, deeper]

/-- Names are looked up in the entry that the first one leads to. -/
theorem lookup?_cons_eq (name : String) (below : List String) (tree : Tree) :
    tree.lookup? (name :: below) = (tree.find? name).bind (Entry.reach below) := by
  cases below with
  | nil =>
      rw [lookup?_singleton]
      cases tree.find? name <;> rfl
  | cons next later =>
      rw [lookup?]
      cases tree.find? name with
      | none =>
          rfl
      | some entry =>
          cases entry <;> rfl

/-- What is found in a tree stands under its first entry or among the others. -/
theorem lookup?_before_eq_some_iff
    {name : String} {entry found : Entry} {rest : Tree} {names : List String}
    (onlyOnce : rest.find? name = none) :
    (entry.before name rest).lookup? names = some found ↔
      (∃ below, names = name :: below ∧ entry.reach below = some found) ∨
        rest.lookup? names = some found := by
  cases names with
  | nil =>
      simp
  | cons first below =>
      rw [lookup?_cons_eq, lookup?_cons_eq]
      by_cases same : first = name
      · subst first
        simp [onlyOnce]
      · simp [find?_before_of_ne (Ne.symm same), same]

/-- A layout holds every entry of a tree, at every level, and nothing else. -/
def LaidOut (tree : Tree) : Prop :=
  ∀ {place : List String} {placed : PlacedName},
    placed ∈ tree.layout place ↔
      ∃ below entry, placed.names = place ++ below ∧ tree.lookup? below = some entry ∧
        entry.isDirectory = placed.isDirectory

/-- Of one entry, the entry itself and all below it are laid out. -/
theorem mem_layout_under
    {entry : Entry} (inDirectory : ∀ children, entry = .directory children → children.LaidOut)
    {place : List String} {name : String} {placed : PlacedName} :
    placed = ⟨place, name, entry.isDirectory⟩ ∨ placed ∈ entry.layout (place ++ [name]) ↔
      ∃ below found, placed.names = place ++ name :: below ∧ entry.reach below = some found ∧
        found.isDirectory = placed.isDirectory := by
  constructor
  · rintro (rfl | inside)
    · exact ⟨[], entry, rfl, rfl, rfl⟩
    · cases entry with
      | file contents =>
          contradiction
      | directory children =>
          obtain ⟨below, found, leads, isFound, sameKind⟩ := (inDirectory children rfl).mp inside
          cases below with
          | nil => simp at isFound
          | cons next later =>
              exact ⟨next :: later, found, by simpa using leads, isFound, sameKind⟩
  · rintro ⟨below, found, leads, isFound, sameKind⟩
    cases below with
    | nil =>
        cases isFound
        exact Or.inl (PlacedName.eq_of_names_eq leads sameKind.symm)
    | cons next later =>
        cases entry with
        | file contents =>
            contradiction
        | directory children =>
            right
            exact (inDirectory children rfl).mpr
              ⟨next :: later, found, by simpa using leads, isFound, sameKind⟩

/-- The layout of an ordered tree holds its entries and nothing else. -/
theorem Ordered.laidOut {tree : Tree} (ordered : tree.Ordered) : tree.LaidOut := by
  induction tree using entryInduction with
  | empty =>
      intro place placed
      simp [layout]
  | before name entry rest inDirectory inRest =>
      intro place placed
      obtain ⟨smaller, entryOrdered, restOrdered⟩ := ordered_before.mp ordered
      have laidOutBelow : ∀ children, entry = .directory children → children.LaidOut := by
        rintro children rfl
        exact inDirectory children rfl entryOrdered
      rw [layout_before, List.mem_cons, List.mem_append, ← or_assoc, mem_layout_under laidOutBelow,
        inRest restOrdered]
      simp only [lookup?_before_eq_some_iff (find?_eq_none_of_lt smaller)]
      constructor
      · rintro (⟨below, found, leads, isFound, sameKind⟩ | ⟨below, found, leads, isFound, sameKind⟩)
        · exact ⟨name :: below, found, leads, Or.inl ⟨below, rfl, isFound⟩, sameKind⟩
        · exact ⟨below, found, leads, Or.inr isFound, sameKind⟩
      · rintro ⟨_, found, leads, ⟨below, rfl, isFound⟩ | isFound, sameKind⟩
        · exact Or.inl ⟨below, found, leads, isFound, sameKind⟩
        · exact Or.inr ⟨_, found, leads, isFound, sameKind⟩

/-- What stands below an entry has longer names than the entry. -/
theorem names_of_mem_layout_under
    {entry : Entry} (ordered : entry.Ordered) {place : List String} {name : String}
    {placed : PlacedName} (member : placed ∈ entry.layout (place ++ [name])) :
    ∃ next later, placed.names = place ++ name :: next :: later := by
  cases entry with
  | file contents =>
      contradiction
  | directory children =>
      obtain ⟨below, found, leads, isFound, _⟩ := (Ordered.laidOut ordered).mp member
      cases below with
      | nil => simp at isFound
      | cons next later => exact ⟨next, later, by simpa using leads⟩

/-- What stands behind an entry has, at its place, a greater name. -/
theorem names_of_mem_layout_behind
    {rest : Tree} (ordered : rest.Ordered) {name : String}
    (smaller : ∀ later ∈ rest.names, name < later) {place : List String} {placed : PlacedName}
    (member : placed ∈ rest.layout place) :
    ∃ later deeper, name < later ∧ placed.names = place ++ later :: deeper := by
  obtain ⟨below, found, leads, isFound, _⟩ := ordered.laidOut.mp member
  cases below with
  | nil => simp at isFound
  | cons later deeper =>
      rw [lookup?_cons_eq] at isFound
      obtain ⟨entry, isEntry, _⟩ := Option.bind_eq_some_iff.mp isFound
      exact ⟨later, deeper, smaller later (mem_names_iff.mpr ⟨entry, isEntry⟩), leads⟩

/-- The layout of an ordered tree is in ascending order of the names that lead to entries. -/
theorem Ordered.layout_pairwise
    {tree : Tree} (ordered : tree.Ordered) (place : List String) :
    (tree.layout place).Pairwise fun first second => first.names < second.names := by
  induction tree using entryInduction generalizing place with
  | empty =>
      exact .nil
  | before name entry rest inDirectory inRest =>
      obtain ⟨smaller, entryOrdered, restOrdered⟩ := ordered_before.mp ordered
      rw [layout_before, List.pairwise_cons, List.pairwise_append]
      refine ⟨?_, ?_, inRest restOrdered place, ?_⟩
      · intro placed member
        rw [PlacedName.names]
        rcases List.mem_append.mp member with inside | behind
        · obtain ⟨next, later, leads⟩ := names_of_mem_layout_under entryOrdered inside
          rw [leads]
          exact List.append_left_lt
            (List.cons_lt_cons_iff.mpr (Or.inr ⟨rfl, List.nil_lt_cons next later⟩))
        · obtain ⟨later, deeper, greater, leads⟩ :=
            names_of_mem_layout_behind restOrdered smaller behind
          rw [leads]
          exact List.append_left_lt (List.cons_lt_cons_iff.mpr (Or.inl greater))
      · cases entry with
        | file contents => exact .nil
        | directory children => exact inDirectory children rfl entryOrdered _
      · intro first firstInside second secondBehind
        obtain ⟨next, later, leads⟩ := names_of_mem_layout_under entryOrdered firstInside
        obtain ⟨greaterName, deeper, greater, secondLeads⟩ :=
          names_of_mem_layout_behind restOrdered smaller secondBehind
        rw [leads, secondLeads]
        exact List.append_left_lt (List.cons_lt_cons_iff.mpr (Or.inl greater))

/-! ## Reading a layout off its lines -/

section Lines

variable {place : List String} {behind otherBehind : List PictureLine}

/-- The lines behind a directory start further out than what is below the directory. -/
theorem level_lt_of_head?
    (shallower : ∀ line ∈ behind.head?, line.level < place.length) (tree : Tree) (name : String) :
    ∀ line ∈ ((tree.layout place).map PlacedName.line ++ behind).head?,
      line.level < (place ++ [name]).length := by
  have deeper : place.length < (place ++ [name]).length := by
    rw [List.length_append]
    exact Nat.lt_succ_self _
  cases tree with
  | empty =>
      exact fun line member => Nat.lt_trans (shallower line member) deeper
  | file otherName contents rest =>
      rintro _ ⟨⟩
      exact deeper
  | directory otherName children rest =>
      rintro _ ⟨⟩
      exact deeper

/-- Where the lines of a tree start with a line further out, the tree has no line. -/
theorem eq_empty_of_shallower
    {tree : Tree} (shallower : ∀ line ∈ behind.head?, line.level < place.length)
    (same : behind = (tree.layout place).map PlacedName.line ++ otherBehind) :
    tree = .empty := by
  cases tree with
  | empty =>
      rfl
  | file name contents rest =>
      have level := shallower ⟨place.length, name, false⟩ (by rw [same]; rfl)
      exact absurd level (Nat.lt_irrefl _)
  | directory name children rest =>
      have level := shallower ⟨place.length, name, true⟩ (by rw [same]; rfl)
      exact absurd level (Nat.lt_irrefl _)

/--
The lines of a tree, up to the first line further out, tell where its entries
stand: what is below a directory are the lines further in that follow it.
-/
theorem layout_unique
    {first second : Tree}
    (shallower : ∀ line ∈ behind.head?, line.level < place.length)
    (otherShallower : ∀ line ∈ otherBehind.head?, line.level < place.length)
    (same :
      (first.layout place).map PlacedName.line ++ behind =
        (second.layout place).map PlacedName.line ++ otherBehind) :
    first.layout place = second.layout place ∧ behind = otherBehind := by
  induction first generalizing second place behind otherBehind with
  | empty =>
      cases eq_empty_of_shallower shallower same
      exact ⟨rfl, same⟩
  | file name contents rest inRest =>
      cases second with
      | empty =>
          have noLine := eq_empty_of_shallower otherShallower same.symm
          contradiction
      | file otherName otherContents otherRest =>
          simp only [layout, List.map_cons, List.cons_append, List.cons.injEq, PlacedName.line,
            PictureLine.mk.injEq] at same
          obtain ⟨⟨_, sameName, _⟩, sameRest⟩ := same
          obtain ⟨sameLayout, sameBehind⟩ := inRest shallower otherShallower sameRest
          exact ⟨by rw [layout, layout, sameName, sameLayout], sameBehind⟩
      | directory otherName otherChildren otherRest =>
          simp [layout, PlacedName.line] at same
  | directory name children rest inChildren inRest =>
      cases second with
      | empty =>
          have noLine := eq_empty_of_shallower otherShallower same.symm
          contradiction
      | file otherName otherContents otherRest =>
          simp [layout, PlacedName.line] at same
      | directory otherName otherChildren otherRest =>
          simp only [layout, List.map_cons, List.map_append, List.cons_append, List.append_assoc,
            List.cons.injEq, PlacedName.line, PictureLine.mk.injEq] at same
          obtain ⟨⟨_, sameName, _⟩, sameInside⟩ := same
          subst otherName
          obtain ⟨sameChildren, sameLater⟩ :=
            inChildren (level_lt_of_head? shallower rest name)
              (level_lt_of_head? otherShallower otherRest name) sameInside
          obtain ⟨sameLayout, sameBehind⟩ := inRest shallower otherShallower sameLater
          exact ⟨by rw [layout, layout, sameChildren, sameLayout], sameBehind⟩

end Lines

/-- No name in a tree, at whatever level, holds a line feed. -/
def OneLineNames (tree : Tree) : Prop :=
  ∀ place name entry, tree.lookup? (place ++ [name]) = some entry → '\n' ∉ name.toList

/-- Two trees have the same directories, and files at the same places, whatever these hold. -/
structure SameShape (first second : Tree) : Prop where
  directories : ∀ names, first.HasDirectory names ↔ second.HasDirectory names
  files :
    ∀ names,
      (∃ contents, first.HasFile names contents) ↔ ∃ contents, second.HasFile names contents

section Ordered

variable {tree : Tree} (ordered : tree.Ordered)

include ordered

/-- A name is laid out where an entry of its kind is found. -/
theorem Ordered.mem_layout_iff_lookup? {placed : PlacedName} :
    placed ∈ tree.layout [] ↔
      ∃ entry, tree.lookup? placed.names = some entry ∧
        entry.isDirectory = placed.isDirectory := by
  rw [ordered.laidOut]
  simp

/-- So the directories laid out are those of the tree. -/
theorem Ordered.mem_layout_iff_hasDirectory {place : List String} {name : String} :
    ⟨place, name, true⟩ ∈ tree.layout [] ↔ tree.HasDirectory (place ++ [name]) := by
  rw [ordered.mem_layout_iff_lookup?]
  constructor
  · rintro ⟨entry, found, isDirectory⟩
    cases entry with
    | file contents => contradiction
    | directory children => exact ⟨children, found⟩
  · rintro ⟨children, found⟩
    exact ⟨.directory children, found, rfl⟩

/-- And so are the files. -/
theorem Ordered.mem_layout_iff_hasFile {place : List String} {name : String} :
    ⟨place, name, false⟩ ∈ tree.layout [] ↔
      ∃ contents, tree.HasFile (place ++ [name]) contents := by
  rw [ordered.mem_layout_iff_lookup?]
  constructor
  · rintro ⟨entry, found, isFile⟩
    cases entry with
    | file contents => exact ⟨contents, found⟩
    | directory children => contradiction
  · rintro ⟨contents, found⟩
    exact ⟨.file contents, found, rfl⟩

/-- All names are on one line exactly if those laid out are. -/
theorem Ordered.oneLineNames_iff :
    tree.OneLineNames ↔ ∀ placed ∈ tree.layout [], '\n' ∉ placed.name.toList := by
  constructor
  · intro oneLine placed member
    obtain ⟨entry, found, _⟩ := ordered.mem_layout_iff_lookup?.mp member
    exact oneLine placed.place placed.name entry found
  · intro oneLine place name entry found
    exact oneLine ⟨place, name, entry.isDirectory⟩
      (ordered.mem_layout_iff_lookup?.mpr ⟨entry, found, rfl⟩)

/-- The places of the entries and their kinds are all there is to the shape of a tree. -/
theorem Ordered.sameShape_iff {other : Tree} (otherOrdered : other.Ordered) :
    tree.SameShape other ↔ tree.layout [] = other.layout [] := by
  constructor
  · intro sameShape
    refine eq_of_ascending (ordered.layout_pairwise []) (otherOrdered.layout_pairwise []) ?_
    rintro ⟨place, name, _ | _⟩
    · rw [ordered.mem_layout_iff_hasFile, otherOrdered.mem_layout_iff_hasFile, sameShape.files]
    · rw [ordered.mem_layout_iff_hasDirectory, otherOrdered.mem_layout_iff_hasDirectory,
        sameShape.directories]
  · intro sameLayout
    constructor <;> intro names <;> obtain rfl | ⟨place, name, rfl⟩ := names.eq_nil_or_concat'
    · simp
    · rw [← ordered.mem_layout_iff_hasDirectory, sameLayout,
        otherOrdered.mem_layout_iff_hasDirectory]
    · simp
    · rw [← ordered.mem_layout_iff_hasFile, sameLayout, otherOrdered.mem_layout_iff_hasFile]

end Ordered

/-- The picture has a line for each name that is laid out. -/
theorem render_toList (tree : Tree) :
    tree.render.toList = Text.ended ((tree.layout []).map fun placed => placed.line.text) :=
  renderAt_toList [] tree

namespace WellFormed

variable {tree : Tree} (wellFormed : tree.WellFormed)

include wellFormed

/-- The names laid out for a well formed tree are plain. -/
theorem plainName_of_mem_layout
    {placed : PlacedName} (member : placed ∈ tree.layout []) : PlainName placed.name := by
  obtain ⟨entry, found, _⟩ := wellFormed.ordered.mem_layout_iff_lookup?.mp member
  exact wellFormed.plainName_of_lookup? found (List.mem_append_right _ (List.mem_singleton_self _))

/-- The lines of a picture can all be read again. -/
theorem map_ofText_layout :
    ((tree.layout []).map fun placed => placed.line.text).map PictureLine.ofText =
      (tree.layout []).map PlacedName.line := by
  rw [List.map_map]
  exact List.map_congr_left fun placed member =>
    PictureLine.ofText_text (wellFormed.plainName_of_mem_layout member)

/-- Without line feeds in names, the lines of a picture show one entry each. -/
theorem splitOn_render (oneLine : tree.OneLineNames) :
    tree.render.toList.splitOn '\n' =
      (tree.layout []).map (fun placed => placed.line.text) ++ [[]] := by
  rw [render_toList, Text.splitOn_ended_eq_iff]
  intro text member
  obtain ⟨placed, inLayout, rfl⟩ := List.mem_map.mp member
  have inName := wellFormed.ordered.oneLineNames_iff.mp oneLine placed inLayout
  cases isDirectory : placed.isDirectory <;>
    simp [PictureLine.text, PlacedName.line, isDirectory, inName]

/-- Pictures on whole lines are the same exactly if the trees are laid out alike. -/
theorem render_eq_iff
    (oneLine : tree.OneLineNames) {other : Tree} (otherWellFormed : other.WellFormed)
    (otherOneLine : other.OneLineNames) :
    tree.render = other.render ↔ tree.layout [] = other.layout [] := by
  constructor
  · intro samePicture
    have sameTexts :
        ((tree.layout []).map fun placed => placed.line.text) =
          (other.layout []).map fun placed => placed.line.text := by
      have split := wellFormed.splitOn_render oneLine
      rw [samePicture, otherWellFormed.splitOn_render otherOneLine] at split
      exact (List.append_cancel_right split).symm
    have sameLines :
        (tree.layout []).map PlacedName.line = (other.layout []).map PlacedName.line := by
      rw [← wellFormed.map_ofText_layout, sameTexts, otherWellFormed.map_ofText_layout]
    have noLine : ∀ line ∈ ([] : List PictureLine).head?, line.level < ([] : List String).length :=
      fun line member => by simp at member
    exact (layout_unique noLine noLine (by rw [sameLines])).1
  · intro sameLayout
    rw [← String.toList_inj, render_toList, render_toList, sameLayout]

end WellFormed

/--
The pictures of two trees that are built from empty ones by insertions and merges
are equal exactly if the trees have the same directories and files at the same
places.  The picture of such a tree has a line for each of its entries, at every
level, and no other line: it shows the entries in the order of the names that
lead to them.
-/
theorem picture_tells_shape
    {first second : Tree} (firstBuilt : first.Built) (secondBuilt : second.Built)
    (firstNames : first.OneLineNames) (secondNames : second.OneLineNames) :
    (first.render = second.render ↔ first.SameShape second) ∧
    first.render.toList.splitOn '\n' =
      (first.layout []).map (fun placed => placed.line.text) ++ [[]] ∧
    (∀ placed : PlacedName,
      placed ∈ first.layout [] ↔
        ∃ entry, first.lookup? placed.names = some entry ∧
          entry.isDirectory = placed.isDirectory) ∧
    (first.layout []).Pairwise (fun placed later => placed.names < later.names) := by
  have firstWellFormed := firstBuilt.wellFormed
  have secondWellFormed := secondBuilt.wellFormed
  refine ⟨?_, firstWellFormed.splitOn_render firstNames,
    fun _ => firstWellFormed.ordered.mem_layout_iff_lookup?,
    firstWellFormed.ordered.layout_pairwise []⟩
  rw [firstWellFormed.ordered.sameShape_iff secondWellFormed.ordered,
    firstWellFormed.render_eq_iff firstNames secondWellFormed secondNames]

/-- A directory with a file in it and a file behind the directory, written in this order. -/
def fileBehindDirectory : Tree :=
  ofWrites [("d/x", "one"), ("e", "two")]

/-- Files at the same places, with other contents and written the other way round. -/
def fileBehindDirectoryAgain : Tree :=
  ofWrites [("e", "three"), ("d/x", "")]

/-- Their picture is the same, and so is their shape. -/
theorem fileBehindDirectory_picture :
    fileBehindDirectory.render = "d/\n  x\ne\n" ∧
      (fileBehindDirectory.render = fileBehindDirectoryAgain.render ↔
        fileBehindDirectory.SameShape fileBehindDirectoryAgain) := by
  have built : fileBehindDirectory.Built := Built.empty.final _
  have builtAgain : fileBehindDirectoryAgain.Built := Built.empty.final _
  exact ⟨by decide +kernel,
    (picture_tells_shape built builtAgain
      (built.wellFormed.ordered.oneLineNames_iff.mpr (by decide +kernel))
      (builtAgain.wellFormed.ordered.oneLineNames_iff.mpr (by decide +kernel))).1⟩

end Tree

end Tangle
