import Tangle.Proofs.Tree.Leaves
import Tangle.Tree.Merge

namespace Tangle

/-!
# What merging does to two trees

Merging goes through the entries of the second tree one after another.  Under
each name the first tree keeps what it has, two directories become one, and
what cannot be one is reported.  From this follows what is found by following
names: a file of the second tree comes in unless the first tree leaves no room
for it, and then a conflict is reported at a place on the way to it.
-/

namespace Tree

/-- No room is left for a file at a path: something stands there, or a file on the way. -/
def Occupied (tree : Tree) (names : List String) : Prop :=
  tree.HasDirectory names ∨ ∃ front text, front <+: names ∧ tree.HasFile front text

/-- What is left of a tree when an entry has been settled under a name. -/
structure Settled (before : Tree) (name : String) (entry : Entry) (after : Tree) : Prop where
  found : after.find? name = some entry
  others : ∀ other, name ≠ other → after.find? other = before.find? other
  ordered : before.Ordered → entry.Ordered → after.Ordered

/-- An entry that is put under a name settles it. -/
theorem settled_set (tree : Tree) (name : String) (entry : Entry) :
    Settled tree name entry (tree.set name entry) where
  found := find?_set name entry tree
  others _ different := find?_set_of_ne different entry tree
  ordered treeOrdered entryOrdered := treeOrdered.set entryOrdered

/-- An entry that stands there already does so, too. -/
theorem settled_self
    {tree : Tree} {name : String} {entry : Entry} (found : tree.find? name = some entry) :
    Settled tree name entry tree where
  found := found
  others _ _ := rfl
  ordered treeOrdered _ := treeOrdered

end Tree

namespace Entry

/-- What stands under a name after merging, of two entries or of one. -/
def united (place : List String) : Option Entry → Entry → Entry
  | none, theirs => theirs
  | some (.directory present), .directory children =>
      .directory (Tree.mergeAt place present children).tree
  | some mine, _ => mine

/-- The conflicts of two entries that stand at one place, or of one. -/
def clashes (place : List String) : Option Entry → Entry → List Conflict
  | none, _ => []
  | some (.file present), .file contents =>
      if present = contents then [] else [.divergentFile place]
  | some (.directory present), .directory children =>
      (Tree.mergeAt place present children).conflicts
  | some _, _ => [.fileAndDirectory place]

/-- No room is left for a file reached by following names from an entry on. -/
def Occupied : Entry → List String → Prop
  | .file _, _ => True
  | .directory children, names => names = [] ∨ children.Occupied names

end Entry

namespace Tree

/--
Merging the first of some entries settles what stands under its name, reports
the clashes there, and goes on with the others.
-/
theorem mergeAt_before
    (place : List String) (mine : Tree) (name : String) (entry : Entry) (rest : Tree) :
    ∃ next,
      Settled mine name (Entry.united (place ++ [name]) (mine.find? name) entry) next ∧
      mergeAt place mine (entry.before name rest) =
        ⟨(mergeAt place next rest).tree,
          Entry.clashes (place ++ [name]) (mine.find? name) entry ++
            (mergeAt place next rest).conflicts⟩ := by
  cases entry with
  | file contents =>
      rw [Entry.before, mergeAt]
      cases found : mine.find? name with
      | none =>
          exact ⟨_, settled_set mine name _, rfl⟩
      | some present =>
          cases present with
          | file text =>
              refine ⟨mine, settled_self found, ?_⟩
              by_cases same : text = contents <;> simp [Entry.clashes, same]
          | directory children =>
              exact ⟨mine, settled_self found, rfl⟩
  | directory children =>
      rw [Entry.before, mergeAt]
      cases found : mine.find? name with
      | none =>
          exact ⟨_, settled_set mine name _, rfl⟩
      | some present =>
          cases present with
          | file text =>
              exact ⟨mine, settled_self found, rfl⟩
          | directory inner =>
              exact ⟨_, settled_set mine name _, rfl⟩

/-- Merging keeps trees ordered. -/
theorem Ordered.mergeAt
    {mine theirs : Tree} (mineOrdered : mine.Ordered) (theirsOrdered : theirs.Ordered)
    (place : List String) :
    (mergeAt place mine theirs).tree.Ordered := by
  induction theirs using entryInduction generalizing mine place with
  | empty =>
      exact mineOrdered
  | before name entry rest inDirectory inRest =>
      obtain ⟨_, entryOrdered, restOrdered⟩ := ordered_before.mp theirsOrdered
      obtain ⟨next, settled, merged⟩ := mergeAt_before place mine name entry rest
      have unitedOrdered :
          (Entry.united (place ++ [name]) (mine.find? name) entry).Ordered := by
        cases found : mine.find? name with
        | none =>
            exact entryOrdered
        | some present =>
            have presentOrdered : present.Ordered := mineOrdered.find? found
            cases present with
            | file text =>
                exact presentOrdered
            | directory inner =>
                cases entry with
                | file contents =>
                    exact presentOrdered
                | directory children =>
                    exact inDirectory children rfl presentOrdered entryOrdered _
      rw [merged]
      exact inRest (settled.ordered mineOrdered unitedOrdered) restOrdered place

/--
Under each name merging unites what the two trees have there.  What is settled
under the first name stays, since no other entry has that name.
-/
theorem find?_mergeAt
    {mine theirs : Tree} (theirsOrdered : theirs.Ordered) (place : List String) (name : String) :
    (mergeAt place mine theirs).tree.find? name =
      match theirs.find? name with
      | none => mine.find? name
      | some entry => some (Entry.united (place ++ [name]) (mine.find? name) entry) := by
  induction theirs using entryInduction generalizing mine with
  | empty =>
      rfl
  | before first entry rest _ inRest =>
      obtain ⟨smaller, _, restOrdered⟩ := ordered_before.mp theirsOrdered
      obtain ⟨next, settled, merged⟩ := mergeAt_before place mine first entry rest
      rw [merged, inRest restOrdered]
      by_cases same : first = name
      · subst first
        rw [find?_before, find?_eq_none_of_lt smaller]
        exact settled.found
      · rw [find?_before_of_ne same, settled.others name same]

/-- The conflicts of two trees are those under each name of the second. -/
theorem mem_conflicts_mergeAt
    {mine theirs : Tree} (theirsOrdered : theirs.Ordered) {place : List String}
    {conflict : Conflict} :
    conflict ∈ (mergeAt place mine theirs).conflicts ↔
      ∃ name entry, theirs.find? name = some entry ∧
        conflict ∈ Entry.clashes (place ++ [name]) (mine.find? name) entry := by
  induction theirs using entryInduction generalizing mine with
  | empty =>
      simp [mergeAt, find?]
  | before first entry rest _ inRest =>
      obtain ⟨smaller, _, restOrdered⟩ := ordered_before.mp theirsOrdered
      obtain ⟨next, settled, merged⟩ := mergeAt_before place mine first entry rest
      have onlyOnce : rest.find? first = none := find?_eq_none_of_lt smaller
      rw [merged, List.mem_append, inRest restOrdered]
      constructor
      · intro clash
        rcases clash with atFirst | ⟨name, other, found, clash⟩
        · exact ⟨first, entry, find?_before first entry rest, atFirst⟩
        · have different : first ≠ name := by
            intro same
            subst same
            simp [onlyOnce] at found
          rw [settled.others name different] at clash
          exact ⟨name, other, by rw [find?_before_of_ne different, found], clash⟩
      · intro clash
        obtain ⟨name, other, found, clash⟩ := clash
        by_cases same : first = name
        · subst first
          rw [find?_before] at found
          cases found
          exact Or.inl clash
        · rw [find?_before_of_ne same] at found
          rw [← settled.others name same] at clash
          exact Or.inr ⟨name, other, found, clash⟩

/-- Where a file is there is no room. -/
theorem HasFile.occupied
    {tree : Tree} {names : List String} {contents : String}
    (file : tree.HasFile names contents) :
    tree.Occupied names :=
  Or.inr ⟨names, contents, List.prefix_refl names, file⟩

/-- At the top there is always room. -/
theorem not_occupied_nil (tree : Tree) : ¬ tree.Occupied [] := by
  simp [Occupied]

/-- Where no room is left below a place, none is left at the place. -/
theorem Occupied.of_append
    {tree : Tree} {names below : List String} (nonempty : names ≠ [])
    (occupied : tree.Occupied (names ++ below)) :
    tree.Occupied names := by
  have leads : names <+: names ++ below := List.prefix_append names below
  rcases occupied with directory | ⟨front, text, frontLeads, file⟩
  · by_cases here : names = names ++ below
    · exact Or.inl (here ▸ directory)
    · obtain ⟨children, found⟩ := directory
      exact Or.inl (hasDirectory_of_lookup? found nonempty ⟨leads, here⟩)
  · rcases List.prefix_or_prefix_of_prefix frontLeads leads with onTheWay | beyond
    · exact Or.inr ⟨front, text, onTheWay, file⟩
    · by_cases here : names = front
      · exact Or.inr ⟨front, text, here ▸ List.prefix_refl _, file⟩
      · exact Or.inl (hasDirectory_of_lookup? file nonempty ⟨beyond, here⟩)

/-- Whether room is left is decided from the entry under the first name on. -/
theorem occupied_cons_iff {tree : Tree} {name : String} {below : List String} :
    tree.Occupied (name :: below) ↔
      ∃ entry, tree.find? name = some entry ∧ entry.Occupied below := by
  have fileOnTheWay :
      (∃ front text, front <+: name :: below ∧ tree.HasFile front text) ↔
        ∃ front text entry, front <+: below ∧ tree.find? name = some entry ∧
          entry.HasFile front text := by
    constructor
    · intro onTheWay
      obtain ⟨front, text, leads, file⟩ := onTheWay
      obtain ⟨first, deeper, rfl⟩ := List.exists_cons_of_ne_nil file.ne_nil
      obtain ⟨rfl, deeperLeads⟩ := List.cons_prefix_cons.mp leads
      obtain ⟨entry, found, entryFile⟩ := hasFile_cons_iff.mp file
      exact ⟨deeper, text, entry, deeperLeads, found, entryFile⟩
    · intro onTheWay
      obtain ⟨front, text, entry, leads, found, entryFile⟩ := onTheWay
      exact ⟨name :: front, text, List.cons_prefix_cons.mpr ⟨rfl, leads⟩,
        hasFile_cons_iff.mpr ⟨entry, found, entryFile⟩⟩
  rw [Occupied, fileOnTheWay]
  cases found : tree.find? name with
  | none =>
      simp [hasDirectory_cons_iff, found]
  | some entry =>
      cases entry with
      | file text =>
          simp [hasDirectory_cons_iff, found, Entry.HasFile, Entry.Occupied]
      | directory children =>
          simp [hasDirectory_cons_iff, found, Entry.HasFile, Entry.Occupied, Occupied, or_assoc]

/--
A file of the merged tree is one of the first tree, or one of the second for
which the first leaves room.
-/
theorem hasFile_mergeAt
    {mine theirs : Tree} (mineOrdered : mine.Ordered) (theirsOrdered : theirs.Ordered)
    (place : List String) {names : List String} {contents : String} :
    (mergeAt place mine theirs).tree.HasFile names contents ↔
      mine.HasFile names contents ∨
        (¬ mine.Occupied names ∧ theirs.HasFile names contents) := by
  induction names generalizing place mine theirs with
  | nil =>
      simp
  | cons name below inductionHypothesis =>
      rw [hasFile_cons_iff, hasFile_cons_iff, hasFile_cons_iff, occupied_cons_iff,
        find?_mergeAt theirsOrdered]
      cases theirsFound : theirs.find? name with
      | none =>
          simp
      | some entry =>
          cases mineFound : mine.find? name with
          | none =>
              simp [Entry.united]
          | some present =>
              cases present with
              | file text =>
                  simp [Entry.united, Entry.HasFile, Entry.Occupied]
              | directory inner =>
                  cases entry with
                  | file text =>
                      simp only [Entry.united, Entry.HasFile, Entry.Occupied,
                        Option.some.injEq, exists_eq_left', not_or]
                      constructor
                      · exact Or.inl
                      · intro either
                        rcases either with file | ⟨⟨deeper, _⟩, here, _⟩
                        · exact file
                        · exact (deeper here).elim
                  | directory children =>
                      have innerOrdered : inner.Ordered := mineOrdered.find? mineFound
                      have childrenOrdered : children.Ordered := theirsOrdered.find? theirsFound
                      simp only [Entry.united, Entry.HasFile, Entry.Occupied,
                        inductionHypothesis innerOrdered childrenOrdered,
                        Option.some.injEq, exists_eq_left', not_or]
                      constructor
                      · intro either
                        rcases either with file | ⟨room, file⟩
                        · exact Or.inl file
                        · exact Or.inr ⟨⟨file.ne_nil, room⟩, file⟩
                      · intro either
                        rcases either with file | ⟨⟨_, room⟩, file⟩
                        · exact Or.inl file
                        · exact Or.inr ⟨room, file⟩

/--
A directory of the merged tree is one of the first tree, or one of the second
for which the first leaves room.
-/
theorem hasDirectory_mergeAt
    {mine theirs : Tree} (mineOrdered : mine.Ordered) (theirsOrdered : theirs.Ordered)
    (place : List String) {names : List String} :
    (mergeAt place mine theirs).tree.HasDirectory names ↔
      mine.HasDirectory names ∨
        (¬ mine.Occupied names ∧ theirs.HasDirectory names) := by
  induction names generalizing place mine theirs with
  | nil =>
      simp
  | cons name below inductionHypothesis =>
      rw [hasDirectory_cons_iff_entry, hasDirectory_cons_iff_entry, hasDirectory_cons_iff_entry,
        occupied_cons_iff, find?_mergeAt theirsOrdered]
      cases theirsFound : theirs.find? name with
      | none =>
          simp
      | some entry =>
          cases mineFound : mine.find? name with
          | none =>
              simp [Entry.united]
          | some present =>
              cases present with
              | file text =>
                  simp [Entry.united, Entry.HasDirectory, Entry.Occupied]
              | directory inner =>
                  cases entry with
                  | file text =>
                      simp [Entry.united, Entry.HasDirectory]
                  | directory children =>
                      have innerOrdered : inner.Ordered := mineOrdered.find? mineFound
                      have childrenOrdered : children.Ordered := theirsOrdered.find? theirsFound
                      simp only [Entry.united, Entry.HasDirectory, Entry.Occupied,
                        inductionHypothesis innerOrdered childrenOrdered,
                        Option.some.injEq, exists_eq_left', not_or]
                      constructor
                      · rintro (here | directory | ⟨room, directory⟩)
                        · exact Or.inl (Or.inl here)
                        · exact Or.inl (Or.inr directory)
                        · exact Or.inr ⟨⟨directory.ne_nil, room⟩, Or.inr directory⟩
                      · rintro ((here | directory) | ⟨⟨deeper, room⟩, here | directory⟩)
                        · exact Or.inl here
                        · exact Or.inr (Or.inl directory)
                        · exact absurd here deeper
                        · exact Or.inr (Or.inr ⟨room, directory⟩)

/--
A file of the second tree that merging loses lies at a conflict or below one.  It
is lost at its first name, unless both trees have a directory there.
-/
theorem exists_conflict_of_lost
    {mine theirs : Tree} (theirsOrdered : theirs.Ordered)
    {place names : List String} {contents : String}
    (file : theirs.HasFile names contents)
    (lost : ¬ (mergeAt place mine theirs).tree.HasFile names contents) :
    ∃ conflict ∈ (mergeAt place mine theirs).conflicts,
      ∃ front, front ≠ [] ∧ front <+: names ∧ conflict.names = place ++ front := by
  induction names generalizing place mine theirs with
  | nil =>
      simp at file
  | cons name below inductionHypothesis =>
      obtain ⟨entry, theirsFound, entryFile⟩ := hasFile_cons_iff.mp file
      have united :
          (mergeAt place mine theirs).tree.find? name =
            some (Entry.united (place ++ [name]) (mine.find? name) entry) := by
        rw [find?_mergeAt theirsOrdered, theirsFound]
      have entryLost :
          ¬ (Entry.united (place ++ [name]) (mine.find? name) entry).HasFile below contents :=
        fun kept => lost (hasFile_cons_iff.mpr ⟨_, united, kept⟩)
      have clashHere :
          ∀ conflict,
            conflict ∈ Entry.clashes (place ++ [name]) (mine.find? name) entry →
            conflict.names = place ++ [name] →
            ∃ conflict ∈ (mergeAt place mine theirs).conflicts,
              ∃ front, front ≠ [] ∧ front <+: name :: below ∧
                conflict.names = place ++ front := by
        intro conflict clash atName
        have isReported := (mem_conflicts_mergeAt theirsOrdered).mpr
          ⟨name, entry, theirsFound, clash⟩
        exact ⟨conflict, isReported, [name], by simp, by simp, atName⟩
      cases mineFound : mine.find? name with
      | none =>
          rw [mineFound] at entryLost
          exact (entryLost entryFile).elim
      | some present =>
          rw [mineFound] at entryLost clashHere
          cases present with
          | file text =>
              cases entry with
              | file other =>
                  obtain ⟨rfl, rfl⟩ := entryFile
                  have different : text ≠ contents := by
                    rintro rfl
                    exact entryLost ⟨rfl, rfl⟩
                  exact clashHere (.divergentFile (place ++ [name]))
                    (by simp [Entry.clashes, different]) rfl
              | directory children =>
                  exact clashHere (.fileAndDirectory (place ++ [name]))
                    (by simp [Entry.clashes]) rfl
          | directory inner =>
              cases entry with
              | file other =>
                  exact clashHere (.fileAndDirectory (place ++ [name]))
                    (by simp [Entry.clashes]) rfl
              | directory children =>
                  have childrenOrdered : children.Ordered := theirsOrdered.find? theirsFound
                  obtain ⟨conflict, isConflict, front, _, leads, shape⟩ :=
                    inductionHypothesis childrenOrdered entryFile entryLost
                  refine ⟨conflict, (mem_conflicts_mergeAt theirsOrdered).mpr
                    ⟨name, .directory children, theirsFound, ?_⟩,
                    name :: front, by simp, by simpa using leads, by simp [shape]⟩
                  rw [mineFound]
                  exact isConflict

/-- What the first tree leaves no room for, the merged tree leaves no room for. -/
theorem Occupied.mergeAt
    {mine theirs : Tree} {names : List String} (occupied : mine.Occupied names)
    (theirsOrdered : theirs.Ordered) (place : List String) :
    (mergeAt place mine theirs).tree.Occupied names := by
  induction names generalizing place mine theirs with
  | nil =>
      exact (not_occupied_nil mine occupied).elim
  | cons name below inductionHypothesis =>
      obtain ⟨present, mineFound, presentOccupied⟩ := occupied_cons_iff.mp occupied
      rw [occupied_cons_iff, find?_mergeAt theirsOrdered, mineFound]
      cases theirsFound : theirs.find? name with
      | none =>
          exact ⟨present, rfl, presentOccupied⟩
      | some entry =>
          refine ⟨_, rfl, ?_⟩
          cases present with
          | file text =>
              exact presentOccupied
          | directory inner =>
              cases entry with
              | file text =>
                  exact presentOccupied
              | directory children =>
                  have childrenOrdered : children.Ordered := theirsOrdered.find? theirsFound
                  rcases presentOccupied with here | deeper
                  · exact Or.inl here
                  · exact Or.inr (inductionHypothesis deeper childrenOrdered _)

/-- Where the second tree has a file, the merged tree leaves no room. -/
theorem HasFile.occupied_mergeAt
    {mine theirs : Tree} {names : List String} {contents : String}
    (file : theirs.HasFile names contents)
    (mineOrdered : mine.Ordered) (theirsOrdered : theirs.Ordered) (place : List String) :
    (mergeAt place mine theirs).tree.Occupied names := by
  by_cases occupied : mine.Occupied names
  · exact occupied.mergeAt theirsOrdered place
  · have comesIn := (hasFile_mergeAt mineOrdered theirsOrdered place).mpr (Or.inr ⟨occupied, file⟩)
    exact comesIn.occupied

end Tree

end Tangle
