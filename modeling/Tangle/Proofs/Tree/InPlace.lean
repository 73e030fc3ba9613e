import Tangle.Proofs.Tree.WriteRun
import Tangle.Proofs.Tree.Writing

namespace Tangle.Tree

/-!
# Writing in place

A tree that is changed in place gets its missing directories while the way to
the file is walked, before it is known whether the write succeeds.  Only an
entry that was there before can be in the way, and in front of it nothing has
been made; so a write that fails leaves the tree as it was.
-/

/-- Make a directory under a name where nothing stands. -/
def makeDirectory (name : String) (tree : Tree) : Tree :=
  match tree.find? name with
  | none => tree.set name (.directory .empty)
  | some _ => tree

/-- Walk to the place of a file, making directories on the way, and write it there. -/
def writeInPlace (name contents : String) : List String → Tree → Tree × Option WriteError
  | [], tree =>
      match tree.find? name with
      | some (.directory _) => (tree, some (.directoryInTheWay [name]))
      | _ => (tree.set name (.file contents), none)
  | folder :: deeper, tree =>
      let made := tree.makeDirectory folder
      match made.find? folder with
      | some (.directory children) =>
          let walked := writeInPlace name contents deeper children
          (made.set folder (.directory walked.1), walked.2.map (WriteError.under folder))
      | _ => (made, some (.fileInTheWay [folder]))

/-- Write a file in place at a path as an author wrote it. -/
def insert (written contents : String) (tree : Tree) : Tree × Option WriteError :=
  match TreePath.sanitize? written with
  | none => (tree, some .invalidPath)
  | some path => tree.writeInPlace path.name contents path.directories

/-- Of two entries set under one name the later one stays. -/
theorem set_set (name : String) (first second : Entry) (tree : Tree) :
    (tree.set name first).set name second = tree.set name second := by
  induction tree using entryInduction with
  | empty =>
      have setEmpty :
          ∀ entry : Entry, Tree.empty.set name entry = entry.before name .empty :=
        fun _ => rfl
      rw [setEmpty, setEmpty, set_before, if_pos rfl]
  | before other entry rest _ inductionHypothesis =>
      rw [set_before, set_before]
      split
      · rw [set_before, if_pos rfl]
      · rename_i different
        split
        · rw [set_before, if_pos rfl]
        · rename_i notInFront
          rw [set_before, if_neg different, if_neg notInFront, inductionHypothesis]

/-- Setting what stands under a name already leaves an ordered tree as it is. -/
theorem set_eq_self
    {name : String} {entry : Entry} {tree : Tree}
    (ordered : tree.Ordered) (found : tree.find? name = some entry) :
    tree.set name entry = tree := by
  induction tree using entryInduction with
  | empty =>
      contradiction
  | before other present rest _ inductionHypothesis =>
      obtain ⟨smaller, _, restOrdered⟩ := ordered_before.mp ordered
      rw [set_before]
      by_cases same : name = other
      · subst other
        rw [find?_before] at found
        cases found
        rw [if_pos rfl]
      · rw [find?_before_of_ne (Ne.symm same)] at found
        have behind : other < name := smaller name (mem_names_iff.mpr ⟨entry, found⟩)
        rw [if_neg same, if_neg (String.lt_asymm behind), inductionHypothesis restOrdered found]

/-- Nothing is in the way in a tree without entries. -/
theorem exists_writeAt_empty (name contents : String) (directories : List String) :
    ∃ written, writeAt name contents directories .empty = .ok written := by
  cases outcome : writeAt name contents directories .empty with
  | ok written =>
      exact ⟨written, rfl⟩
  | error failure =>
      rcases writeAt_eq_error.mp outcome with ⟨names, text, _, file, _⟩ | ⟨isDirectory, _⟩
      · exact (not_hasFile_empty names text file).elim
      · exact (not_hasDirectory_empty _ isDirectory).elim

/-- Writing in place gives the answer and the tree of a write that is kept if it succeeds. -/
theorem writeInPlace_eq
    {tree : Tree} (ordered : tree.Ordered) (name contents : String) (directories : List String) :
    writeInPlace name contents directories tree =
      (WriteRun.kept tree (writeAt name contents directories tree),
        WriteRun.failure? (writeAt name contents directories tree)) := by
  induction directories generalizing tree with
  | nil =>
      rw [writeInPlace, writeAt]
      cases tree.find? name with
      | none =>
          rfl
      | some entry =>
          cases entry <;> rfl
  | cons folder deeper inductionHypothesis =>
      rw [writeInPlace, writeAt_cons, makeDirectory, inside]
      cases found : tree.find? folder with
      | none =>
          obtain ⟨written, success⟩ := exists_writeAt_empty name contents deeper
          have emptyOrdered : Tree.empty.Ordered := trivial
          have walked := inductionHypothesis emptyOrdered
          rw [success] at walked
          simp only [find?_set, walked, success, WriteRun.kept, WriteRun.failure?, set_set,
            Option.map_none]
      | some entry =>
          cases entry with
          | file text =>
              simp only [found]
              rfl
          | directory children =>
              have childrenOrdered : children.Ordered := ordered.find? found
              have walked := inductionHypothesis childrenOrdered
              simp only [found, walked]
              cases writeAt name contents deeper children with
              | ok written =>
                  rfl
              | error failure =>
                  have asBefore := set_eq_self ordered found
                  simp only [WriteRun.kept, WriteRun.failure?, asBefore, Option.map_some]

/-- Inserting in place is a write that is kept if it succeeds. -/
theorem insert_eq {tree : Tree} (ordered : tree.Ordered) (written contents : String) :
    tree.insert written contents =
      (WriteRun.kept tree (tree.write written contents),
        WriteRun.failure? (tree.write written contents)) := by
  rw [insert, write]
  cases TreePath.sanitize? written with
  | none =>
      rfl
  | some path =>
      exact writeInPlace_eq ordered path.name contents path.directories

end Tangle.Tree
