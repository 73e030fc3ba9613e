import Tangle.Proofs.Tree.Lookup
import Tangle.Tree.Listing

namespace Tangle

/-!
# Ordered trees

In an ordered tree each name stands once, in front of all greater ones.  Setting
an entry keeps the order, and so does entering a directory.
-/

/-- Lists in strictly ascending order of some names are the same if they have the same members. -/
theorem eq_of_ascending
    {Item : Type} {names : Item → List String} {items others : List Item}
    (ascending : items.Pairwise fun first second => names first < names second)
    (othersAscending : others.Pairwise fun first second => names first < names second)
    (sameMembers : ∀ item, item ∈ items ↔ item ∈ others) :
    items = others := by
  have distinct :
      ∀ {list : List Item},
        list.Pairwise (fun first second => names first < names second) → list.Nodup := by
    intro list inOrder
    apply inOrder.imp
    intro first second before same
    exact List.lt_irrefl _ (same ▸ before)
  have permuted : items.Perm others :=
    (List.perm_ext_iff_of_nodup (distinct ascending) (distinct othersAscending)).mpr
      (fun {item} => sameMembers item)
  apply permuted.eq_of_pairwise _ ascending othersAscending
  intro first second _ _ before after
  exact (List.lt_asymm before after).elim

namespace Entry

/-- What a directory holds is ordered. -/
def Ordered : Entry → Prop
  | .file _ => True
  | .directory children => children.Ordered

end Entry

namespace Tree

/-- Every tree is empty or has an entry in front of others. -/
@[elab_as_elim]
theorem entryInduction
    {motive : Tree → Prop}
    (empty : motive .empty)
    (before :
      ∀ (name : String) (entry : Entry) (rest : Tree),
        (∀ children, entry = .directory children → motive children) →
        motive rest →
        motive (entry.before name rest))
    (tree : Tree) :
    motive tree := by
  induction tree with
  | empty =>
      exact empty
  | file name contents rest restHolds =>
      exact before name (.file contents) rest (by simp) restHolds
  | directory name children rest childrenHold restHolds =>
      refine before name (.directory children) rest ?_ restHolds
      rintro _ ⟨⟩
      exact childrenHold

/-- Whether a tree is ordered can be seen by going through it. -/
instance decidableOrdered : (tree : Tree) → Decidable tree.Ordered
  | .empty => inferInstanceAs (Decidable True)
  | .file name _ rest =>
      have := decidableOrdered rest
      inferInstanceAs (Decidable ((∀ later ∈ rest.names, name < later) ∧ rest.Ordered))
  | .directory name children rest =>
      have := decidableOrdered children
      have := decidableOrdered rest
      inferInstanceAs
        (Decidable ((∀ later ∈ rest.names, name < later) ∧ children.Ordered ∧ rest.Ordered))

/-- An empty tree has no names. -/
@[simp] theorem names_empty : Tree.empty.names = [] := rfl

/-- The name of the first entry comes before the others. -/
@[simp] theorem names_before (name : String) (entry : Entry) (rest : Tree) :
    (entry.before name rest).names = name :: rest.names := by
  cases entry <;> rfl

/--
A tree is ordered if its first name is the smallest, and its entries and the
rest are ordered.
-/
theorem ordered_before {name : String} {entry : Entry} {rest : Tree} :
    (entry.before name rest).Ordered ↔
      (∀ later ∈ rest.names, name < later) ∧ entry.Ordered ∧ rest.Ordered := by
  cases entry <;> simp [Entry.before, Entry.Ordered, Ordered]

/--
An entry is put in front, in the place of the first one or further behind, as
its name is smaller, the same or greater.
-/
theorem set_before
    (wanted name : String) (new entry : Entry) (rest : Tree) :
    (entry.before name rest).set wanted new =
      if wanted = name then new.before wanted rest
      else if wanted < name then new.before wanted (entry.before name rest)
      else entry.before name (rest.set wanted new) := by
  cases entry <;> rfl

/-- The names of a tree are those under which something is found. -/
theorem mem_names_iff {name : String} {tree : Tree} :
    name ∈ tree.names ↔ ∃ entry, tree.find? name = some entry := by
  induction tree using entryInduction with
  | empty =>
      simp [find?]
  | before first entry rest _ inductionHypothesis =>
      by_cases same : first = name
      · subst first
        simp
      · simp [find?_before_of_ne same, Ne.symm same, inductionHypothesis]

/-- Nothing is found under a name that no entry has. -/
theorem find?_eq_none_of_not_mem
    {name : String} {tree : Tree} (absent : name ∉ tree.names) :
    tree.find? name = none := by
  cases found : tree.find? name with
  | none =>
      rfl
  | some entry =>
      exact (absent (mem_names_iff.mpr ⟨entry, found⟩)).elim

/-- In front of greater names a name does not stand again. -/
theorem find?_eq_none_of_lt
    {name : String} {tree : Tree} (smaller : ∀ later ∈ tree.names, name < later) :
    tree.find? name = none :=
  find?_eq_none_of_not_mem
    (fun member => String.lt_irrefl name (smaller name member))

/-- Putting an entry into a tree adds its name and no other. -/
theorem mem_names_set {name other : String} {entry : Entry} {tree : Tree} :
    other ∈ (tree.set name entry).names ↔ other = name ∨ other ∈ tree.names := by
  by_cases same : other = name
  · subst other
    simp [mem_names_iff]
  · simp [mem_names_iff, find?_set_of_ne (Ne.symm same), same]

/-- An ordered tree into which an ordered entry is put is ordered. -/
theorem Ordered.set
    {name : String} {new : Entry} {tree : Tree}
    (ordered : tree.Ordered) (newOrdered : new.Ordered) :
    (tree.set name new).Ordered := by
  induction tree using entryInduction with
  | empty =>
      exact ordered_before.mpr ⟨by simp, newOrdered, trivial⟩
  | before first entry rest _ inductionHypothesis =>
      obtain ⟨smaller, entryOrdered, restOrdered⟩ := ordered_before.mp ordered
      rw [set_before]
      split
      · rename_i same
        exact ordered_before.mpr ⟨same ▸ smaller, newOrdered, restOrdered⟩
      · rename_i different
        split
        · rename_i inFront
          refine ordered_before.mpr ⟨?_, newOrdered, ordered⟩
          intro later member
          rw [names_before] at member
          rcases List.mem_cons.mp member with rfl | inRest
          · exact inFront
          · exact String.lt_trans inFront (smaller later inRest)
        · rename_i notInFront
          have behind : first < name :=
            String.not_le.mp fun reverse =>
              different (String.le_antisymm reverse (String.not_lt.mp notInFront))
          refine ordered_before.mpr ⟨?_, entryOrdered, inductionHypothesis restOrdered⟩
          intro later member
          rcases mem_names_set.mp member with rfl | inRest
          · exact behind
          · exact smaller later inRest

/-- What is found in an ordered tree is ordered. -/
theorem Ordered.find?
    {name : String} {found : Entry} {tree : Tree}
    (ordered : tree.Ordered) (standsThere : tree.find? name = some found) :
    found.Ordered := by
  induction tree using entryInduction with
  | empty =>
      simp [Tree.find?] at standsThere
  | before first entry rest _ inductionHypothesis =>
      obtain ⟨_, entryOrdered, restOrdered⟩ := ordered_before.mp ordered
      by_cases same : first = name
      · subst first
        rw [find?_before] at standsThere
        cases standsThere
        exact entryOrdered
      · rw [find?_before_of_ne same] at standsThere
        exact inductionHypothesis restOrdered standsThere

/-- So is what stands below a name. -/
theorem Ordered.inside
    {tree : Tree} (ordered : tree.Ordered) (name : String) :
    (tree.inside name).Ordered := by
  rw [Tree.inside]
  split
  · rename_i children found
    exact ordered.find? found
  · trivial

end Tree

end Tangle
