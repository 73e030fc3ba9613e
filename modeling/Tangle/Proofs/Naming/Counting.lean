import Tangle.Proofs.Naming.Stem
import Tangle.Proofs.Project.Listing

namespace Tangle

/-!
# Counts in names

A name that is made with a count takes the next number of one counter: that of
the nearest heading, or that of the document.  No counter ever goes back, and
the one that is used goes on, so no number of a counter is given twice.
-/

namespace Naming

/-- The number that a counter gives next. -/
def next (naming : Naming) : Counter → Nat
  | .heading position _ => naming.counts position + 1
  | .document => naming.nextOrphan

/-- The name of a block is made with the next number of a counter. -/
inductive Numbers (naming : Naming) (outline : Outline) (block : PlacedBlock) : Counter → Prop where
  | heading {position : Nat} {slug : String} :
      naming.name outline block = naming.numbered position slug block.code.language →
      Numbers naming outline block (.heading position slug)
  | document :
      naming.name outline block = naming.orphan block.code.language →
      Numbers naming outline block .document

variable {naming : Naming} {outline : Outline} {block : PlacedBlock}

/-- A block has a name of its own, or it is named with a count. -/
theorem name_cases (naming : Naming) (outline : Outline) (block : PlacedBlock) :
    (naming.name outline block).2 = naming ∨
      (∃ position heading slug,
        outline.parent? block = some (position, heading) ∧ heading.identifier? = some slug ∧
          naming.name outline block = naming.numbered position slug block.code.language) ∨
      naming.name outline block = naming.orphan block.code.language := by
  fun_cases name naming outline block with
  | case1 _ _ _ _ =>
      exact Or.inl rfl
  | case2 _ _ _ =>
      exact Or.inr (Or.inr rfl)
  | case3 _ _ _ _ _ _ =>
      exact Or.inl rfl
  | case4 _ _ _ _ _ _ _ =>
      exact Or.inl rfl
  | case5 _ position heading isParent _ _ slug hasSlug =>
      exact Or.inr (Or.inl ⟨position, heading, slug, isParent, hasSlug, rfl⟩)
  | case6 _ _ _ _ _ _ _ =>
      exact Or.inr (Or.inr rfl)

/-- A name counted under a heading sets no counter back. -/
theorem numbered_next (naming : Naming) (position : Nat) (slug : String)
    (language : Option String) (counter : Counter) :
    naming.next counter ≤ (naming.numbered position slug language).2.next counter := by
  cases counter with
  | document =>
      exact Nat.le_refl _
  | heading other _ =>
      by_cases same : other = position
      · subst other
        simp [next, numbered]
      · simp [next, numbered, same]

/-- Nor does one counted in the document. -/
theorem orphan_next (naming : Naming) (language : Option String) (counter : Counter) :
    naming.next counter ≤ (naming.orphan language).2.next counter := by
  cases counter with
  | document =>
      exact Nat.le_succ _
  | heading other _ =>
      exact Nat.le_refl _

/-- Naming a block puts no counter back. -/
theorem next_le_name (counter : Counter) :
    naming.next counter ≤ (naming.name outline block).2.next counter := by
  rcases naming.name_cases outline block with own | ⟨position, _, slug, _, _, counted⟩ | counted
  · have unchanged := congrArg (fun after => after.next counter) own
    exact Nat.le_of_eq unchanged.symm
  · rw [counted]
    exact naming.numbered_next position slug block.code.language counter
  · rw [counted]
    exact naming.orphan_next block.code.language counter

namespace Numbers

variable {counter : Counter}

/-- The name is made of the next number of the counter, with the extension behind. -/
theorem name_eq (numbers : naming.Numbers outline block counter) :
    (naming.name outline block).1 =
      withExtension (counter.stem (naming.next counter)) block.code.language := by
  cases numbers with
  | heading counted =>
      rw [counted]
      rfl
  | document counted =>
      rw [counted]
      rfl

/-- The counter that a name is made with goes on. -/
theorem next_name (numbers : naming.Numbers outline block counter) :
    (naming.name outline block).2.next counter = naming.next counter + 1 := by
  cases numbers with
  | heading counted =>
      rw [counted]
      simp [next, numbered]
  | document counted =>
      rw [counted]
      rfl

/--
A slug that is counted under is that of the nearest heading: only a name counted
under its position moves the counter.
-/
theorem exists_heading
    {position : Nat} {slug : String}
    (numbers : naming.Numbers outline block (.heading position slug)) :
    ∃ heading, outline.parent? block = some (position, heading) ∧
      heading.identifier? = some slug := by
  have goesOn := numbers.next_name
  cases numbers with
  | heading counted =>
      rcases naming.name_cases outline block with
          own | ⟨other, heading, otherSlug, isParent, hasSlug, otherCounted⟩ | orphan
      · rw [own] at goesOn
        omega
      · have samePosition : position = other := by
          apply Decidable.byContradiction
          intro different
          rw [otherCounted] at goesOn
          simp [next, numbered, different] at goesOn
        subst other
        have sameName := congrArg Prod.fst (counted.symm.trans otherCounted)
        have sameStem := withExtension_injective sameName
        have sameSlug : slug = otherSlug := by
          rw [String.append_assoc, String.append_assoc] at sameStem
          exact String.append_left_inj _ |>.mp sameStem
        exact ⟨heading, isParent, sameSlug ▸ hasSlug⟩
      · rw [orphan] at goesOn
        simp [next, Naming.orphan] at goesOn

end Numbers

end Naming

namespace Compilation

variable (outline : Outline) (requested : List String) (fileId : Nat) (state : Compilation)

/-- No counter goes back at a block. -/
theorem next_le_step (block : PlacedBlock) (counter : Counter) :
    state.naming.next counter ≤
      (step outline requested fileId state block).naming.next counter := by
  rw [step_naming, Outline.listBlock]
  split
  · rw [Naming.resolve]
    split
    · exact Nat.le_refl _
    · exact Nat.le_refl _
    · exact Nat.le_refl _
    · exact Naming.next_le_name counter
  · exact Nat.le_refl _

/-- No counter goes back over several blocks. -/
theorem next_le_run (blocks : List PlacedBlock) (counter : Counter) :
    state.naming.next counter ≤
      (state.run outline requested fileId blocks).naming.next counter := by
  induction blocks generalizing state with
  | nil =>
      exact Nat.le_refl _
  | cons block rest inductionHypothesis =>
      rw [run_cons]
      exact Nat.le_trans (next_le_step outline requested fileId state block counter)
        (inductionHypothesis _)

/-- So farther on in a document each counter stands at least as high. -/
theorem next_le_reached
    (document : Document) {first second : Nat} (before : first ≤ second) (counter : Counter) :
    (reached document requested fileId first).naming.next counter ≤
      (reached document requested fileId second).naming.next counter := by
  have parted :
      (Outline.ofDocument document).blocks.take second =
        (Outline.ofDocument document).blocks.take first ++
          ((Outline.ofDocument document).blocks.take second).drop first := by
    have shorter : ((Outline.ofDocument document).blocks.take second).take first =
        (Outline.ofDocument document).blocks.take first := by
      rw [List.take_take, Nat.min_eq_left before]
    rw [← shorter, List.take_append_drop]
  rw [reached, reached, parted, run_append]
  exact next_le_run _ requested fileId _ _ counter

end Compilation

end Tangle
