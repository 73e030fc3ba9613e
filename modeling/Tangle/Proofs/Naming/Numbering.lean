import Tangle.Proofs.Naming.Apart
import Tangle.Proofs.Project.Pruning

namespace Tangle

/-!
# Numbers without gaps

Which blocks take a number from which counter can be read off a document without
compiling it.  Compiling gives the blocks of one counter the numbers from one on
in the order of the document; no other block has a part in these numbers,
wherever it goes and whether it can be written or not.
-/

/-- A text is no file name for a language when it does not end in the extension of that language. -/
theorem Naming.any_endsInExtension_eq_false_iff {language : Option String} {text : String} :
    language.any (endsInExtension text) = false ↔
      ∀ extension, language = some extension →
        ¬ '.' :: extension.toList <:+ text.toList := by
  cases language <;> simp [endsInExtension, ← List.isSuffixOf_iff_suffix]

namespace Outline

/-- A block is selected, and neither a path nor an identifier names it. -/
def IsUnnamed (outline : Outline) (requested : List String) (block : PlacedBlock) : Prop :=
  outline.selects requested block = true ∧
    Target.ofDetails block.code.details = .ok (.file none) ∧
    block.code.identifier? = none

instance (outline : Outline) (requested : List String) (block : PlacedBlock) :
    Decidable (outline.IsUnnamed requested block) :=
  inferInstanceAs (Decidable (_ ∧ _ ∧ _))

/--
The counter for a block under its nearest heading.  A heading that is a file name
for the language names the block itself; without a text to make a slug of the
block is counted in the document.
-/
def headingCounter? (outline : Outline) (block : PlacedBlock) : Option Counter :=
  match outline.parent? block with
  | none => some .document
  | some (position, heading) =>
      match heading.text with
      | none => some .document
      | some text =>
          if block.code.language.any (Naming.endsInExtension text) then none
          else some (.heading position (slugify text))

/-- The counter that a block takes a number from, if it takes one. -/
def counter? (outline : Outline) (requested : List String) (block : PlacedBlock) :
    Option Counter :=
  if outline.IsUnnamed requested block then outline.headingCounter? block else none

/-- Whether a block takes a number from a counter. -/
def counts
    (outline : Outline) (requested : List String) (counter : Counter) (block : PlacedBlock) :
    Bool :=
  outline.counter? requested block = some counter

/-- A block is counted in the document if no heading with a text is above it. -/
theorem headingCounter?_eq_document_iff {outline : Outline} {block : PlacedBlock} :
    outline.headingCounter? block = some .document ↔
      ∀ position heading, outline.parent? block = some (position, heading) →
        heading.text = none := by
  unfold headingCounter?
  cases outline.parent? block with
  | none => simp
  | some parent =>
      obtain ⟨position, heading⟩ := parent
      cases hasText : heading.text <;> simp [hasText]

/--
It is counted under its nearest heading if the text of that is no file name with
the extension of its language.
-/
theorem headingCounter?_eq_heading_iff
    {outline : Outline} {block : PlacedBlock} {position : Nat} {slug : String} :
    outline.headingCounter? block = some (.heading position slug) ↔
      ∃ heading text, outline.parent? block = some (position, heading) ∧
        heading.text = some text ∧ slug = slugify text ∧
        ∀ language, block.code.language = some language →
          ¬ '.' :: language.toList <:+ text.toList := by
  unfold headingCounter?
  cases outline.parent? block with
  | none => simp
  | some parent =>
      obtain ⟨parentPosition, heading⟩ := parent
      cases hasText : heading.text with
      | none => simp [hasText]
      | some text =>
          simp only [hasText]
          constructor
          · intro isCounter
            split at isCounter
            · contradiction
            · rename_i noName
              cases isCounter
              have noExtension :=
                Naming.any_endsInExtension_eq_false_iff.mp (Bool.eq_false_iff.mpr noName)
              exact ⟨heading, text, rfl, hasText, rfl, noExtension⟩
          · intro told
            obtain ⟨other, otherText, sameParent, otherHasText, rfl, noExtension⟩ := told
            cases sameParent
            cases hasText.symm.trans otherHasText
            have noName := Naming.any_endsInExtension_eq_false_iff.mpr noExtension
            exact if_neg (Bool.eq_false_iff.mp noName)

/-- A counter counts the selected blocks without a path that are counted under it. -/
theorem counts_iff
    {outline : Outline} {requested : List String} {counter : Counter} {block : PlacedBlock} :
    outline.counts requested counter block = true ↔
      outline.IsUnnamed requested block ∧ outline.headingCounter? block = some counter := by
  simp [counts, counter?]

end Outline

/-- A heading of an outline has the slug of a counter at its position. -/
def Counter.BelongsTo (outline : Outline) : Counter → Prop
  | .heading position slug =>
      ∃ heading, outline.headings[position]? = some heading ∧ heading.identifier? = some slug
  | .document => True

namespace Naming

variable {naming : Naming} {outline : Outline} {block : PlacedBlock} {counter : Counter}

/-- A heading serves as a name as it is when its text ends in the extension of the language. -/
theorem verbatim?_eq_of_text
    {heading : Heading} {text : String} (hasText : heading.text = some text)
    (language : Option String) :
    verbatim? heading language =
      if language.any (endsInExtension text) then some text else none := by
  cases language <;> simp [verbatim?, hasText]

/-- A block without an identifier gets the next number of the counter under its heading. -/
theorem numbers_of_headingCounter?
    (noIdentifier : block.code.identifier? = none)
    (isCounter : outline.headingCounter? block = some counter) :
    naming.Numbers outline block counter := by
  cases counter with
  | document =>
      have noText := Outline.headingCounter?_eq_document_iff.mp isCounter
      apply Numbers.document
      cases isParent : outline.parent? block with
      | none => simp only [name, isParent, noIdentifier]
      | some parent =>
          obtain ⟨position, heading⟩ := parent
          simp only [name, isParent, noIdentifier, verbatim?, Heading.identifier?,
            noText position heading isParent, Option.map_none]
  | heading position slug =>
      obtain ⟨heading, text, isParent, hasText, rfl, noExtension⟩ :=
        Outline.headingCounter?_eq_heading_iff.mp isCounter
      have noName := any_endsInExtension_eq_false_iff.mpr noExtension
      apply Numbers.heading
      simp [name, isParent, noIdentifier, verbatim?_eq_of_text hasText, noName,
        Heading.identifier?, hasText]

/-- Without a counter under its heading a block leaves all counts as they are. -/
theorem name_of_no_headingCounter (noCounter : outline.headingCounter? block = none) :
    (naming.name outline block).2 = naming := by
  unfold Outline.headingCounter? at noCounter
  cases isParent : outline.parent? block with
  | none =>
      simp [isParent] at noCounter
  | some parent =>
      obtain ⟨position, heading⟩ := parent
      cases hasText : heading.text with
      | none =>
          simp [isParent, hasText] at noCounter
      | some text =>
          have isName : block.code.language.any (endsInExtension text) = true := by
            simpa [isParent, hasText] using noCounter
          simp only [name, isParent, verbatim?_eq_of_text hasText, isName, if_true]

/-- A block with an identifier leaves all counts as they are. -/
theorem name_of_identifier {identifier : String}
    (hasIdentifier : block.code.identifier? = some identifier) :
    (naming.name outline block).2 = naming := by
  unfold name
  cases outline.parent? block with
  | none =>
      simp only [hasIdentifier]
  | some parent =>
      simp only [hasIdentifier]
      split <;> rfl

/-- The counter under the heading of a block is told by that heading. -/
theorem belongsTo_of_headingCounter? (isCounter : outline.headingCounter? block = some counter) :
    counter.BelongsTo outline := by
  cases counter with
  | document =>
      trivial
  | heading position slug =>
      obtain ⟨heading, text, isParent, hasText, rfl, _⟩ :=
        Outline.headingCounter?_eq_heading_iff.mp isCounter
      obtain ⟨ancestor, _, found⟩ := Option.bind_eq_some_iff.mp isParent
      obtain ⟨_, isHeading, samePosition⟩ := Option.map_eq_some_iff.mp found
      cases samePosition
      exact ⟨heading, isHeading, by rw [Heading.identifier?, hasText, Option.map_some]⟩

/--
A number of one counter leaves the other counters as they are.  At one position
there is one heading, so two counters of headings differ in their positions.
-/
theorem Numbers.next_of_ne
    {other : Counter} (numbers : naming.Numbers outline block other) (different : other ≠ counter)
    (belongs : counter.BelongsTo outline) (otherBelongs : other.BelongsTo outline) :
    (naming.name outline block).2.next counter = naming.next counter := by
  cases numbers with
  | document counted =>
      rw [counted]
      cases counter with
      | document => exact (different rfl).elim
      | heading position slug => rfl
  | @heading otherPosition otherSlug counted =>
      rw [counted]
      cases counter with
      | document => rfl
      | heading position slug =>
          have apart : position ≠ otherPosition := by
            intro same
            subst position
            obtain ⟨heading, isHeading, hasSlug⟩ := belongs
            obtain ⟨otherHeading, isOther, hasOtherSlug⟩ := otherBelongs
            cases isHeading.symm.trans isOther
            cases hasSlug.symm.trans hasOtherSlug
            exact different rfl
          simp [next, numbered, apart]

end Naming

namespace Compilation

variable {outline : Outline} {requested : List String} (fileId : Nat) (state : Compilation)

/-- Only a block without any name of its own can move a counter. -/
theorem naming_step_of_not_isUnnamed
    {block : PlacedBlock} (named : ¬ outline.IsUnnamed requested block) :
    (step outline requested fileId state block).naming = state.naming := by
  rw [step_naming, Outline.listBlock]
  split
  · rename_i selected
    rw [Naming.resolve]
    split
    · rfl
    · rfl
    · rfl
    · rename_i noPath
      cases hasIdentifier : block.code.identifier? with
      | none => exact (named ⟨selected, noPath, hasIdentifier⟩).elim
      | some identifier => exact Naming.name_of_identifier hasIdentifier
  · rfl

/-- Such a block takes its name from the naming, and the naming goes on. -/
theorem naming_step_of_isUnnamed
    {block : PlacedBlock} (unnamed : outline.IsUnnamed requested block) :
    (step outline requested fileId state block).naming =
      (state.naming.name outline block).2 := by
  obtain ⟨selected, noPath, _⟩ := unnamed
  simp only [step_naming, Outline.listBlock, selected, if_true, Naming.resolve, noPath]

/-- A counter goes on by one at the blocks that it counts, and stays at all others. -/
theorem next_step
    {counter : Counter} (belongs : counter.BelongsTo outline) (block : PlacedBlock) :
    (step outline requested fileId state block).naming.next counter =
      state.naming.next counter + if outline.counts requested counter block then 1 else 0 := by
  by_cases unnamed : outline.IsUnnamed requested block
  · rw [naming_step_of_isUnnamed fileId state unnamed]
    cases isCounter : outline.headingCounter? block with
    | none =>
        have notCounted : outline.counts requested counter block = false := by
          simp [Outline.counts, Outline.counter?, isCounter]
        simp [Naming.name_of_no_headingCounter isCounter, notCounted]
    | some other =>
        have numbers : state.naming.Numbers outline block other :=
          Naming.numbers_of_headingCounter? unnamed.2.2 isCounter
        by_cases same : other = counter
        · subst other
          rw [numbers.next_name, if_pos (Outline.counts_iff.mpr ⟨unnamed, isCounter⟩)]
        · have notCounted : outline.counts requested counter block = false := by
            simp [Outline.counts, Outline.counter?, isCounter, same]
          have otherBelongs := Naming.belongsTo_of_headingCounter? isCounter
          simp [numbers.next_of_ne same belongs otherBelongs, notCounted]
  · have notCounted : outline.counts requested counter block = false := by
      simp [Outline.counts, Outline.counter?, unnamed]
    simp [naming_step_of_not_isUnnamed fileId state unnamed, notCounted]

/-- Over a run a counter goes on by the number of blocks that it counts. -/
theorem next_run
    {counter : Counter} (belongs : counter.BelongsTo outline) (blocks : List PlacedBlock) :
    (state.run outline requested fileId blocks).naming.next counter =
      state.naming.next counter + blocks.countP (outline.counts requested counter) := by
  induction blocks generalizing state with
  | nil =>
      rfl
  | cons block rest inductionHypothesis =>
      rw [run_cons, inductionHypothesis, next_step fileId state belongs, List.countP_cons]
      omega

end Compilation

namespace Document

variable {document : Document} {requested : List String} {counter : Counter}

/-- The number of blocks in front of a place that take a number from a counter. -/
def countedBefore
    (document : Document) (requested : List String) (place : Nat) (counter : Counter) : Nat :=
  ((Outline.ofDocument document).blocks.take place).countP
    ((Outline.ofDocument document).counts requested counter)

/-- The number that a counter gives at a place is told by the blocks in front. -/
theorem numberAt_eq
    (belongs : counter.BelongsTo (Outline.ofDocument document)) (fileId place : Nat) :
    document.numberAt requested fileId place counter =
      document.countedBefore requested place counter + 1 := by
  have fromStart :
      (Compilation.reached document requested fileId place).naming.next counter =
        Compilation.start.naming.next counter + document.countedBefore requested place counter :=
    Compilation.next_run fileId .start belongs _
  have startsAtOne : Compilation.start.naming.next counter = 1 := by
    cases counter <;> rfl
  rw [numberAt, fromStart, startsAtOne, Nat.add_comm]

/-- A block that takes a number is named with one. -/
theorem autoNumbered_of_counts
    {place : Nat} {block : PlacedBlock}
    (isBlock : (Outline.ofDocument document).blocks[place]? = some block)
    (counted : (Outline.ofDocument document).counts requested counter block = true)
    (fileId : Nat) :
    document.AutoNumbered requested fileId place block counter := by
  obtain ⟨unnamed, isCounter⟩ := Outline.counts_iff.mp counted
  obtain ⟨selected, noPath, noIdentifier⟩ := unnamed
  exact ⟨isBlock, selected, noPath, Naming.numbers_of_headingCounter? noIdentifier isCounter⟩

/-- A block that takes a number is named by its place among those of its counter. -/
theorem nameAt_of_counts
    {place : Nat} {block : PlacedBlock}
    (isBlock : (Outline.ofDocument document).blocks[place]? = some block)
    (counted : (Outline.ofDocument document).counts requested counter block = true)
    (fileId : Nat) :
    document.nameAt requested fileId place block =
      Naming.withExtension (counter.stem (document.countedBefore requested place counter + 1))
        block.code.language := by
  have belongs :=
    Naming.belongsTo_of_headingCounter? (Outline.counts_iff.mp counted).2
  rw [(autoNumbered_of_counts isBlock counted fileId).nameAt_eq, numberAt_eq belongs]

/-- The names that compiling gives to the blocks of a counter, in the order of the document. -/
def countedNames
    (document : Document) (requested : List String) (fileId : Nat) (counter : Counter) :
    List String :=
  ((Outline.ofDocument document).blocks.zipIdx.filter fun placed =>
    (Outline.ofDocument document).counts requested counter placed.1).map fun placed =>
      document.nameAt requested fileId placed.2 placed.1

/-- Items numbered by how many of their kind stand in front are numbered from one on. -/
theorem map_filter_zipIdx
    {Item Name : Type} (isCounted : Item → Bool) (nameOf : Item → Nat → Name)
    (front back : List Item) :
    (((back.zipIdx front.length).filter fun placed => isCounted placed.1).map fun placed =>
        nameOf placed.1 (((front ++ back).take placed.2).countP isCounted + 1)) =
      ((back.filter isCounted).zipIdx (front.countP isCounted + 1)).map fun numbered =>
        nameOf numbered.1 numbered.2 := by
  induction back generalizing front with
  | nil =>
      rfl
  | cons item rest inductionHypothesis =>
      have later := inductionHypothesis (front ++ [item])
      simp only [List.append_assoc, List.singleton_append, List.length_append,
        List.length_singleton, List.countP_append, List.countP_singleton] at later
      rw [List.zipIdx_cons]
      by_cases counted : isCounted item = true
      · simp only [counted, if_true] at later
        simp [counted, later, List.zipIdx_cons]
      · simp only [counted] at later
        simpa [List.filter_cons, counted] using later

/-- The blocks of a counter are named with the numbers from one on. -/
theorem countedNames_eq
    (document : Document) (requested : List String) (fileId : Nat) (counter : Counter) :
    document.countedNames requested fileId counter =
      (((Outline.ofDocument document).blocks.filter
        ((Outline.ofDocument document).counts requested counter)).zipIdx 1).map fun numbered =>
          Naming.withExtension (counter.stem numbered.2) numbered.1.code.language := by
  have inOrder := map_filter_zipIdx ((Outline.ofDocument document).counts requested counter)
    (fun block number => Naming.withExtension (counter.stem number) block.code.language) []
    (Outline.ofDocument document).blocks
  rw [countedNames]
  refine Eq.trans ?_ inOrder
  apply List.map_congr_left
  intro placed member
  obtain ⟨among, counted⟩ := List.mem_filter.mp member
  exact nameAt_of_counts (List.mem_zipIdx_iff_getElem?.mp among) counted fileId

/-- A document with its headings and only those of its code blocks that are to be kept. -/
def keep (document : Document) (keeps : PlacedBlock → Bool) : Document :=
  ⟨keptNodes keeps document.nodes (Outline.ofDocument document).blocks⟩

/-- Leaving out blocks leaves the headings as they are. -/
theorem ofDocument_keep (document : Document) (keeps : PlacedBlock → Bool) :
    Outline.ofDocument (document.keep keeps) =
      ⟨(Outline.ofDocument document).headings,
        (Outline.ofDocument document).blocks.filter keeps⟩ :=
  Outline.walkFrom_keptNodes keeps .start document.nodes

end Document

/-- Of an outline only the headings tell what a block takes its number from. -/
theorem Outline.counts_congr_headings
    {outline other : Outline} (sameHeadings : outline.headings = other.headings)
    (requested : List String) (counter : Counter) (block : PlacedBlock) :
    outline.counts requested counter block = other.counts requested counter block := by
  have sameParent : outline.parent? block = other.parent? block := by
    rw [parent?, parent?, sameHeadings]
  rw [Bool.eq_iff_iff, counts_iff, counts_iff]
  simp only [IsUnnamed, headingCounter?, sameParent, selects_congr_headings sameHeadings]

/-- Blocks that a counter does not count have no part in the names of those that it does. -/
theorem Document.countedNames_keep
    {document : Document} {requested : List String} {counter : Counter}
    {keeps : PlacedBlock → Bool} (fileId : Nat)
    (kept : ∀ block, (Outline.ofDocument document).counts requested counter block = true →
      keeps block = true) :
    (document.keep keeps).countedNames requested fileId counter =
      document.countedNames requested fileId counter := by
  have outlineKept := document.ofDocument_keep keeps
  have sameCounts :
      (Outline.ofDocument (document.keep keeps)).counts requested counter =
        (Outline.ofDocument document).counts requested counter := by
    funext block
    exact Outline.counts_congr_headings (by rw [outlineKept]) requested counter block
  have sameBlocks :
      ((Outline.ofDocument document).blocks.filter keeps).filter
          ((Outline.ofDocument document).counts requested counter) =
        (Outline.ofDocument document).blocks.filter
          ((Outline.ofDocument document).counts requested counter) := by
    rw [List.filter_filter]
    apply List.filter_congr
    intro block _
    rw [Bool.and_eq_left_iff_imp]
    exact kept block
  rw [countedNames_eq, countedNames_eq, sameCounts, outlineKept, sameBlocks]

/--
Numbers in names have no gaps and depend on nothing else.  A block is counted
under its nearest heading if it is selected without a path or an identifier, and
the heading has a text that does not end in the extension of the language; it is
counted in the document if there is no such heading or it has no text.  It is
written under the name with the number that follows those of the blocks in front
that are counted alike: its contents are found there afterwards, or one
diagnostic names this path.  So these blocks get the numbers from one on.  A
counter goes on at these blocks alone, and the names stay when any other blocks
are taken away.
-/
theorem Document.numbers_without_gaps
    (document : Document) (requested : List String) (fileId : Nat) :
    (∀ block position slug,
      (Outline.ofDocument document).counts requested (.heading position slug) block = true ↔
        (Outline.ofDocument document).IsUnnamed requested block ∧
          ∃ heading text,
            (Outline.ofDocument document).parent? block = some (position, heading) ∧
              heading.text = some text ∧ slug = slugify text ∧
              ∀ language, block.code.language = some language →
                ¬ '.' :: language.toList <:+ text.toList) ∧
    (∀ block,
      (Outline.ofDocument document).counts requested .document block = true ↔
        (Outline.ofDocument document).IsUnnamed requested block ∧
          ∀ position heading,
            (Outline.ofDocument document).parent? block = some (position, heading) →
              heading.text = none) ∧
    (∀ place block counter,
      (Outline.ofDocument document).blocks[place]? = some block →
      (Outline.ofDocument document).counts requested counter block = true →
        document.nameAt requested fileId place block =
            Naming.withExtension
              (counter.stem (document.countedBefore requested place counter + 1))
              block.code.language ∧
          (Compilation.reached document requested fileId (place + 1)).project =
            (Compilation.reached document requested fileId place).project.writeFile block fileId
              (document.nameAt requested fileId place block) ∧
          Project.Writes block fileId (document.nameAt requested fileId place block)
            (Compilation.reached document requested fileId place).project
            (Compilation.reached document requested fileId (place + 1)).project) ∧
    (∀ counter,
      document.countedNames requested fileId counter =
        (((Outline.ofDocument document).blocks.filter
          ((Outline.ofDocument document).counts requested counter)).zipIdx 1).map fun numbered =>
            Naming.withExtension (counter.stem numbered.2) numbered.1.code.language) ∧
    (∀ place block counter,
      counter.BelongsTo (Outline.ofDocument document) →
      (Outline.ofDocument document).blocks[place]? = some block →
        document.numberAt requested fileId (place + 1) counter =
          document.numberAt requested fileId place counter +
            if (Outline.ofDocument document).counts requested counter block then 1 else 0) ∧
    (∀ (counter : Counter) (keeps : PlacedBlock → Bool),
      (∀ block, (Outline.ofDocument document).counts requested counter block = true →
        keeps block = true) →
        (document.keep keeps).countedNames requested fileId counter =
          document.countedNames requested fileId counter) ∧
    (Compilation.reached document requested fileId
        (Outline.ofDocument document).blocks.length).project =
      document.compile requested fileId := by
  refine ⟨?_, ?_, ?_, fun counter => document.countedNames_eq requested fileId counter, ?_, ?_,
    Compilation.reached_all document requested fileId⟩
  · intro block position slug
    rw [Outline.counts_iff, Outline.headingCounter?_eq_heading_iff]
  · intro block
    rw [Outline.counts_iff, Outline.headingCounter?_eq_document_iff]
  · intro place block counter isBlock counted
    have writes :
        (Compilation.reached document requested fileId (place + 1)).project =
          (Compilation.reached document requested fileId place).project.writeFile block fileId
            (document.nameAt requested fileId place block) := by
      rw [(autoNumbered_of_counts isBlock counted fileId).reached_succ]
    refine ⟨nameAt_of_counts isBlock counted fileId, writes, ?_⟩
    rw [writes]
    exact Project.writeFile_writes _ block fileId _
  · intro place block counter belongs isBlock
    rw [numberAt, numberAt, Compilation.reached_succ isBlock]
    exact Compilation.next_step fileId _ belongs block
  · intro counter keeps kept
    exact countedNames_keep fileId kept

example :
    let heading := fun (text : String) => Node.heading ⟨1, some text⟩ ⟨0, 1⟩
    let code := fun (language : String) => Node.code ⟨some language, none, "text"⟩ ⟨2, 3⟩
    let document : Document :=
      ⟨[code "js", heading "A", code "js", heading "A", code "js", heading "b.js", code "js",
        code "md", heading "A", code "js", code "js"]⟩
    document.countedNames [] 0 (.heading 3 "a") = ["a-1.js", "a-2.js"] := by
  decide +kernel

end Tangle
