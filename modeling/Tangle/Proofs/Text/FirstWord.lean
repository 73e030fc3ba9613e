import Tangle.Proofs.Text.Runs

namespace Tangle.Text

/-!
# The first word of a form

A text is searched from left to right for a place where a word starts that a
reader understands.  If the reader looks at no more than that word, the search
finds the first word it understands, and the blanks around words, the words it
does not understand, and their order among each other mean nothing.
-/

/-- Some word is the first one of a form, and says something by it. -/
def FirstSays {α : Type} (form : List Char → α → Prop) (words : List (List Char)) (said : α) :
    Prop :=
  ∃ front word back,
    words = front ++ word :: back ∧ form word said ∧
      ∀ earlier ∈ front, ∀ other, ¬ form earlier other

/-- No word has a form. -/
def NoneSays {α : Type} (form : List Char → α → Prop) (words : List (List Char)) : Prop :=
  ∀ word ∈ words, ∀ said, ¬ form word said

/-- No two words have a form. -/
def OneSaysAtMost {α : Type} (form : List Char → α → Prop) (words : List (List Char)) : Prop :=
  words.Pairwise fun first second =>
    ∀ said other, ¬ (form first said ∧ form second other)

/-- Two lists of words differ only in words of a kind that one has and the other has not. -/
inductive AlikeBut (silent : List Char → Prop) : List (List Char) → List (List Char) → Prop where
  | nil : AlikeBut silent [] []
  | both (word : List Char) {first second : List (List Char)} :
      AlikeBut silent first second → AlikeBut silent (word :: first) (word :: second)
  | left {word : List Char} {first second : List (List Char)} :
      silent word → AlikeBut silent first second → AlikeBut silent (word :: first) second
  | right {word : List Char} {first second : List (List Char)} :
      silent word → AlikeBut silent first second → AlikeBut silent first (word :: second)

/-- A search passes over words in which it finds nothing. -/
theorem AlikeBut.findSome?_eq
    {α : Type} {read : List Char → Option α} {silent : List Char → Prop}
    {first second : List (List Char)} (alike : AlikeBut silent first second)
    (firstSilent : ∀ word ∈ first, silent word → read word = none)
    (secondSilent : ∀ word ∈ second, silent word → read word = none) :
    first.findSome? read = second.findSome? read := by
  induction alike with
  | nil =>
      rfl
  | both word _ inductionHypothesis =>
      rw [List.findSome?_cons, List.findSome?_cons,
        inductionHypothesis (fun other member => firstSilent other (List.mem_cons_of_mem _ member))
          (fun other member => secondSilent other (List.mem_cons_of_mem _ member))]
  | left silentWord _ inductionHypothesis =>
      rw [List.findSome?_cons, firstSilent _ List.mem_cons_self silentWord]
      exact inductionHypothesis
        (fun other member => firstSilent other (List.mem_cons_of_mem _ member)) secondSilent
  | right silentWord _ inductionHypothesis =>
      rw [List.findSome?_cons, secondSilent _ List.mem_cons_self silentWord]
      exact inductionHypothesis firstSilent
        (fun other member => secondSilent other (List.mem_cons_of_mem _ member))

/-- A reader looks at a whole word and at nothing behind it, and understands the words of a form. -/
structure ReadsWords {α : Type} (read : List Char → Option α) (form : List Char → α → Prop) :
    Prop where
  whole : ∀ text, read text = read (text.takeWhile isWordCharacter)
  nothing : read [] = none
  understands :
    ∀ {word}, (∀ character ∈ word, isWordCharacter character = true) →
      ∀ {said}, read word = some said ↔ form word said

/-- A word is made of word characters. -/
theorem isWordCharacter_of_mem_words
    {text word : List Char} (isWord : word ∈ words text) {character : Char}
    (member : character ∈ word) :
    isWordCharacter character = true :=
  belongs_of_mem_runs (words_eq_runs text ▸ isWord) member

namespace ReadsWords

variable {α : Type} {read : List Char → Option α} {form : List Char → α → Prop}
  (reads : ReadsWords read form)

include reads

/-- Nothing is read where no word starts. -/
theorem read_of_startsOutside
    {text : List Char} (outside : StartsOutside isWordCharacter text) : read text = none := by
  rw [reads.whole, takeWhile_of_startsOutside outside, reads.nothing]

/-- Where no word goes on, it does not matter whether one might start. -/
theorem firstAtWord?_of_startsOutside
    {text : List Char} (outside : StartsOutside isWordCharacter text) (atWord : Bool) :
    firstAtWord? read atWord text = firstAtWord? read true text := by
  cases text with
  | nil =>
      rfl
  | cons first rest =>
      have nothingHere := reads.read_of_startsOutside outside
      cases atWord <;> simp [firstAtWord?, nothingHere]

omit reads in
/-- Within a word nothing is read. -/
theorem firstAtWord?_within
    {part : List Char} (inside : ∀ character ∈ part, isWordCharacter character = true)
    (rest : List Char) :
    firstAtWord? read false (part ++ rest) = firstAtWord? read false rest := by
  induction part with
  | nil =>
      rfl
  | cons first others inductionHypothesis =>
      have notBlank : isBlank first = false := by
        simpa [isWordCharacter] using inside first List.mem_cons_self
      rw [List.cons_append, firstAtWord?, notBlank]
      exact inductionHypothesis fun character member =>
        inside character (List.mem_cons_of_mem first member)

/--
A search through a text reads its words one after the other: at the start of a
run the reader sees the run and no more, and inside a run nothing is read.
-/
theorem firstAtWord?_eq (text : List Char) :
    firstAtWord? read true text = (words text).findSome? read := by
  rw [words_eq_runs]
  induction text using runInduction isWordCharacter with
  | nil =>
      rfl
  | outside first rest parts inductionHypothesis =>
      have blank : isBlank first = true := by
        simpa [isWordCharacter] using parts
      have nothingHere : read (first :: rest) = none :=
        reads.read_of_startsOutside (startsOutside_cons.mpr parts)
      rw [runs_cons_of_not parts, ← inductionHypothesis, firstAtWord?, if_pos rfl, nothingHere,
        blank]
  | run run rest nonempty inside parts inductionHypothesis =>
      have readHere : read (run ++ rest) = read run := by
        rw [reads.whole, List.takeWhile_append_of_pos inside, takeWhile_of_startsOutside parts,
          List.append_nil]
      obtain ⟨first, others, rfl⟩ := List.exists_cons_of_ne_nil nonempty
      have notBlank : isBlank first = false := by
        simpa [isWordCharacter] using inside first List.mem_cons_self
      have othersInside : ∀ character ∈ others, isWordCharacter character = true :=
        fun character member => inside character (List.mem_cons_of_mem first member)
      rw [List.cons_append] at readHere
      rw [runs_append_of_forall nonempty inside parts, List.findSome?_cons, List.cons_append,
        firstAtWord?, if_pos rfl, readHere, notBlank, firstAtWord?_within othersInside,
        reads.firstAtWord?_of_startsOutside parts, inductionHypothesis]
      rfl

section OfAText

variable {text word : List Char} (isWord : word ∈ words text)

include isWord

/-- What is read off a whole word is what its form says. -/
theorem read_eq_some_iff {said : α} : read word = some said ↔ form word said :=
  reads.understands fun _ member => isWordCharacter_of_mem_words isWord member

/-- Nothing is read off a word whose form says nothing. -/
theorem read_eq_none_iff : read word = none ↔ ∀ said, ¬ form word said := by
  rw [Option.eq_none_iff_forall_ne_some]
  exact forall_congr' fun said => not_congr (reads.read_eq_some_iff isWord)

end OfAText

/-- A search finds nothing exactly if no word of the text says anything. -/
theorem firstAtWord?_eq_none_iff (text : List Char) :
    firstAtWord? read true text = none ↔ NoneSays form (words text) := by
  rw [reads.firstAtWord?_eq, List.findSome?_eq_none_iff]
  exact forall₂_congr fun word isWord => reads.read_eq_none_iff isWord

/-- Otherwise it finds what the first word says that says anything. -/
theorem firstAtWord?_eq_some_iff (text : List Char) (said : α) :
    firstAtWord? read true text = some said ↔ FirstSays form (words text) said := by
  rw [reads.firstAtWord?_eq, List.findSome?_eq_some_iff, FirstSays]
  refine exists₃_congr fun front word back => and_congr_right fun parted => ?_
  have isWord : word ∈ words text := by
    rw [parted]
    simp
  have beforeIsWord : ∀ earlier ∈ front, earlier ∈ words text := by
    intro earlier member
    rw [parted]
    exact List.mem_append_left _ member
  exact and_congr (reads.read_eq_some_iff isWord)
    (forall₂_congr fun earlier member => reads.read_eq_none_iff (beforeIsWord earlier member))

/-- Words that are not understood may be put in or left out. -/
theorem firstAtWord?_of_alike
    {silent : List Char → Prop} (notUnderstood : ∀ word, silent word → ∀ said, ¬ form word said)
    {first second : List Char} (alike : AlikeBut silent (words first) (words second)) :
    firstAtWord? read true first = firstAtWord? read true second := by
  rw [reads.firstAtWord?_eq, reads.firstAtWord?_eq]
  apply alike.findSome?_eq
  · exact fun word isWord silentWord =>
      (reads.read_eq_none_iff isWord).mpr (notUnderstood word silentWord)
  · exact fun word isWord silentWord =>
      (reads.read_eq_none_iff isWord).mpr (notUnderstood word silentWord)

/-- The order of words does not matter if only one of them is understood. -/
theorem firstAtWord?_of_perm
    {first second : List Char} (sameWords : (words first).Perm (words second))
    (one : OneSaysAtMost form (words first)) :
    firstAtWord? read true first = firstAtWord? read true second := by
  have understoodOnce :
      ((words first).filterMap read).Pairwise (fun _ _ => False) := by
    rw [List.pairwise_filterMap]
    refine one.imp_of_mem fun firstMember secondMember notBoth said found other otherFound => ?_
    exact notBoth said other
      ⟨(reads.read_eq_some_iff firstMember).mp found,
        (reads.read_eq_some_iff secondMember).mp otherFound⟩
  have permuted := sameWords.filterMap read
  have sameSayings :
      (words first).filterMap read = (words second).filterMap read :=
    permuted.eq_of_pairwise (fun _ _ _ _ impossible _ => impossible.elim) understoodOnce
      (permuted.pairwise understoodOnce id)
  rw [reads.firstAtWord?_eq, reads.firstAtWord?_eq, ← List.head?_filterMap, sameSayings,
    List.head?_filterMap]

end ReadsWords

end Tangle.Text
