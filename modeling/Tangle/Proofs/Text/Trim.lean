import Mathlib.Data.List.TakeWhile
import Tangle.Text.Blank

namespace Tangle.Text

/-!
# Trimmed texts and their parts

Trimming drops characters at the ends of a text and nothing within, so a front
without such characters stays whole.  Splitting gives parts without separators,
of which the first is what stands in front of the first separator.
-/

/-- Dropping at the end leaves a front of the text. -/
theorem dropEndWhile_isPrefix (drops : Char → Bool) (characters : List Char) :
    dropEndWhile drops characters <+: characters := by
  rw [← List.reverse_suffix, dropEndWhile, List.reverse_reverse]
  exact List.dropWhile_suffix drops

/-- Trimming brings in no character. -/
theorem mem_of_mem_trimWhere
    {drops : Char → Bool} {characters : List Char} {character : Char}
    (member : character ∈ trimWhere drops characters) :
    character ∈ characters :=
  (List.dropWhile_suffix drops).subset
    ((dropEndWhile_isPrefix drops (characters.dropWhile drops)).subset member)

/-- What is trimmed does not start with a character that is to be dropped. -/
theorem head?_trimWhere
    {drops : Char → Bool} {characters : List Char} {first : Char}
    (found : (trimWhere drops characters).head? = some first) :
    drops first = false := by
  have kept : trimWhere drops characters <+: characters.dropWhile drops :=
    dropEndWhile_isPrefix drops (characters.dropWhile drops)
  obtain ⟨dropped, shape⟩ := kept
  have startsAlike : (characters.dropWhile drops).head? = some first := by
    rw [← shape, List.head?_append, found]
    rfl
  have notDropped := List.head?_dropWhile_not drops characters
  rw [startsAlike] at notDropped
  simpa using notDropped

/-- Nor does it end with one. -/
theorem getLast?_trimWhere
    {drops : Char → Bool} {characters : List Char} {last : Char}
    (found : (trimWhere drops characters).getLast? = some last) :
    drops last = false :=
  getLast?_dropEndWhile found

/-- A text keeps all its characters when none is dropped at its end. -/
theorem dropEndWhile_eq_self
    {drops : Char → Bool} {characters : List Char}
    (lastKept : ∀ last, characters.getLast? = some last → drops last = false) :
    dropEndWhile drops characters = characters := by
  have nothingBehind : characters.reverse.dropWhile drops = characters.reverse := by
    cases reversed : characters.reverse with
    | nil =>
        rfl
    | cons last others =>
        have isLast : characters.getLast? = some last := by
          rw [← List.head?_reverse, reversed, List.head?_cons]
        rw [List.dropWhile_cons_of_neg]
        simp [lastKept last isLast]
  rw [dropEndWhile, nothingBehind, List.reverse_reverse]

/-- A text keeps all its characters when none is dropped at either end. -/
theorem trimWhere_eq_self
    {drops : Char → Bool} {characters : List Char}
    (firstKept : ∀ first, characters.head? = some first → drops first = false)
    (lastKept : ∀ last, characters.getLast? = some last → drops last = false) :
    trimWhere drops characters = characters := by
  have nothingInFront : characters.dropWhile drops = characters := by
    cases characters with
    | nil =>
        rfl
    | cons first rest =>
        rw [List.dropWhile_cons_of_neg]
        simp [firstKept first rfl]
  rw [trimWhere, nothingInFront, dropEndWhile_eq_self lastKept]

/-- Trimming drops two runs of characters, one at either end. -/
theorem exists_around_trimWhere (drops : Char → Bool) (characters : List Char) :
    ∃ front back,
      characters = front ++ trimWhere drops characters ++ back ∧
        (∀ character ∈ front, drops character = true) ∧
        ∀ character ∈ back, drops character = true := by
  have endParted :
      ∀ text : List Char,
        text = dropEndWhile drops text ++ (text.reverse.takeWhile drops).reverse := by
    intro text
    rw [dropEndWhile, ← List.reverse_append, List.takeWhile_append_dropWhile, List.reverse_reverse]
  refine ⟨characters.takeWhile drops,
    ((characters.dropWhile drops).reverse.takeWhile drops).reverse, ?_, ?_, ?_⟩
  · rw [List.append_assoc, trimWhere, ← endParted, List.takeWhile_append_dropWhile]
  · exact fun character member => List.mem_takeWhile_imp member
  · exact fun character member => List.mem_takeWhile_imp (List.mem_reverse.mp member)

/-- It is a part of the text without gaps. -/
theorem trimWhere_isInfix (drops : Char → Bool) (characters : List Char) :
    trimWhere drops characters <:+: characters :=
  (dropEndWhile_isPrefix drops _).isInfix.trans (List.dropWhile_suffix drops).isInfix

/-- A character of a part of a split text is one of the text, and no separator. -/
theorem mem_of_mem_splitOnP
    {separates : Char → Bool} {characters part : List Char}
    (isPart : part ∈ characters.splitOnP separates)
    {character : Char} (member : character ∈ part) :
    character ∈ characters ∧ separates character = false := by
  induction characters generalizing part with
  | nil =>
      simp_all
  | cons first rest inductionHypothesis =>
      have later :
          ∀ other ∈ rest.splitOnP separates, character ∈ other →
            character ∈ first :: rest ∧ separates character = false := by
        intro other isOther inOther
        obtain ⟨inRest, notSeparator⟩ := inductionHypothesis isOther inOther
        exact ⟨List.mem_cons_of_mem _ inRest, notSeparator⟩
      rw [List.splitOnP_cons_eq_if_modifyHead] at isPart
      split at isPart
      · rcases List.mem_cons.mp isPart with rfl | inRest
        · contradiction
        · exact later part inRest member
      · rename_i notSeparator
        cases parts : rest.splitOnP separates with
        | nil =>
            simp [parts] at isPart
        | cons head tail =>
            rw [parts] at later
            rw [parts, List.modifyHead_cons] at isPart
            rcases List.mem_cons.mp isPart with rfl | inTail
            · rcases List.mem_cons.mp member with rfl | inHead
              · exact ⟨List.mem_cons_self, by simpa using notSeparator⟩
              · exact later head List.mem_cons_self inHead
            · exact later part (List.mem_cons_of_mem _ inTail) member

/-- A character of a word is one of the text, and not blank. -/
theorem mem_of_mem_words
    {characters word : List Char} (isWord : word ∈ words characters)
    {character : Char} (member : character ∈ word) :
    character ∈ characters ∧ isBlank character = false :=
  mem_of_mem_splitOnP (List.mem_filter.mp isWord).1 member

/-- A character of joined parts stands between them or in one of them. -/
theorem mem_of_mem_intercalate
    {between : List Char} {parts : List (List Char)} {character : Char}
    (member : character ∈ List.intercalate between parts) :
    character ∈ between ∨ ∃ part ∈ parts, character ∈ part := by
  induction parts with
  | nil =>
      contradiction
  | cons first rest inductionHypothesis =>
      cases rest with
      | nil =>
          rw [List.intercalate_singleton] at member
          exact Or.inr ⟨first, List.mem_cons_self, member⟩
      | cons next later =>
          rw [List.intercalate_cons_cons, List.append_assoc, List.mem_append,
            List.mem_append] at member
          rcases member with inFirst | inBetween | inRest
          · exact Or.inr ⟨first, List.mem_cons_self, inFirst⟩
          · exact Or.inl inBetween
          · rcases inductionHypothesis inRest with inBetween | ⟨part, isPart, inPart⟩
            · exact Or.inl inBetween
            · exact Or.inr ⟨part, List.mem_cons_of_mem _ isPart, inPart⟩

/-- Every character of a part is one of the joined parts. -/
theorem mem_intercalate_of_mem
    {between part : List Char} {parts : List (List Char)} (isPart : part ∈ parts)
    {character : Char} (member : character ∈ part) :
    character ∈ List.intercalate between parts := by
  induction parts with
  | nil =>
      contradiction
  | cons first rest inductionHypothesis =>
      cases rest with
      | nil =>
          rw [List.mem_singleton.mp isPart] at member
          rwa [List.intercalate_singleton]
      | cons next later =>
          rw [List.intercalate_cons_cons]
          rcases List.mem_cons.mp isPart with rfl | isLater
          · exact List.mem_append_left _ (List.mem_append_left _ member)
          · exact List.mem_append_right _ (inductionHypothesis isLater)

/-- Characters to be dropped may stand at the end or not. -/
theorem dropEndWhile_append_of_drops
    {drops : Char → Bool} {back : List Char}
    (dropped : ∀ character ∈ back, drops character = true) (text : List Char) :
    dropEndWhile drops (text ++ back) = dropEndWhile drops text := by
  rw [dropEndWhile, List.reverse_append, List.dropWhile_append_of_pos (by simpa using dropped)]
  rfl

/-- Nothing in front of a character that is kept is dropped. -/
theorem dropEndWhile_append_cons
    {drops : Char → Bool} {last : Char} (kept : drops last = false) (front back : List Char) :
    dropEndWhile drops (front ++ last :: back) = front ++ last :: dropEndWhile drops back := by
  have notDropped : ¬ drops last = true := by
    simp [kept]
  rw [dropEndWhile, List.reverse_append, List.reverse_cons, List.append_assoc,
    List.dropWhile_append, dropEndWhile]
  split
  · rename_i allDropped
    rw [List.isEmpty_iff.mp allDropped, List.singleton_append,
      List.dropWhile_cons_of_neg notDropped]
    simp
  · simp

/-- A front of which no character is dropped keeps what is trimmed behind it. -/
theorem trimWhere_append
    {drops : Char → Bool} {front : List Char} (nonempty : front ≠ [])
    (keeps : ∀ character ∈ front, drops character = false) (back : List Char) :
    trimWhere drops (front ++ back) = front ++ dropEndWhile drops back := by
  have startsKept : (front ++ back).dropWhile drops = front ++ back := by
    obtain ⟨first, rest, rfl⟩ := List.exists_cons_of_ne_nil nonempty
    rw [List.cons_append, List.dropWhile_cons_of_neg]
    simp [keeps first List.mem_cons_self]
  have endDropped :=
    dropEndWhile_append_cons (keeps _ (List.getLast_mem nonempty)) front.dropLast back
  rw [List.append_cons, List.dropLast_concat_getLast nonempty, List.append_cons,
    List.dropLast_concat_getLast nonempty] at endDropped
  rw [trimWhere, startsKept, endDropped]

/-- So they may where both ends are trimmed. -/
theorem trimWhere_append_of_drops
    {drops : Char → Bool} {back : List Char}
    (dropped : ∀ character ∈ back, drops character = true) (characters : List Char) :
    trimWhere drops (characters ++ back) = trimWhere drops characters := by
  rw [trimWhere, List.dropWhile_append]
  split
  · rename_i nothingLeft
    have allDropped : back.dropWhile drops = [] := List.dropWhile_eq_nil_iff.mpr dropped
    rw [allDropped, trimWhere, List.isEmpty_iff.mp nothingLeft]
  · rw [dropEndWhile_append_of_drops dropped, trimWhere]

/-- A character to be dropped may stand in front or not. -/
theorem trimWhere_cons_of_drops
    {drops : Char → Bool} {first : Char} (dropped : drops first = true) (rest : List Char) :
    trimWhere drops (first :: rest) = trimWhere drops rest := by
  rw [trimWhere, List.dropWhile_cons_of_pos dropped, trimWhere]

/-- The first part of a split text is what stands in front of the first separator. -/
theorem exists_splitOnP_eq (separates : Char → Bool) (characters : List Char) :
    ∃ others,
      characters.splitOnP separates =
        characters.takeWhile (fun character => !separates character) :: others := by
  induction characters with
  | nil =>
      exact ⟨[], rfl⟩
  | cons first rest inductionHypothesis =>
      obtain ⟨others, split⟩ := inductionHypothesis
      rw [List.splitOnP_cons_eq_if_modifyHead, split]
      by_cases separator : separates first = true
      · exact ⟨rest.takeWhile (fun character => !separates character) :: others,
          by simp [separator]⟩
      · exact ⟨others, by simp [separator]⟩

/-- A split text whose first character is no separator has a first part that starts with it. -/
theorem exists_first_part
    (separates : Char → Bool) {first : Char} (kept : separates first = false) (rest : List Char) :
    ∃ part others,
      (first :: rest).splitOnP separates = (first :: part) :: others := by
  obtain ⟨others, split⟩ := exists_splitOnP_eq separates (first :: rest)
  rw [List.takeWhile_cons_of_pos (by simp [kept])] at split
  exact ⟨_, others, split⟩

/-- A split text whose last character is no separator has a last part that ends with it. -/
theorem exists_last_part
    (separates : Char → Bool) {last : Char} (kept : separates last = false) (front : List Char) :
    ∃ others part,
      (front ++ [last]).splitOnP separates = others ++ [part ++ [last]] := by
  induction front with
  | nil =>
      exact ⟨[], [], by simp [List.splitOnP_cons_eq_if_modifyHead, kept]⟩
  | cons first rest inductionHypothesis =>
      obtain ⟨others, part, split⟩ := inductionHypothesis
      rw [List.cons_append, List.splitOnP_cons_eq_if_modifyHead, split]
      by_cases separator : separates first = true
      · exact ⟨[] :: others, part, by simp [separator]⟩
      · cases others with
        | nil =>
            exact ⟨[], first :: part, by simp [separator]⟩
        | cons head tail =>
            exact ⟨(first :: head) :: tail, part, by simp [separator]⟩

/-- A part of a joined text stands between separators or at an end. -/
theorem exists_around_of_mem
    (separator : Char) {parts : List (List Char)} {part : List Char} (member : part ∈ parts) :
    ∃ front back,
      List.intercalate [separator] parts = front ++ part ++ back ∧
        (front = [] ∨ [separator] <:+ front) ∧ (back = [] ∨ [separator] <+: back) := by
  induction parts with
  | nil =>
      contradiction
  | cons first rest inductionHypothesis =>
      cases rest with
      | nil =>
          cases List.mem_singleton.mp member
          exact ⟨[], [], by simp, Or.inl rfl, Or.inl rfl⟩
      | cons next later =>
          rw [List.intercalate_cons_cons]
          rcases List.mem_cons.mp member with rfl | inRest
          · exact ⟨[], [separator] ++ List.intercalate [separator] (next :: later), by simp,
              Or.inl rfl, Or.inr (List.prefix_append _ _)⟩
          · obtain ⟨front, back, joined, atFront, atBack⟩ := inductionHypothesis inRest
            refine ⟨first ++ [separator] ++ front, back, by simp [joined], Or.inr ?_, atBack⟩
            rcases atFront with rfl | behind
            · simp
            · exact behind.trans (List.suffix_append _ _)

end Tangle.Text
