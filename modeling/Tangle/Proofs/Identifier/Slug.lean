import Mathlib.Data.List.Basic
import Tangle.Proofs.Identifier
import Tangle.Proofs.Text.Runs

namespace Tangle

/-!
# What a slug is

The slug of a text is made in several passes.  All of them keep the runs of
small letters and digits that the lowercased text has once the characters
without a part in slugs are gone, and the last ones leave a single hyphen
between these runs and nothing around them.  So a slug is nothing but these
runs joined by hyphens, whichever passes bring the rest to hyphens.
-/

/-- A text of small letters and digits in parts that are not empty, with a hyphen between two. -/
inductive IsSlug : List Char → Prop where
  | part {letters : List Char} :
      letters ≠ [] → (∀ letter ∈ letters, isSlugLetter letter = true) → IsSlug letters
  | hyphen {letters rest : List Char} :
      letters ≠ [] → (∀ letter ∈ letters, isSlugLetter letter = true) → IsSlug rest →
        IsSlug (letters ++ '-' :: rest)

/-- A character of a slug is its own lower case. -/
theorem IsStemCharacter.lowercaseCharacter_eq
    {character : Char} (stem : IsStemCharacter character) :
    Text.lowercaseCharacter character = [character] := by
  have bounds := stem.code_bounds
  apply Text.lowercaseCharacter_of_lt
  · omega
  · rintro ⟨fromA, toZ⟩
    have low : 65 ≤ character.toNat := fromA
    have high : character.toNat ≤ 90 := toZ
    omega

/-- A hyphen is no letter of a slug. -/
theorem isSlugLetter_hyphen : isSlugLetter '-' = false := by
  decide

/-- And no letter of a slug is a hyphen. -/
theorem beq_hyphen_of_isSlugLetter {letter : Char} (isLetter : isSlugLetter letter = true) :
    (letter == '-') = false := by
  rw [beq_eq_false_iff_ne]
  rintro rfl
  rw [isSlugLetter_hyphen] at isLetter
  contradiction

/-- What may stand in a stem and is no letter is a hyphen. -/
theorem IsStemCharacter.eq_hyphen
    {character : Char} (stem : IsStemCharacter character)
    (notLetter : isSlugLetter character = false) :
    character = '-' :=
  stem.resolve_left (by simp [notLetter])

/-- A blank is no letter of a slug. -/
theorem isSlugLetter_eq_false_of_isBlank
    {character : Char} (blank : Text.isBlank character = true) :
    isSlugLetter character = false := by
  cases letter : isSlugLetter character with
  | false =>
      rfl
  | true =>
      have notBlank := IsStemCharacter.not_isBlank (Or.inl letter)
      rw [blank] at notBlank
      contradiction

namespace IsSlug

/-- A slug has characters. -/
theorem ne_nil {slug : List Char} (isSlug : IsSlug slug) : slug ≠ [] := by
  cases isSlug with
  | part nonempty _ => exact nonempty
  | hyphen nonempty _ _ => simp

/-- Parts of letters joined by hyphens are a slug. -/
theorem intercalate
    {parts : List (List Char)} (nonempty : parts ≠ [])
    (each :
      ∀ part ∈ parts, part ≠ [] ∧ ∀ letter ∈ part, isSlugLetter letter = true) :
    IsSlug (List.intercalate ['-'] parts) := by
  induction parts with
  | nil =>
      contradiction
  | cons first rest inductionHypothesis =>
      obtain ⟨firstNonempty, firstLetters⟩ := each first List.mem_cons_self
      cases rest with
      | nil =>
          simpa using part firstNonempty firstLetters
      | cons next later =>
          rw [List.intercalate_cons_cons, List.append_assoc]
          exact hyphen firstNonempty firstLetters
            (inductionHypothesis (List.cons_ne_nil next later)
              fun part member => each part (List.mem_cons_of_mem first member))

/-- A slug starts with a letter. -/
theorem head_isSlugLetter
    {slug : List Char} (isSlug : IsSlug slug) {first : Char} (found : slug.head? = some first) :
    isSlugLetter first = true := by
  cases isSlug with
  | part nonempty letters =>
      exact letters first (List.mem_of_head? found)
  | hyphen nonempty letters _ =>
      rw [List.head?_append_of_ne_nil _ nonempty] at found
      exact letters first (List.mem_of_head? found)

/-- A slug ends with a letter. -/
theorem last_isSlugLetter
    {slug : List Char} (isSlug : IsSlug slug) {last : Char} (found : slug.getLast? = some last) :
    isSlugLetter last = true := by
  induction isSlug with
  | part nonempty letters =>
      exact letters last (List.mem_of_getLast? found)
  | hyphen nonempty letters isSlug inductionHypothesis =>
      apply inductionHypothesis
      rwa [List.getLast?_append_of_ne_nil _ (List.cons_ne_nil _ _),
        List.getLast?_cons_of_ne_nil isSlug.ne_nil] at found

/-- A slug has no hyphen at its ends. -/
theorem trimWhere_eq_self {slug : List Char} (isSlug : IsSlug slug) :
    Text.trimWhere (· == '-') slug = slug := by
  apply Text.trimWhere_eq_self
  · exact fun _ found => beq_hyphen_of_isSlugLetter (isSlug.head_isSlugLetter found)
  · exact fun _ found => beq_hyphen_of_isSlugLetter (isSlug.last_isSlugLetter found)

end IsSlug

/-- The runs of letters of a text, with a hyphen between any two. -/
def hyphenatedRuns (characters : List Char) : List Char :=
  List.intercalate ['-'] (Text.runs isSlugLetter characters)

/-- Runs joined by hyphens are a slug, unless there are none. -/
theorem hyphenatedRuns_eq_nil_or_isSlug (characters : List Char) :
    hyphenatedRuns characters = [] ∨ IsSlug (hyphenatedRuns characters) := by
  by_cases noRuns : Text.runs isSlugLetter characters = []
  · left
    rw [hyphenatedRuns, noRuns]
    rfl
  · right
    exact .intercalate noRuns fun run isRun =>
      ⟨Text.nonempty_of_mem_runs isRun, fun _ member => Text.belongs_of_mem_runs isRun member⟩

/-- Joining the runs by hyphens adds no run and loses none. -/
theorem runs_hyphenatedRuns (characters : List Char) :
    Text.runs isSlugLetter (hyphenatedRuns characters) = Text.runs isSlugLetter characters := by
  rw [hyphenatedRuns, Text.runs_intercalate isSlugLetter_hyphen,
    Text.flatMap_runs fun _ outside => outside]

/-- Joined runs have no hyphen at their ends. -/
theorem trimWhere_hyphenatedRuns (characters : List Char) :
    Text.trimWhere (· == '-') (hyphenatedRuns characters) = hyphenatedRuns characters := by
  rcases hyphenatedRuns_eq_nil_or_isSlug characters with nothing | isSlug
  · rw [nothing]
    rfl
  · exact isSlug.trimWhere_eq_self

/-- Squeezing puts one character for every run of it. -/
theorem squeeze_eq_markRuns (repeated : Char) (characters : List Char) :
    squeeze repeated characters =
      Text.markRuns (· == repeated) repeated false characters := by
  have goingOn :
      squeeze repeated (repeated :: characters) =
        repeated :: Text.markRuns (· == repeated) repeated true characters ∧
      squeeze repeated characters = Text.markRuns (· == repeated) repeated false characters := by
    induction characters with
    | nil =>
        exact ⟨rfl, rfl⟩
    | cons first rest inductionHypothesis =>
        obtain ⟨behindRepeated, fromHere⟩ := inductionHypothesis
        by_cases same : first = repeated
        · subst first
          have again : squeeze repeated (repeated :: repeated :: rest) =
              squeeze repeated (repeated :: rest) := by
            rw [squeeze]
            simp
          rw [again, behindRepeated]
          simp [Text.markRuns]
        · have kept : squeeze repeated (first :: rest) =
              first :: Text.markRuns (· == repeated) repeated false rest := by
            rw [← fromHere]
            cases rest <;> simp [squeeze, same]
          have behind : squeeze repeated (repeated :: first :: rest) =
              repeated :: squeeze repeated (first :: rest) := by
            rw [squeeze]
            simp [same]
          rw [behind, kept]
          simp [Text.markRuns, same]
  exact goingOn.2

section Hyphens

variable {characters : List Char}

/--
Letters and hyphens come to their runs joined by hyphens, but for hyphens at the
end: a hyphen stands between two runs, or is one of those at the end.
-/
theorem exists_markRuns_eq (stem : ∀ character ∈ characters, IsStemCharacter character) :
    ∃ hyphens : List Char,
      Text.markRuns (· == '-') '-' true characters = hyphenatedRuns characters ++ hyphens ∧
        ∀ hyphen ∈ hyphens, hyphen = '-' := by
  induction characters using Text.runInduction isSlugLetter with
  | nil =>
      exact ⟨[], rfl, by simp⟩
  | outside first rest notLetter inductionHypothesis =>
      obtain ⟨hyphens, marked, allHyphens⟩ :=
        inductionHypothesis fun character member => stem character (List.mem_cons_of_mem _ member)
      have isHyphen : first = '-' := (stem first List.mem_cons_self).eq_hyphen notLetter
      refine ⟨hyphens, ?_, allHyphens⟩
      rw [hyphenatedRuns, Text.runs_cons_of_not notLetter, ← hyphenatedRuns, ← marked, isHyphen]
      rfl
  | run run rest nonempty letters parts inductionHypothesis =>
      have restStem : ∀ character ∈ rest, IsStemCharacter character :=
        fun character member => stem character (List.mem_append_right run member)
      obtain ⟨hyphens, marked, allHyphens⟩ := inductionHypothesis restStem
      have notHyphen : ∀ character ∈ run, (character == '-') = false :=
        fun character member => beq_hyphen_of_isSlugLetter (letters character member)
      rw [Text.markRuns_append_of_not nonempty notHyphen, hyphenatedRuns,
        Text.runs_append_of_forall nonempty letters parts]
      cases rest with
      | nil =>
          exact ⟨[], by simp [Text.markRuns], by simp⟩
      | cons first later =>
          have isHyphen : first = '-' :=
            (restStem first List.mem_cons_self).eq_hyphen (Text.startsOutside_cons.mp parts)
          have behindHyphen :
              Text.markRuns (· == '-') '-' false (first :: later) =
                '-' :: Text.markRuns (· == '-') '-' true (first :: later) := by
            rw [isHyphen]
            rfl
          rw [behindHyphen, marked]
          cases runsBehind : Text.runs isSlugLetter (first :: later) with
          | nil =>
              exact ⟨'-' :: hyphens, by simp [hyphenatedRuns, runsBehind],
                by simpa using allHyphens⟩
          | cons next others =>
              refine ⟨hyphens, ?_, allHyphens⟩
              rw [hyphenatedRuns, runsBehind, List.intercalate_cons_cons]
              simp

/-- Of letters and hyphens, squeezing and trimming leave the runs joined by hyphens. -/
theorem trimWhere_markRuns (stem : ∀ character ∈ characters, IsStemCharacter character) :
    Text.trimWhere (· == '-') (Text.markRuns (· == '-') '-' false characters) =
      hyphenatedRuns characters := by
  obtain ⟨hyphens, marked, allHyphens⟩ := exists_markRuns_eq stem
  have firstTrimmed :
      Text.trimWhere (· == '-') (Text.markRuns (· == '-') '-' false characters) =
        Text.trimWhere (· == '-') (Text.markRuns (· == '-') '-' true characters) := by
    cases characters with
    | nil =>
        rfl
    | cons first rest =>
        rw [Text.markRuns, Text.markRuns]
        split
        · exact Text.trimWhere_cons_of_drops rfl _
        · rfl
  rw [firstTrimmed, marked, Text.trimWhere_append_of_drops (by simpa using allHyphens),
    trimWhere_hyphenatedRuns]

end Hyphens

/-- What of a lowercased text has a part in its slug: letters, blanks and hyphens. -/
def slugSource (text : String) : List Char :=
  (Text.lowercase text.toList).filter isSlugSource

section Source

variable {text : String}

/-- What is kept of a text for its slug is a character of stems, or a blank. -/
theorem isStemCharacter_of_mem_slugSource
    {character : Char} (member : character ∈ slugSource text)
    (notBlank : Text.isBlank character = false) :
    IsStemCharacter character := by
  have source := (List.mem_filter.mp member).2
  simpa [isSlugSource, notBlank, IsStemCharacter] using source

/-- A slug is the runs of letters in its source, with a hyphen between any two. -/
theorem slugify_toList : (slugify text).toList = hyphenatedRuns (slugSource text) := by
  have stem :
      ∀ character ∈ List.intercalate ['-'] (Text.words (slugSource text)),
        IsStemCharacter character := by
    intro character member
    rcases Text.mem_of_mem_intercalate member with hyphen | ⟨word, isWord, inWord⟩
    · exact Or.inr (List.mem_singleton.mp hyphen)
    · obtain ⟨kept, notBlank⟩ := Text.mem_of_mem_words isWord inWord
      exact isStemCharacter_of_mem_slugSource kept notBlank
  have narrower :
      ∀ character, Text.isWordCharacter character = false → isSlugLetter character = false := by
    intro character blank
    exact isSlugLetter_eq_false_of_isBlank (by simpa [Text.isWordCharacter] using blank)
  have sameRuns :
      Text.runs isSlugLetter (List.intercalate ['-'] (Text.words (slugSource text))) =
        Text.runs isSlugLetter (slugSource text) := by
    rw [Text.runs_intercalate isSlugLetter_hyphen, Text.words_eq_runs, Text.flatMap_runs narrower]
  calc
    (slugify text).toList =
        Text.trimWhere (· == '-')
          (squeeze '-' (List.intercalate ['-'] (Text.words (slugSource text)))) := by
      rw [slugify, String.toList_ofList]
      rfl
    _ = hyphenatedRuns (List.intercalate ['-'] (Text.words (slugSource text))) := by
      rw [squeeze_eq_markRuns, trimWhere_markRuns stem]
    _ = hyphenatedRuns (slugSource text) := by
      rw [hyphenatedRuns, sameRuns, hyphenatedRuns]

/-- Blanks may as well be brought to hyphens run by run before hyphens are squeezed. -/
theorem trimWhere_markRuns_slugSource :
    Text.trimWhere (· == '-')
        (Text.markRuns (· == '-') '-' false
          (Text.markRuns Text.isBlank '-' false (slugSource text))) =
      hyphenatedRuns (slugSource text) := by
  have stem :
      ∀ character ∈ Text.markRuns Text.isBlank '-' false (slugSource text),
        IsStemCharacter character := by
    intro character member
    rcases Text.mem_of_mem_markRuns member with hyphen | ⟨kept, notBlank⟩
    · exact Or.inr hyphen
    · exact isStemCharacter_of_mem_slugSource kept notBlank
  have sameRuns :
      Text.runs isSlugLetter (Text.markRuns Text.isBlank '-' false (slugSource text)) =
        Text.runs isSlugLetter (slugSource text) := by
    apply Text.runs_markRuns
    · exact fun _ blank => isSlugLetter_eq_false_of_isBlank blank
    · exact isSlugLetter_hyphen
  rw [trimWhere_markRuns stem, hyphenatedRuns, sameRuns, hyphenatedRuns]

/-- What slugs consist of is lower case already. -/
theorem slugSource_of_stem (stem : ∀ character ∈ text.toList, IsStemCharacter character) :
    slugSource text = text.toList := by
  have lowercased : Text.lowercase text.toList = text.toList := by
    rw [Text.lowercase, List.flatMap_congr fun character member =>
      (stem character member).lowercaseCharacter_eq, List.flatMap_singleton']
  rw [slugSource, lowercased, List.filter_eq_self]
  intro character member
  rcases stem character member with letter | rfl
  · simp [isSlugSource, letter]
  · decide

/-- A slug is its own slug. -/
theorem slugify_slugify : slugify (slugify text) = slugify text := by
  apply String.toList_inj.mp
  rw [slugify_toList, slugSource_of_stem fun _ member => isStemCharacter_of_mem_slugify member,
    slugify_toList, hyphenatedRuns, runs_hyphenatedRuns, hyphenatedRuns]

end Source

/--
The slug of a text is the maximal runs of small Latin letters and digits that
the lowercased text has after everything but these, blanks and hyphens is gone,
with a hyphen between any two.  So it is empty, or parts of letters and digits
with one hyphen between them; it is its own slug; and it is what is left when
every run of blanks becomes a hyphen, every run of hyphens becomes one, and the
hyphens at both ends go.
-/
theorem slugify_is_hyphenated_runs (text : String) :
    (slugify text).toList =
      List.intercalate ['-'] (Text.runs isSlugLetter (slugSource text)) ∧
    (slugify text = "" ∨ IsSlug (slugify text).toList) ∧
    slugify (slugify text) = slugify text ∧
    (slugify text).toList =
      Text.trimWhere (· == '-')
        (Text.markRuns (· == '-') '-' false
          (Text.markRuns Text.isBlank '-' false (slugSource text))) := by
  refine ⟨slugify_toList, ?_, slugify_slugify,
    slugify_toList.trans trimWhere_markRuns_slugSource.symm⟩
  rw [← String.toList_eq_nil_iff, slugify_toList]
  exact hyphenatedRuns_eq_nil_or_isSlug (slugSource text)

example : slugify " Größe: 1 - § -2\n" = "gre-1-2" := by
  decide +kernel

end Tangle
