import Tangle.Naming
import Tangle.Proofs.Identifier
import Tangle.TreePath

namespace Tangle

/-!
# Stems of names that are counted

A name that is made with a count has a stem of slug and number, or of a number
alone.  The number stands behind the last hyphen, so a stem tells the slug and
the number it is made of.  Nothing in a stem means anything in a path: whatever
extension is put behind it, the stem is what the first directory or the file
itself is called up to its first dot.
-/

/-- What the number in a name counts: blocks under a heading with a slug, or in the document. -/
inductive Counter where
  | heading (position : Nat) (slug : String)
  | document
  deriving Repr, DecidableEq

namespace Counter

/-- The slug that stands in front of the numbers of a counter. -/
def slug? : Counter → Option String
  | .heading _ slug => some slug
  | .document => none

/-- What stands in front of the extension in a name with a number of a counter. -/
def stem : Counter → Nat → String
  | .heading _ slug, number => slug ++ "-" ++ toString number
  | .document, number => toString number

end Counter

/-- A name tells the stem that its extension is put behind. -/
theorem Naming.withExtension_injective
    {stem other : String} {language : Option String}
    (same : withExtension stem language = withExtension other language) :
    stem = other := by
  cases language with
  | none =>
      exact same
  | some language =>
      have sameCharacters := congrArg String.toList same
      simp only [withExtension, String.append_assoc, String.toList_append] at sameCharacters
      exact String.toList_inj.mp (List.append_cancel_right sameCharacters)

/-- A number is told by its digits. -/
theorem toString_injective {number other : Nat} (same : toString number = toString other) :
    number = other := by
  have sameDigits : Nat.toDigits 10 number = Nat.toDigits 10 other := by
    simpa [Nat.toString_eq_ofList_toDigits] using congrArg String.toList same
  calc
    number = Nat.ofDigitChars 10 (Nat.toDigits 10 number) 0 :=
      Nat.ofDigitChars_ten_toDigits.symm
    _ = Nat.ofDigitChars 10 (Nat.toDigits 10 other) 0 := by rw [sameDigits]
    _ = other := Nat.ofDigitChars_ten_toDigits

/-- A number is written in digits. -/
theorem isDigit_of_mem_toString {number : Nat} {character : Char}
    (member : character ∈ (toString number).toList) :
    character.isDigit = true := by
  rw [Nat.toString_eq_ofList_toDigits, String.toList_ofList] at member
  exact Nat.isDigit_of_mem_toDigits (by decide) (by decide) member

/-- And in at least one. -/
theorem toString_toList_ne_nil (number : Nat) : (toString number).toList ≠ [] := by
  rw [Nat.toString_eq_ofList_toDigits, String.toList_ofList]
  exact Nat.toDigits_ne_nil

namespace Counter

variable {counter other : Counter} {number otherNumber : Nat}

/-- A stem is the slug with a hyphen, if there is a slug, and the number. -/
theorem stem_toList (counter : Counter) (number : Nat) :
    (counter.stem number).toList =
      (counter.slug?.elim [] fun slug => slug.toList ++ ['-']) ++ (toString number).toList := by
  cases counter with
  | heading position slug =>
      simp [stem, slug?]
  | document =>
      simp [stem, slug?]

/-- A stem is not empty. -/
theorem stem_toList_ne_nil (counter : Counter) (number : Nat) :
    (counter.stem number).toList ≠ [] := by
  rw [stem_toList]
  exact List.append_ne_nil_of_right_ne_nil _ (toString_toList_ne_nil number)

/-- Slugs, hyphens and digits are made of the characters of stems. -/
theorem isStemCharacter_of_mem_stem
    (slugFits : ∀ slug, counter.slug? = some slug → ∀ character ∈ slug.toList,
      IsStemCharacter character)
    {character : Char} (member : character ∈ (counter.stem number).toList) :
    IsStemCharacter character := by
  rw [stem_toList] at member
  rcases List.mem_append.mp member with inFront | inNumber
  · cases hasSlug : counter.slug? with
    | none =>
        simp [hasSlug] at inFront
    | some slug =>
        rw [hasSlug, Option.elim_some] at inFront
        rcases List.mem_append.mp inFront with inSlug | hyphen
        · exact slugFits slug hasSlug character inSlug
        · exact Or.inr (List.mem_singleton.mp hyphen)
  · exact .of_isDigit (isDigit_of_mem_toString inNumber)

/-- Read backwards, a stem is its number up to the first hyphen. -/
theorem takeWhile_reverse_stem (counter : Counter) (number : Nat) :
    (counter.stem number).toList.reverse.takeWhile (· != '-') =
      (toString number).toList.reverse := by
  have noHyphen : ∀ character ∈ (toString number).toList.reverse, (character != '-') = true := by
    intro character member
    have digit := isDigit_of_mem_toString (List.mem_reverse.mp member)
    rw [bne_iff_ne]
    rintro rfl
    contradiction
  rw [stem_toList, List.reverse_append, List.takeWhile_append_of_pos noHyphen]
  cases counter.slug? with
  | none =>
      simp
  | some slug =>
      simp

/-- A stem tells its number and the slug in front, if there is one. -/
theorem stem_injective (same : counter.stem number = other.stem otherNumber) :
    counter.slug? = other.slug? ∧ number = otherNumber := by
  have sameNumber : number = otherNumber := by
    have sameDigits := counter.takeWhile_reverse_stem number
    rw [same, takeWhile_reverse_stem] at sameDigits
    exact (toString_injective (String.toList_inj.mp (List.reverse_inj.mp sameDigits))).symm
  subst sameNumber
  have sameFront := congrArg String.toList same
  rw [stem_toList, stem_toList] at sameFront
  have sameSlug := List.append_cancel_right sameFront
  refine ⟨?_, rfl⟩
  cases hasSlug : counter.slug? <;> cases otherSlug : other.slug? <;>
    simp_all [String.toList_inj]

end Counter

namespace Text

variable {stem tail : List Char}

/-- What stands before the first dot is the stem, however much is kept of the extension. -/
theorem takeWhile_append_of_isPrefix
    (stemCharacters : ∀ character ∈ stem, IsStemCharacter character)
    {kept : List Char} (front : kept <+: tail) (extension : tail.takeWhile (· != '.') = []) :
    (stem ++ kept).takeWhile (· != '.') = stem := by
  have noDot : ∀ character ∈ stem, (character != '.') = true := by
    intro character member
    exact bne_iff_ne.mpr (stemCharacters character member).ne_dot
  have nothingKept : kept.takeWhile (· != '.') = [] := by
    obtain ⟨dropped, rfl⟩ := front
    cases kept with
    | nil =>
        rfl
    | cons first rest =>
        by_cases dot : first = '.'
        · simp [dot]
        · simp [dot] at extension
  rw [List.takeWhile_append_of_pos noDot, nothingKept, List.append_nil]

end Text

namespace TreePath

variable {stem : List Char}

/-- A stem stands whole in the first name of a path, in front of what is kept of its tail. -/
theorem names_append
    (nonempty : stem ≠ [])
    (stemCharacters : ∀ character ∈ stem, IsStemCharacter character) (tail : List Char) :
    ∃ kept others, kept <+: tail ∧ names (stem ++ tail) = (stem ++ kept) :: others := by
  have noEdge : ∀ character ∈ stem, isEdge character = false := by
    intro character member
    simp [isEdge, (stemCharacters character member).ne_dot,
      (stemCharacters character member).ne_slash]
  have noBlank : ∀ character ∈ stem, Text.isBlank character = false :=
    fun character member => (stemCharacters character member).not_isBlank
  have noSlash : ∀ character ∈ stem, (!(character == '/')) = true := by
    intro character member
    simp [(stemCharacters character member).ne_slash]
  let trimmed := Text.dropEndWhile isEdge tail
  let firstPart := trimmed.takeWhile fun character => !(character == '/')
  let kept := Text.dropEndWhile Text.isBlank firstPart
  have front : kept <+: tail :=
    (Text.dropEndWhile_isPrefix _ _).trans
      ((List.takeWhile_prefix _).trans (Text.dropEndWhile_isPrefix _ _))
  have naming : isNaming (stem ++ kept) = true := by
    obtain ⟨first, rest, rfl⟩ := List.exists_cons_of_ne_nil nonempty
    simp [isNaming, (stemCharacters first List.mem_cons_self).ne_dot]
  obtain ⟨others, split⟩ := Text.exists_splitOnP_eq (· == '/') (stem ++ trimmed)
  refine ⟨kept, (others.map (Text.trimWhere Text.isBlank)).filter isNaming, front, ?_⟩
  rw [names, Text.trimWhere_append nonempty noEdge, split,
    List.takeWhile_append_of_pos noSlash, List.map_cons,
    Text.trimWhere_append nonempty noBlank]
  exact List.filter_cons_of_pos naming

/-- A name with a stem is a path whose first name is that stem up to its first dot. -/
theorem exists_sanitize?_withExtension
    {stem : String} (nonempty : stem.toList ≠ [])
    (stemCharacters : ∀ character ∈ stem.toList, IsStemCharacter character)
    (language : Option String) :
    ∃ path first others,
      sanitize? (Naming.withExtension stem language) = some path ∧
        path.segments = first :: others ∧ first.toList.takeWhile (· != '.') = stem.toList := by
  obtain ⟨tail, written, extension⟩ :
      ∃ tail, (Naming.withExtension stem language).toList = stem.toList ++ tail ∧
        tail.takeWhile (· != '.') = [] := by
    cases language with
    | none =>
        exact ⟨[], by simp [Naming.withExtension], rfl⟩
    | some language =>
        exact ⟨'.' :: language.toList, by simp [Naming.withExtension], by simp⟩
  obtain ⟨kept, others, front, given⟩ := names_append nonempty stemCharacters tail
  have someName : (names (stem.toList ++ tail)).map String.ofList ≠ [] := by
    simp [given]
  obtain ⟨path, read⟩ : ∃ path, sanitize? (Naming.withExtension stem language) = some path := by
    rw [sanitize?, written, ofNames?, List.getLast?_eq_some_getLast someName]
    exact ⟨_, rfl⟩
  have segmentsAre := segments_of_ofNames? read
  rw [written, given, List.map_cons] at segmentsAre
  refine ⟨path, _, _, read, segmentsAre, ?_⟩
  rw [String.toList_ofList]
  exact Text.takeWhile_append_of_isPrefix stemCharacters front extension

end TreePath

end Tangle
