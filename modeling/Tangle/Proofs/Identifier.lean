import Tangle.Identifier
import Tangle.Proofs.Text.Trim

namespace Tangle

/-!
# The characters of slugs

A slug consists of small Latin letters, digits and hyphens, none of which means
anything in a path: they are neither blank nor a dot nor a slash.
-/

/-- The characters that slugs and numbers are written with. -/
def IsStemCharacter (character : Char) : Prop :=
  isSlugLetter character = true ∨ character = '-'

/-- The letters of slugs are the small ones from a to z and the digits. -/
theorem isSlugLetter_iff {character : Char} :
    isSlugLetter character = true ↔
      97 ≤ character.toNat ∧ character.toNat ≤ 122 ∨
        48 ≤ character.toNat ∧ character.toNat ≤ 57 := by
  simp only [isSlugLetter, Bool.or_eq_true, Bool.and_eq_true, decide_eq_true_eq]
  rfl

namespace IsStemCharacter

variable {character : Char}

/-- A character of a stem is such a letter, a digit or a hyphen. -/
theorem code_bounds (stem : IsStemCharacter character) :
    97 ≤ character.toNat ∧ character.toNat ≤ 122 ∨
      48 ≤ character.toNat ∧ character.toNat ≤ 57 ∨ character.toNat = 45 := by
  rcases stem with letter | rfl
  · have bounds := isSlugLetter_iff.mp letter
    omega
  · right
    right
    rfl

/-- The digits of a number may stand in a stem. -/
theorem of_isDigit (digit : character.isDigit = true) : IsStemCharacter character := by
  left
  rw [isSlugLetter_iff]
  right
  simpa [Char.isDigit, UInt32.le_iff_toNat_le] using digit

/-- No blank stands in a stem. -/
theorem not_isBlank (stem : IsStemCharacter character) : Text.isBlank character = false := by
  have bounds := stem.code_bounds
  simp only [Text.isBlank, Bool.or_eq_false_iff, Bool.and_eq_false_iff, decide_eq_false_iff_not,
    beq_eq_false_iff_ne]
  omega

/-- No dot stands in a stem. -/
theorem ne_dot (stem : IsStemCharacter character) : character ≠ '.' := by
  rintro rfl
  have bounds := stem.code_bounds
  simp at bounds

/-- No slash stands in a stem. -/
theorem ne_slash (stem : IsStemCharacter character) : character ≠ '/' := by
  rintro rfl
  have bounds := stem.code_bounds
  simp at bounds

end IsStemCharacter

/-- Making one of several hyphens in a row brings in no character. -/
theorem mem_of_mem_squeeze
    {repeated character : Char} {characters : List Char}
    (member : character ∈ squeeze repeated characters) :
    character ∈ characters := by
  fun_induction squeeze repeated characters with
  | case1 =>
      exact member
  | case2 last =>
      exact member
  | case3 first second rest _ inductionHypothesis =>
      exact List.mem_cons_of_mem _ (inductionHypothesis member)
  | case4 first second rest _ inductionHypothesis =>
      rcases List.mem_cons.mp member with rfl | later
      · exact List.mem_cons_self
      · exact List.mem_cons_of_mem _ (inductionHypothesis later)

/-- Of a text only letters of slugs come into its slug, and hyphens in between. -/
theorem isStemCharacter_of_mem_slugify {text : String} {character : Char}
    (member : character ∈ (slugify text).toList) :
    IsStemCharacter character := by
  rw [slugify, String.toList_ofList, slugCharacters] at member
  have joined := mem_of_mem_squeeze (Text.mem_of_mem_trimWhere member)
  rcases Text.mem_of_mem_intercalate joined with hyphen | ⟨word, isWord, inWord⟩
  · exact Or.inr (List.mem_singleton.mp hyphen)
  · obtain ⟨kept, notBlank⟩ := Text.mem_of_mem_words isWord inWord
    have source := (List.mem_filter.mp kept).2
    simpa [isSlugSource, notBlank, IsStemCharacter] using source

end Tangle
