import Mathlib.Data.List.TakeWhile
import Tangle.Proofs.Text.Runs
import Tangle.Toml.Reader

namespace Tangle.Toml

/-!
# Line ends in settings

Settings mean the same whether their lines end in line feeds or in carriage
returns with line feeds, and whether or not there is a line end behind the last
line.  Two texts that differ only so are read in lock-step: what a reader takes
from one it takes from the other, and it leaves two texts that differ only so.
-/

/-- A text starts with a line end, and this is what stands behind. -/
inductive LineEnd : List Char → List Char → Prop where
  | lineFeed (rest : List Char) : LineEnd ('\n' :: rest) rest
  | carriageReturn (rest : List Char) : LineEnd ('\r' :: '\n' :: rest) rest

/-- Nothing stands in a text but perhaps a line end. -/
inductive Finished : List Char → Prop where
  | nothing : Finished []
  | lineEnd {text : List Char} : LineEnd text [] → Finished text

/-- A character that has no part in line ends. -/
structure IsInLine (character : Char) : Prop where
  notLineFeed : character ≠ '\n'
  notReturn : character ≠ '\r'

/-- No character of a text has a part in line ends. -/
def IsOneLine (text : List Char) : Prop :=
  ∀ character ∈ text, IsInLine character

/-- Two texts have the same lines, whichever line ends they are written with. -/
inductive SameLines : List Char → List Char → Prop where
  | finished {text other : List Char} : Finished text → Finished other → SameLines text other
  | inLine {character : Char} {text other : List Char} :
      IsInLine character → SameLines text other →
        SameLines (character :: text) (character :: other)
  | lineEnd {text other rest otherRest : List Char} :
      LineEnd text rest → LineEnd other otherRest → SameLines rest otherRest →
        SameLines text other

/-- A class of characters that have no part in line ends. -/
structure StaysInLine (belongs : Char → Bool) : Prop where
  lineFeed : belongs '\n' = false
  carriageReturn : belongs '\r' = false

instance (character : Char) : Decidable (IsInLine character) :=
  decidable_of_iff (character ≠ '\n' ∧ character ≠ '\r')
    ⟨fun both => ⟨both.1, both.2⟩, fun inLine => ⟨inLine.1, inLine.2⟩⟩

instance (text : List Char) : Decidable (IsOneLine text) :=
  List.decidableBAll IsInLine text

namespace StaysInLine

variable {belongs : Char → Bool}

/-- Blanks and tabs have no part in line ends. -/
theorem gap : StaysInLine isGap := ⟨by decide, by decide⟩

/-- Nor do the characters that stand in strings and comments as they are. -/
theorem string : StaysInLine isStringCharacter := ⟨by decide, by decide⟩

/-- Nor do the characters of bare names. -/
theorem name : StaysInLine isNameCharacter := ⟨by decide, by decide⟩

/-- Nor does a single sign that is not a part of a line end. -/
theorem sign {sign : Char} (inLine : IsInLine sign) : StaysInLine (· == sign) :=
  ⟨beq_eq_false_iff_ne.mpr inLine.notLineFeed.symm, beq_eq_false_iff_ne.mpr inLine.notReturn.symm⟩

variable (stays : StaysInLine belongs)

include stays

/-- A character of such a class is no part of a line end. -/
theorem isInLine {character : Char} (isOne : belongs character = true) : IsInLine character := by
  constructor
  · rintro rfl
    simp [stays.lineFeed] at isOne
  · rintro rfl
    simp [stays.carriageReturn] at isOne

/-- A text that starts with a line end starts outside such a class. -/
theorem startsOutside_of_lineEnd {text rest : List Char} (lineEnd : LineEnd text rest) :
    Text.StartsOutside belongs text := by
  cases lineEnd with
  | lineFeed => exact Text.startsOutside_cons.mpr stays.lineFeed
  | carriageReturn => exact Text.startsOutside_cons.mpr stays.carriageReturn

/-- So does one in which nothing stands but perhaps a line end. -/
theorem startsOutside_of_finished {text : List Char} (finished : Finished text) :
    Text.StartsOutside belongs text := by
  cases finished with
  | nothing => exact Text.startsOutside_nil
  | lineEnd lineEnd => exact stays.startsOutside_of_lineEnd lineEnd

end StaysInLine

/-- What stands behind a line end is shorter than the text. -/
theorem LineEnd.length_lt {text rest : List Char} (lineEnd : LineEnd text rest) :
    rest.length < text.length := by
  cases lineEnd with
  | lineFeed => exact Nat.lt_succ_self _
  | carriageReturn => exact Nat.lt_succ_of_lt (Nat.lt_succ_self _)

namespace SameLines

variable {text other : List Char}

/-- Having the same lines goes both ways. -/
theorem symm (same : SameLines text other) : SameLines other text := by
  induction same with
  | finished isFinished otherFinished => exact .finished otherFinished isFinished
  | inLine inLine _ inductionHypothesis => exact .inLine inLine inductionHypothesis
  | lineEnd lineEnd otherEnd _ inductionHypothesis =>
      exact .lineEnd otherEnd lineEnd inductionHypothesis

/-- Two empty texts have the same lines. -/
theorem nil : SameLines [] [] :=
  .finished .nothing .nothing

/-- A character that is no line end stands in both texts. -/
theorem exists_cons
    {character : Char} (same : SameLines (character :: text) other)
    (inLine : IsInLine character) :
    ∃ rest, other = character :: rest ∧ SameLines text rest := by
  have noLineEnd : ∀ rest, ¬ LineEnd (character :: text) rest := by
    rintro rest (_ | _)
    · exact inLine.notLineFeed rfl
    · exact inLine.notReturn rfl
  cases same with
  | finished isFinished _ =>
      cases isFinished with
      | lineEnd lineEnd => exact absurd lineEnd (noLineEnd _)
  | inLine _ sameRest => exact ⟨_, rfl, sameRest⟩
  | lineEnd lineEnd _ _ => exact absurd lineEnd (noLineEnd _)

/-- So do several of them. -/
theorem exists_append
    {front : List Char} (same : SameLines (front ++ text) other) (oneLine : IsOneLine front) :
    ∃ rest, other = front ++ rest ∧ SameLines text rest := by
  induction front generalizing other with
  | nil =>
      exact ⟨other, rfl, same⟩
  | cons character later inductionHypothesis =>
      obtain ⟨firstInLine, laterOneLine⟩ := List.forall_mem_cons.mp oneLine
      obtain ⟨_, rfl, sameRest⟩ := exists_cons same firstInLine
      obtain ⟨rest, rfl, sameBehind⟩ := inductionHypothesis sameRest laterOneLine
      exact ⟨rest, rfl, sameBehind⟩

/-- A line end with something behind it is one in both texts. -/
theorem exists_lineEnd
    {behind : List Char} (same : SameLines text other) (lineEnd : LineEnd text behind)
    (nonempty : behind ≠ []) :
    ∃ otherBehind, LineEnd other otherBehind ∧ SameLines behind otherBehind := by
  have onlyBehind : ∀ {rest}, LineEnd text rest → rest = behind := by
    rintro rest (_ | _) <;> cases lineEnd <;> rfl
  cases same with
  | finished isFinished _ =>
      cases isFinished with
      | nothing => contradiction
      | lineEnd emptyBehind => exact absurd (onlyBehind emptyBehind).symm nonempty
  | inLine inLine _ =>
      cases lineEnd with
      | lineFeed => exact absurd rfl inLine.notLineFeed
      | carriageReturn => exact absurd rfl inLine.notReturn
  | lineEnd firstEnd otherEnd sameRest =>
      cases onlyBehind firstEnd
      exact ⟨_, otherEnd, sameRest⟩

/-- What one of the texts starts with, the other starts with as well. -/
theorem prefix_iff
    (same : SameLines text other) {front : List Char} (oneLine : IsOneLine front) :
    front <+: text ↔ front <+: other := by
  constructor
  · rintro ⟨behind, rfl⟩
    obtain ⟨rest, rfl, _⟩ := same.exists_append oneLine
    exact List.prefix_append front rest
  · rintro ⟨behind, rfl⟩
    obtain ⟨rest, rfl, _⟩ := same.symm.exists_append oneLine
    exact List.prefix_append front rest

/-- A character that is no line end stands in front of both texts or of neither. -/
theorem head?_iff (same : SameLines text other) {character : Char} (inLine : IsInLine character) :
    text.head? = some character ↔ other.head? = some character := by
  rw [List.head?_eq_some_iff, List.head?_eq_some_iff]
  constructor
  · rintro ⟨behind, rfl⟩
    obtain ⟨rest, rfl, _⟩ := same.exists_cons inLine
    exact ⟨rest, rfl⟩
  · rintro ⟨behind, rfl⟩
    obtain ⟨rest, rfl, _⟩ := same.symm.exists_cons inLine
    exact ⟨rest, rfl⟩

section Passing

variable {belongs : Char → Bool}

/-- Characters of a class without line ends are dropped from both texts alike. -/
theorem dropWhile (same : SameLines text other) (stays : StaysInLine belongs) :
    SameLines (text.dropWhile belongs) (other.dropWhile belongs) := by
  induction same with
  | finished isFinished otherFinished =>
      rw [Text.dropWhile_of_startsOutside (stays.startsOutside_of_finished isFinished),
        Text.dropWhile_of_startsOutside (stays.startsOutside_of_finished otherFinished)]
      exact .finished isFinished otherFinished
  | @inLine character text other inLine sameRest inductionHypothesis =>
      by_cases isOne : belongs character = true
      · rwa [List.dropWhile_cons_of_pos isOne, List.dropWhile_cons_of_pos isOne]
      · rw [List.dropWhile_cons_of_neg isOne, List.dropWhile_cons_of_neg isOne]
        exact .inLine inLine sameRest
  | lineEnd lineEnd otherEnd sameRest _ =>
      rw [Text.dropWhile_of_startsOutside (stays.startsOutside_of_lineEnd lineEnd),
        Text.dropWhile_of_startsOutside (stays.startsOutside_of_lineEnd otherEnd)]
      exact .lineEnd lineEnd otherEnd sameRest

/-- And the same ones are dropped. -/
theorem takeWhile_eq (same : SameLines text other) (stays : StaysInLine belongs) :
    text.takeWhile belongs = other.takeWhile belongs := by
  induction same with
  | finished isFinished otherFinished =>
      rw [Text.takeWhile_of_startsOutside (stays.startsOutside_of_finished isFinished),
        Text.takeWhile_of_startsOutside (stays.startsOutside_of_finished otherFinished)]
  | @inLine character text other inLine _ inductionHypothesis =>
      by_cases isOne : belongs character = true
      · rw [List.takeWhile_cons_of_pos isOne, List.takeWhile_cons_of_pos isOne, inductionHypothesis]
      · rw [List.takeWhile_cons_of_neg isOne, List.takeWhile_cons_of_neg isOne]
  | lineEnd lineEnd otherEnd _ _ =>
      rw [Text.takeWhile_of_startsOutside (stays.startsOutside_of_lineEnd lineEnd),
        Text.takeWhile_of_startsOutside (stays.startsOutside_of_lineEnd otherEnd)]

end Passing

end SameLines

/-! ## Passing line ends -/

/-- The line end in front of a text is dropped. -/
theorem dropLineEnd_of_lineEnd {text rest : List Char} (lineEnd : LineEnd text rest) :
    Text.dropLineEnd text = rest := by
  cases lineEnd <;> rfl

/-- Of a text with nothing but a line end nothing is left. -/
theorem dropLineEnd_of_finished {text : List Char} (finished : Finished text) :
    Text.dropLineEnd text = [] := by
  cases finished with
  | nothing => rfl
  | lineEnd lineEnd => exact dropLineEnd_of_lineEnd lineEnd

/-- No character but a line end is dropped. -/
theorem dropLineEnd_cons {character : Char} (inLine : IsInLine character) (rest : List Char) :
    Text.dropLineEnd (character :: rest) = character :: rest := by
  rw [Text.dropLineEnd]
  · rintro _ ⟨⟩
    exact inLine.notLineFeed rfl
  · rintro _ ⟨⟩
    exact inLine.notReturn rfl

/-- Dropping a line end makes no text longer. -/
theorem length_dropLineEnd (text : List Char) : (Text.dropLineEnd text).length ≤ text.length := by
  fun_cases Text.dropLineEnd text with
  | case1 rest => exact Nat.le_succ _
  | case2 rest => exact Nat.le_succ_of_le (Nat.le_succ _)
  | case3 text _ _ => exact Nat.le_refl _

/-- Texts with the same lines have the same lines behind a line end that is dropped. -/
theorem SameLines.dropLineEnd {text other : List Char} (same : SameLines text other) :
    SameLines (Text.dropLineEnd text) (Text.dropLineEnd other) := by
  cases same with
  | finished isFinished otherFinished =>
      rw [dropLineEnd_of_finished isFinished, dropLineEnd_of_finished otherFinished]
      exact .nil
  | inLine inLine sameRest =>
      rw [dropLineEnd_cons inLine, dropLineEnd_cons inLine]
      exact .inLine inLine sameRest
  | lineEnd lineEnd otherEnd sameRest =>
      rwa [dropLineEnd_of_lineEnd lineEnd, dropLineEnd_of_lineEnd otherEnd]

/-- A line end is skipped, and it ends a comment. -/
theorem skipLines_of_lineEnd
    {text rest : List Char} (lineEnd : LineEnd text rest) (inComment : Bool) :
    skipLines inComment text = skipLines false rest := by
  cases lineEnd <;> rw [skipLines]

/-- Of a text with nothing but a line end nothing is left behind the lines skipped. -/
theorem skipLines_of_finished {text : List Char} (finished : Finished text) (inComment : Bool) :
    skipLines inComment text = some [] := by
  cases finished with
  | nothing => rfl
  | lineEnd lineEnd => exact skipLines_of_lineEnd lineEnd inComment

/--
In a line a comment goes on with what may stand in one, and outside a comment a
gap is skipped and a number sign opens one.
-/
theorem skipLines_cons
    {character : Char} (inLine : IsInLine character) (inComment : Bool) (rest : List Char) :
    skipLines inComment (character :: rest) =
      if inComment then
        if isStringCharacter character then skipLines true rest else none
      else if isGap character then skipLines false rest
      else if character = '#' then skipLines true rest
      else some (character :: rest) := by
  rw [skipLines]
  · exact inLine.notLineFeed
  · exact fun _ isReturn _ => inLine.notReturn isReturn

/-- Skipping lines makes no text longer. -/
theorem length_skipLines
    {inComment : Bool} {text rest : List Char} (passed : skipLines inComment text = some rest) :
    rest.length ≤ text.length := by
  fun_induction skipLines inComment text with
  | case1 =>
      cases passed
      exact Nat.le_refl _
  | case2 _ later inductionHypothesis =>
      exact Nat.le_succ_of_le (inductionHypothesis passed)
  | case3 _ later inductionHypothesis =>
      exact Nat.le_succ_of_le (Nat.le_succ_of_le (inductionHypothesis passed))
  | case4 character later _ _ _ inductionHypothesis =>
      exact Nat.le_succ_of_le (inductionHypothesis passed)
  | case5 =>
      contradiction
  | case6 character later _ _ _ _ _ inductionHypothesis =>
      exact Nat.le_succ_of_le (inductionHypothesis passed)
  | case7 later _ _ _ _ _ inductionHypothesis =>
      exact Nat.le_succ_of_le (inductionHypothesis passed)
  | case8 =>
      cases passed
      exact Nat.le_refl _

/-- What is left of two texts where line ends have been passed: nothing, or the same lines. -/
inductive SameFront : List Char → List Char → Prop where
  | nothing : SameFront [] []
  | inLine {character : Char} {text other : List Char} :
      IsInLine character → SameLines text other →
        SameFront (character :: text) (character :: other)

/-- What is left where line ends have been passed has the same lines. -/
theorem SameFront.sameLines {text other : List Char} (same : SameFront text other) :
    SameLines text other := by
  cases same with
  | nothing => exact .nil
  | inLine inLine sameRest => exact .inLine inLine sameRest

/-- Line ends are passed in both texts alike. -/
theorem SameLines.skipLines
    {text other : List Char} (same : SameLines text other) {inComment : Bool} {rest : List Char}
    (passed : skipLines inComment text = some rest) :
    ∃ otherRest, skipLines inComment other = some otherRest ∧ SameFront rest otherRest := by
  induction same generalizing inComment with
  | finished isFinished otherFinished =>
      rw [skipLines_of_finished isFinished] at passed
      cases passed
      exact ⟨[], skipLines_of_finished otherFinished inComment, .nothing⟩
  | @inLine character text other inLine sameRest inductionHypothesis =>
      rw [skipLines_cons inLine] at passed ⊢
      by_cases commented : inComment = true
      · rw [if_pos commented] at passed ⊢
        by_cases isComment : isStringCharacter character = true
        · rw [if_pos isComment] at passed ⊢
          exact inductionHypothesis passed
        · rw [if_neg isComment] at passed
          contradiction
      · rw [if_neg commented] at passed ⊢
        by_cases gap : isGap character = true
        · rw [if_pos gap] at passed ⊢
          exact inductionHypothesis passed
        · rw [if_neg gap] at passed ⊢
          by_cases opens : character = '#'
          · rw [if_pos opens] at passed ⊢
            exact inductionHypothesis passed
          · rw [if_neg opens] at passed ⊢
            cases passed
            exact ⟨character :: other, rfl, .inLine inLine sameRest⟩
  | lineEnd lineEnd otherEnd sameRest inductionHypothesis =>
      rw [skipLines_of_lineEnd lineEnd] at passed
      rw [skipLines_of_lineEnd otherEnd]
      exact inductionHypothesis passed

/-- What is left of a text in front of which a comment is passed. -/
def withoutComment : List Char → List Char
  | '#' :: comment => comment.dropWhile isStringCharacter
  | text => text

/-- What stands behind the line end at the front of a text, or behind its end. -/
def behindLine? : List Char → Option (List Char)
  | [] => some []
  | '\n' :: rest => some rest
  | '\r' :: '\n' :: rest => some rest
  | _ => none

/-- A line ends where a line end, or the end, stands behind gaps and a comment. -/
theorem endLine_eq (text : List Char) :
    endLine text = behindLine? (withoutComment (text.dropWhile isGap)) := by
  rw [endLine]
  generalize text.dropWhile isGap = behind
  fun_cases withoutComment behind with
  | case1 comment =>
      rfl
  | case2 _ noComment =>
      simp only
      rfl

/-- What stands behind the end of a line is not longer than the text. -/
theorem length_endLine {text rest : List Char} (ended : endLine text = some rest) :
    rest.length ≤ text.length := by
  rw [endLine_eq] at ended
  have bare : (withoutComment (text.dropWhile isGap)).length ≤ text.length := by
    refine Nat.le_trans ?_ (List.length_dropWhile_le isGap text)
    fun_cases withoutComment (text.dropWhile isGap) with
    | case1 comment => exact Nat.le_succ_of_le (List.length_dropWhile_le _ _)
    | case2 _ _ => exact Nat.le_refl _
  refine Nat.le_trans ?_ bare
  generalize withoutComment (text.dropWhile isGap) = left at ended
  rw [behindLine?.eq_def] at ended
  split at ended
  · cases ended
    exact Nat.le_refl _
  · cases ended
    exact Nat.le_succ _
  · cases ended
    exact Nat.le_succ_of_le (Nat.le_succ _)
  · contradiction

/-- Where no number sign stands in front there is no comment to pass. -/
theorem withoutComment_of_startsOutside
    {text : List Char} (outside : Text.StartsOutside (· == '#') text) :
    withoutComment text = text := by
  cases text with
  | nil => rfl
  | cons character rest =>
      rw [withoutComment]
      rintro _ ⟨⟩
      simp [Text.startsOutside_cons] at outside

/-- Behind a line end stands the rest. -/
theorem behindLine?_of_lineEnd {text rest : List Char} (lineEnd : LineEnd text rest) :
    behindLine? text = some rest := by
  cases lineEnd <;> rfl

/-- Behind the last line end, or the end, stands nothing. -/
theorem behindLine?_of_finished {text : List Char} (finished : Finished text) :
    behindLine? text = some [] := by
  cases finished with
  | nothing => rfl
  | lineEnd lineEnd => exact behindLine?_of_lineEnd lineEnd

/-- Any other character goes on with the line. -/
theorem behindLine?_cons {character : Char} (inLine : IsInLine character) (rest : List Char) :
    behindLine? (character :: rest) = none := by
  rw [behindLine?]
  · exact List.cons_ne_nil character rest
  · rintro _ ⟨⟩
    exact inLine.notLineFeed rfl
  · rintro _ ⟨⟩
    exact inLine.notReturn rfl

namespace SameLines

variable {text other : List Char}

/-- Comments are passed in both texts alike. -/
theorem withoutComment (same : SameLines text other) :
    SameLines (withoutComment text) (withoutComment other) := by
  have hash : StaysInLine (· == '#') := .sign (by decide)
  cases same with
  | finished isFinished otherFinished =>
      rw [withoutComment_of_startsOutside (hash.startsOutside_of_finished isFinished),
        withoutComment_of_startsOutside (hash.startsOutside_of_finished otherFinished)]
      exact .finished isFinished otherFinished
  | @inLine character text other inLine sameRest =>
      by_cases opens : character = '#'
      · subst opens
        exact sameRest.dropWhile .string
      · have outside :
            ∀ rest, Text.StartsOutside (· == '#') (character :: rest) := by
          simpa [Text.startsOutside_cons] using opens
        rw [withoutComment_of_startsOutside (outside text),
          withoutComment_of_startsOutside (outside other)]
        exact .inLine inLine sameRest
  | lineEnd lineEnd otherEnd sameRest =>
      rw [withoutComment_of_startsOutside (hash.startsOutside_of_lineEnd lineEnd),
        withoutComment_of_startsOutside (hash.startsOutside_of_lineEnd otherEnd)]
      exact .lineEnd lineEnd otherEnd sameRest

/-- A line end, or the end, is passed in both texts alike. -/
theorem behindLine?
    (same : SameLines text other) {rest : List Char} (ended : behindLine? text = some rest) :
    ∃ otherRest, behindLine? other = some otherRest ∧ SameLines rest otherRest := by
  cases same with
  | finished isFinished otherFinished =>
      rw [behindLine?_of_finished isFinished] at ended
      cases ended
      exact ⟨[], behindLine?_of_finished otherFinished, .nil⟩
  | inLine inLine sameRest =>
      rw [behindLine?_cons inLine] at ended
      contradiction
  | lineEnd lineEnd otherEnd sameRest =>
      rw [behindLine?_of_lineEnd lineEnd] at ended
      cases ended
      exact ⟨_, behindLine?_of_lineEnd otherEnd, sameRest⟩

/-- A line that ends in one text ends in the other as well. -/
theorem endLine
    (same : SameLines text other) {rest : List Char} (ended : endLine text = some rest) :
    ∃ otherRest, endLine other = some otherRest ∧ SameLines rest otherRest := by
  rw [endLine_eq] at ended ⊢
  exact (same.dropWhile .gap).withoutComment.behindLine? ended

end SameLines

end Tangle.Toml
