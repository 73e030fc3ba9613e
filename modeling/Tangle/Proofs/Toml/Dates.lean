import Tangle.Proofs.Toml.Strings

namespace Tangle.Toml

/-!
# Dates in settings

A date ends with its line, and the blank between a date and a time is one only
if a digit follows.  So dates are read alike from texts that differ in their line
ends, and so is every value without other values in it.
-/

namespace StaysInLine

/-- Digits have no part in line ends. -/
theorem digit : StaysInLine Char.isDigit := ⟨by decide, by decide⟩

/-- Nor do the characters of dates. -/
theorem date : StaysInLine isDateCharacter := ⟨by decide, by decide⟩

end StaysInLine

/-- Where a time stands behind a blank, there are the blank and a digit. -/
theorem exists_digit_of_hasTimeBehind {text : List Char} (goesOn : hasTimeBehind text = true) :
    ∃ digit rest, text = ' ' :: digit :: rest ∧ digit.isDigit = true := by
  rw [hasTimeBehind.eq_def] at goesOn
  split at goesOn
  · exact ⟨_, _, rfl, goesOn⟩
  · contradiction

namespace SameLines

variable {text other : List Char}

/-- A time stands behind a blank in both texts, and so does what follows the blank. -/
theorem hasTimeBehind
    (same : SameLines text other) (goesOn : hasTimeBehind text = true) :
    hasTimeBehind other = true ∧ SameLines text.tail other.tail := by
  obtain ⟨digit, rest, rfl, isDigit⟩ := exists_digit_of_hasTimeBehind goesOn
  obtain ⟨otherTail, rfl, sameTail⟩ := same.exists_cons (by decide)
  obtain ⟨otherRest, rfl, _⟩ := sameTail.exists_cons (StaysInLine.digit.isInLine isDigit)
  exact ⟨isDigit, sameTail⟩

/-- Two texts start with the same date, and the same lines follow. -/
theorem dateFront (same : SameLines text other) :
    (dateFront text).1 = (dateFront other).1 ∧
      SameLines (dateFront text).2 (dateFront other).2 := by
  have sameBehind := same.dropWhile .date
  have sameFront := same.takeWhile_eq .date
  by_cases goesOn : Toml.hasTimeBehind (text.dropWhile isDateCharacter) = true
  · obtain ⟨otherGoesOn, sameTail⟩ := sameBehind.hasTimeBehind goesOn
    rw [Toml.dateFront, Toml.dateFront, if_pos goesOn, if_pos otherGoesOn, sameFront,
      sameTail.takeWhile_eq .date]
    exact ⟨rfl, sameTail.dropWhile .date⟩
  · have otherStops : ¬ Toml.hasTimeBehind (other.dropWhile isDateCharacter) = true :=
      fun otherGoesOn => goesOn (sameBehind.symm.hasTimeBehind otherGoesOn).1
    rw [Toml.dateFront, Toml.dateFront, if_neg goesOn, if_neg otherStops]
    exact ⟨sameFront, sameBehind⟩

end SameLines

/-- What stands behind a date that is not void is shorter than the text. -/
theorem length_dateFront {text : List Char} (nonempty : (dateFront text).1 ≠ []) :
    (dateFront text).2.length < text.length := by
  have parted :
      (text.takeWhile isDateCharacter).length + (text.dropWhile isDateCharacter).length =
        text.length := by
    rw [← List.length_append, List.takeWhile_append_dropWhile]
  rw [dateFront] at nonempty ⊢
  split
  · rename_i goesOn
    obtain ⟨digit, rest, behind, _⟩ := exists_digit_of_hasTimeBehind goesOn
    have passed := List.length_dropWhile_le isDateCharacter (digit :: rest)
    rw [behind, List.length_cons] at parted
    rw [behind]
    dsimp only [List.tail_cons]
    omega
  · rename_i stops
    rw [if_neg stops] at nonempty
    have positive := List.length_pos_iff.mpr nonempty
    dsimp only at positive ⊢
    omega

/-- Nothing is no date. -/
theorem ne_nil_of_kept? {text kept : List Char} (isDate : Date.kept? text = some kept) :
    text ≠ [] := by
  rintro rfl
  contradiction

/-- A date is read alike. -/
theorem date?_readsAlike : ReadsAlike date? := by
  intro text other rest item same taken
  obtain ⟨kept, isKept, shape⟩ := Option.map_eq_some_iff.mp taken
  cases shape
  obtain ⟨sameFront, sameBehind⟩ := same.dateFront
  rw [sameFront] at isKept
  refine ⟨(dateFront other).2, ?_, sameBehind, length_dateFront (ne_nil_of_kept? isKept)⟩
  rw [date?, isKept]
  rfl

/-- What is read alike is missed alike. -/
theorem ReadsAlike.eq_none
    {Item : Type} {reader : List Char → Option (Item × List Char)} (alike : ReadsAlike reader)
    {text other : List Char} (same : SameLines text other) (missed : reader text = none) :
    reader other = none := by
  cases taken : reader other with
  | none => rfl
  | some found =>
      obtain ⟨rest, isTaken, _⟩ := alike same.symm taken
      rw [missed] at isTaken
      contradiction

/-- A value that is a string or a date is read alike. -/
theorem plainValue?_readsAlike : ReadsAlike plainValue? := by
  intro text other rest item same taken
  rw [plainValue?] at taken
  split at taken
  · rename_i read behind isString
    cases taken
    obtain ⟨otherRest, otherString, sameRest, shorter⟩ := string?_readsAlike same isString
    refine ⟨otherRest, ?_, sameRest, shorter⟩
    rw [plainValue?, otherString]
  · rename_i noString
    obtain ⟨otherRest, otherDate, sameRest, shorter⟩ :=
      ReadsAlike.map date?_readsAlike Value.date same taken
    refine ⟨otherRest, ?_, sameRest, shorter⟩
    rw [plainValue?, string?_readsAlike.eq_none same noString]
    exact otherDate

end Tangle.Toml
