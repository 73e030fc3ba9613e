import Mathlib.Data.List.Basic
import Tangle.Proofs.Text.Trim

namespace Tangle.Text

/-!
# Texts made of lines

Records that are written one after another, each with a line feed behind it, are
the lines of the text if none of them holds a line feed itself.  A record that
holds some falls into several lines of the text.
-/

/-- Every line, each with a line feed behind it. -/
def ended (lines : List (List Char)) : List Char :=
  lines.flatMap (fun line => line ++ ['\n'])

/-- What a split text consists of, ended line by line, is the ended text. -/
theorem ended_splitOn (text : List Char) : ended (text.splitOn '\n') = text ++ ['\n'] := by
  have ended_eq :
      ∀ (first : List Char) (rest : List (List Char)),
        ended (first :: rest) = List.intercalate ['\n'] (first :: rest) ++ ['\n'] := by
    intro first rest
    induction rest generalizing first with
    | nil =>
        simp [ended]
    | cons next later inductionHypothesis =>
        have behind := inductionHypothesis next
        rw [List.intercalate_cons_cons]
        simp only [ended, List.flatMap_cons, List.append_assoc] at behind ⊢
        rw [behind]
  obtain ⟨first, rest, parts⟩ := List.exists_cons_of_ne_nil (List.splitOn_ne_nil '\n' text)
  calc
    ended (text.splitOn '\n') = List.intercalate ['\n'] (text.splitOn '\n') ++ ['\n'] := by
      rw [parts, ended_eq]
    _ = text ++ ['\n'] := by
      rw [List.intercalate_splitOn]

/-- An ended text falls into the lines of its records, with nothing behind the last one. -/
theorem splitOn_ended (records : List (List Char)) :
    (ended records).splitOn '\n' = records.flatMap (List.splitOn '\n') ++ [[]] := by
  induction records with
  | nil =>
      rfl
  | cons record rest inductionHypothesis =>
      have shape : ended (record :: rest) = record ++ '\n' :: ended rest := by
        simp [ended]
      rw [shape, List.splitOn_append_cons_self, inductionHypothesis, List.flatMap_cons,
        List.append_assoc]

/-- The records of an ended text are its lines exactly if none of them holds a line feed. -/
theorem splitOn_ended_eq_iff {records : List (List Char)} :
    (ended records).splitOn '\n' = records ++ [[]] ↔ ∀ record ∈ records, '\n' ∉ record := by
  constructor
  · intro areLines record member lineFeed
    have isLine : record ∈ (ended records).splitOn '\n' := by
      rw [areLines]
      exact List.mem_append_left _ member
    rw [List.splitOn_eq_splitOnP] at isLine
    have noSeparator := (mem_of_mem_splitOnP isLine lineFeed).2
    contradiction
  · intro noLineFeed
    have eachAlone : records.flatMap (List.splitOn '\n') = records.flatMap fun record => [record] :=
      List.flatMap_congr fun record member => List.splitOn_eq_singleton (noLineFeed record member)
    rw [splitOn_ended, eachAlone, List.flatMap_singleton']

end Tangle.Text
