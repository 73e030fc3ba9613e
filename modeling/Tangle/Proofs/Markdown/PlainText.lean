import Tangle.Markdown.Inline
import Tangle.Proofs.Markdown.PrintedBlocks

namespace Tangle

/-!
# Plain text

Letters, digits and spaces have no meaning of their own inside a block.  They
are read as literal text, in as many pieces as there are words and gaps, and the
text of a heading joins these pieces again.
-/

namespace Markdown

/-- A letter or a digit starts a piece that goes on to the next sign with a meaning. -/
theorem readPiece_word
    {first : Char} (plain : isWordOrSpace first) (notSpace : first ≠ ' ')
    (labels : List (List Char)) (pieces : List Piece) (previous : Char) (rest : List Char) :
    readPiece labels pieces previous first rest =
      (.literal (first :: rest.takeWhile isPlain) :: pieces,
        (first :: rest.takeWhile isPlain).getLast?.getD first, rest.dropWhile isPlain) := by
  have noStar : first ≠ '*' := ne_of_class plain (by decide)
  have noUnderscore : first ≠ '_' := ne_of_class plain (by decide)
  rw [readPiece.eq_def]
  split
  all_goals first | contradiction | simp [noStar, noUnderscore]

/-- Spaces in front of plain text stand for themselves. -/
theorem spaces_plain
    {rest : List Char} (plain : ∀ character ∈ rest, isWordOrSpace character) :
    spaces rest =
      (.literal (' ' :: rest.takeWhile (· == ' ')), ' ', rest.dropWhile (· == ' ')) := by
  have noLineFeed : ∀ behind, rest.dropWhile (· == ' ') ≠ '\n' :: behind := by
    intro behind shape
    have member : '\n' ∈ rest.dropWhile (· == ' ') := by
      simp [shape]
    have lineFeedPlain := plain '\n' ((List.dropWhile_suffix _).subset member)
    exact ne_of_class lineFeedPlain (by decide) rfl
  rw [spaces]
  split
  · rename_i behind shape
    exact absurd shape (noLineFeed behind)
  · rw [Text.takeWhile_eq_replicate ' ' rest, List.length_replicate]
    rfl

/-- Plain text gives literal pieces: one is read, and it takes something of the text. -/
theorem readPiece_plain
    {first : Char} {rest : List Char}
    (plain : ∀ character ∈ first :: rest, isWordOrSpace character)
    (labels : List (List Char)) (pieces : List Piece) (previous : Char) :
    ∃ word last behind,
      readPiece labels pieces previous first rest = (.literal word :: pieces, last, behind) ∧
        word ≠ [] ∧ word ++ behind = first :: rest := by
  obtain ⟨firstPlain, restPlain⟩ := List.forall_mem_cons.mp plain
  by_cases space : first = ' '
  · refine ⟨' ' :: rest.takeWhile (· == ' '), ' ', rest.dropWhile (· == ' '), ?_,
      List.cons_ne_nil _ _, ?_⟩
    · rw [space, readPiece.eq_def]
      simp only [spaces_plain restPlain]
    · rw [space, List.cons_append, List.takeWhile_append_dropWhile]
  · have read := readPiece_word firstPlain space labels pieces previous rest
    refine ⟨_, _, _, read, List.cons_ne_nil _ _, ?_⟩
    rw [List.cons_append, List.takeWhile_append_dropWhile]

/--
Plain text gives literal pieces, and these are the text again.  Every piece takes
a character at least, so the length of the text is fuel enough.
-/
theorem readPieces_plain
    {text : List Char} (plain : ∀ character ∈ text, isWordOrSpace character)
    (labels : List (List Char)) (pieces : List Piece) (previous : Char)
    {fuel : Nat} (enough : text.length ≤ fuel) :
    ∃ words : List (List Char),
      readPieces labels fuel pieces previous text =
          (words.map Piece.literal).reverse ++ pieces ∧
        words.flatten = text := by
  induction fuel generalizing text pieces previous with
  | zero =>
      have empty : text = [] := List.eq_nil_of_length_eq_zero (Nat.le_zero.mp enough)
      exact ⟨[], rfl, empty.symm⟩
  | succ fuel inductionHypothesis =>
      cases text with
      | nil =>
          exact ⟨[], rfl, rfl⟩
      | cons first rest =>
          obtain ⟨word, last, behind, read, nonempty, parts⟩ :=
            readPiece_plain plain labels pieces previous
          have behindPlain : ∀ character ∈ behind, isWordOrSpace character := by
            intro character member
            apply plain
            rw [← parts]
            exact List.mem_append_right word member
          have behindShort : behind.length ≤ fuel := by
            have lengths := congrArg List.length parts
            have wordLength := List.length_pos_of_ne_nil nonempty
            simp only [List.length_append, List.length_cons] at lengths enough
            omega
          obtain ⟨words, readBehind, joined⟩ :=
            inductionHypothesis behindPlain (.literal word :: pieces) last behindShort
          refine ⟨word :: words, ?_, ?_⟩
          · simp only [readPieces, read, readBehind]
            simp
          · rw [List.flatten_cons, joined, parts]

/-- Literal pieces have no runs of signs that could be paired. -/
theorem pairRuns_literals (words : List (List Char)) (before : List Piece) :
    pairRuns before (words.map Piece.literal) =
      eventsOf ((words.map Piece.literal).reverse ++ before) := by
  induction words generalizing before with
  | nil =>
      rfl
  | cons word rest inductionHypothesis =>
      have goesOn :
          pairRuns before (Piece.literal word :: rest.map Piece.literal) =
            pairRuns (Piece.literal word :: before) (rest.map Piece.literal) :=
        rfl
      rw [List.map_cons, goesOn, inductionHypothesis, List.reverse_cons, List.append_assoc,
        List.singleton_append]

/-- Plain text is read as events of text only, and these hold the whole of it. -/
theorem inlineEvents_plain
    {text : List Char} (plain : ∀ character ∈ text, isWordOrSpace character)
    (labels : List (List Char)) :
    ∃ words : List (List Char),
      inlineEvents labels text = words.map Piece.textEvent ∧ words.flatten = text := by
  obtain ⟨words, read, joined⟩ := readPieces_plain plain labels [] '\n' (Nat.le_refl text.length)
  refine ⟨words, ?_, joined⟩
  rw [inlineEvents, read, List.append_nil, List.reverse_reverse, pairRuns_literals, eventsOf,
    List.append_nil, List.reverse_reverse, List.flatMap_map]
  exact List.map_eq_flatMap.symm

namespace HeadingText

/-- Text behind other text goes on with the same run. -/
theorem foldl_add_growing (words : List (List Char)) (front : String) :
    words.foldl (fun before word => HeadingText.add before (String.ofList word))
        ⟨[], some front, 0⟩ =
      ⟨[], some (front ++ String.ofList words.flatten), 0⟩ := by
  induction words generalizing front with
  | nil =>
      simp
  | cons word later inductionHypothesis =>
      have grown : HeadingText.add ⟨[], some front, 0⟩ (String.ofList word) =
          ⟨[], some (front ++ String.ofList word), 0⟩ :=
        rfl
      rw [List.foldl_cons, grown, inductionHypothesis, List.flatten_cons, String.ofList_append,
        String.append_assoc]

/-- The text of a heading that holds nothing but text is the whole of it. -/
theorem finish_foldl_add {words : List (List Char)} (nonempty : words ≠ []) :
    (words.foldl (fun before word => HeadingText.add before (String.ofList word)) start).finish =
      some (String.ofList words.flatten) := by
  obtain ⟨first, later, rfl⟩ := List.exists_cons_of_ne_nil nonempty
  have started : start.add (String.ofList first) = ⟨[], some ("" ++ String.ofList first), 0⟩ := rfl
  rw [List.foldl_cons, started, foldl_add_growing, String.empty_append, ← String.ofList_append,
    ← List.flatten_cons]
  simp [finish, endRun]

end HeadingText

end Markdown

end Tangle
