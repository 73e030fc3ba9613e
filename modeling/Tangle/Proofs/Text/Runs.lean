import Tangle.Proofs.Text.Trim

namespace Tangle.Text

/-!
# Runs of characters

A text falls into its maximal runs of characters of a class.  Characters
outside the class only part the runs, so a text can be gone through run by run,
and whatever does not touch the runs themselves leaves their list as it is, as
does putting marks in the place of what parts them.
-/

/-- The maximal runs of characters of a class, in order. -/
def runs (belongs : Char → Bool) (characters : List Char) : List (List Char) :=
  (characters.splitOnP (fun character => !belongs character)).filter (fun run => !run.isEmpty)

/-- A text starts, if it has a character at all, with one outside a class. -/
def StartsOutside (belongs : Char → Bool) (characters : List Char) : Prop :=
  ∀ first, characters.head? = some first → belongs first = false

/-- A character that a word may have. -/
def isWordCharacter (character : Char) : Bool :=
  !isBlank character

/-- Words are the runs of characters that are not blank. -/
theorem words_eq_runs (characters : List Char) :
    words characters = runs isWordCharacter characters := by
  simp [words, runs, isWordCharacter]

/-- The front of a text up to another sign consists of one sign only. -/
theorem takeWhile_eq_replicate (sign : Char) (text : List Char) :
    text.takeWhile (· == sign) = List.replicate (text.takeWhile (· == sign)).length sign :=
  List.eq_replicate_iff.mpr
    ⟨rfl, fun found member => by simpa using List.all_eq_true.mp List.all_takeWhile found member⟩

section

variable {sign : Char} {behind : List Char} (ends : behind.head? ≠ some sign) (count : Nat)

include ends

/-- Repeated signs in front are taken, and nothing behind them. -/
theorem takeWhile_signs :
    (List.replicate count sign ++ behind).takeWhile (· == sign) = List.replicate count sign := by
  have noneBehind : behind.takeWhile (· == sign) = [] := by
    cases behind with
    | nil =>
        rfl
    | cons first rest =>
        rw [List.takeWhile_cons_of_neg]
        simpa using ends
  rw [List.takeWhile_append_of_pos, noneBehind, List.append_nil]
  simp

/-- Dropping them leaves what stands behind. -/
theorem dropWhile_signs :
    (List.replicate count sign ++ behind).dropWhile (· == sign) = behind := by
  have allBehind : behind.dropWhile (· == sign) = behind := by
    cases behind with
    | nil =>
        rfl
    | cons first rest =>
        rw [List.dropWhile_cons_of_neg]
        simpa using ends
  rw [List.dropWhile_append_of_pos, allBehind]
  simp

end

variable {belongs : Char → Bool}

/-- There are no runs in an empty text. -/
@[simp] theorem runs_nil : runs belongs [] = [] := rfl

/-- An empty text starts in no class. -/
theorem startsOutside_nil : StartsOutside belongs [] := by
  simp [StartsOutside]

/-- A text starts outside a class if its first character does not belong to it. -/
theorem startsOutside_cons {first : Char} {rest : List Char} :
    StartsOutside belongs (first :: rest) ↔ belongs first = false := by
  simp [StartsOutside]

/-- What a run leaves behind starts outside of its class. -/
theorem startsOutside_dropWhile (characters : List Char) :
    StartsOutside belongs (characters.dropWhile belongs) := by
  intro first found
  have notDropped := List.head?_dropWhile_not belongs characters
  rw [found] at notDropped
  simpa using notDropped

/-- Nothing is taken from a text that starts outside. -/
theorem takeWhile_of_startsOutside
    {characters : List Char} (outside : StartsOutside belongs characters) :
    characters.takeWhile belongs = [] := by
  cases characters with
  | nil =>
      rfl
  | cons first rest =>
      rw [List.takeWhile_cons_of_neg]
      simp [startsOutside_cons.mp outside]

/-- And nothing is dropped from it. -/
theorem dropWhile_of_startsOutside
    {characters : List Char} (outside : StartsOutside belongs characters) :
    characters.dropWhile belongs = characters := by
  cases characters with
  | nil =>
      rfl
  | cons first rest =>
      rw [List.dropWhile_cons_of_neg]
      simp [startsOutside_cons.mp outside]

/-- A character outside the class is in no run. -/
theorem runs_cons_of_not {first : Char} (outside : belongs first = false) (rest : List Char) :
    runs belongs (first :: rest) = runs belongs rest := by
  rw [runs, List.splitOnP_cons_eq_if_modifyHead]
  simp [outside, runs]

/-- A text can be parted in front of a character outside the class. -/
theorem runs_append
    {back : List Char} (outside : StartsOutside belongs back) (front : List Char) :
    runs belongs (front ++ back) = runs belongs front ++ runs belongs back := by
  cases back with
  | nil =>
      simp
  | cons first rest =>
      have parts : belongs first = false := startsOutside_cons.mp outside
      rw [runs_cons_of_not parts, runs, List.splitOnP_append_cons front rest (by simp [parts]),
        List.filter_append]
      rfl

/-- A text within the class is a single run. -/
theorem runs_of_forall
    {run : List Char} (nonempty : run ≠ []) (inside : ∀ character ∈ run, belongs character = true) :
    runs belongs run = [run] := by
  have noSeparator : ∀ character ∈ run, (!belongs character) = false := by
    simpa using inside
  rw [runs, List.splitOnP_eq_singleton noSeparator]
  simp [nonempty]

/-- A run at the front of a text is its first run. -/
theorem runs_append_of_forall
    {run rest : List Char} (nonempty : run ≠ [])
    (inside : ∀ character ∈ run, belongs character = true)
    (outside : StartsOutside belongs rest) :
    runs belongs (run ++ rest) = run :: runs belongs rest := by
  rw [runs_append outside, runs_of_forall nonempty inside, List.singleton_append]

/-- A run has characters. -/
theorem nonempty_of_mem_runs {characters run : List Char} (isRun : run ∈ runs belongs characters) :
    run ≠ [] := by
  simpa using (List.mem_filter.mp isRun).2

/-- They belong to the class. -/
theorem belongs_of_mem_runs
    {characters run : List Char} (isRun : run ∈ runs belongs characters)
    {character : Char} (member : character ∈ run) :
    belongs character = true := by
  simpa using (mem_of_mem_splitOnP (List.mem_filter.mp isRun).1 member).2

/--
A text is empty, or starts with a character outside the class, or starts with a
whole run behind which such a character follows.
-/
@[elab_as_elim]
theorem runInduction
    (belongs : Char → Bool) {motive : List Char → Prop}
    (nil : motive [])
    (outside :
      ∀ first rest, belongs first = false → motive rest → motive (first :: rest))
    (run :
      ∀ run rest, run ≠ [] → (∀ character ∈ run, belongs character = true) →
        StartsOutside belongs rest → motive rest → motive (run ++ rest))
    (characters : List Char) :
    motive characters := by
  induction size : characters.length using Nat.strongRecOn generalizing characters with
  | ind length shorter =>
      cases characters with
      | nil =>
          exact nil
      | cons first rest =>
          subst size
          cases inside : belongs first with
          | false =>
              exact outside first rest inside (shorter _ (by simp) rest rfl)
          | true =>
              have behind := (List.dropWhile_suffix belongs (l := rest)).length_le
              have parted :
                  first :: rest = first :: rest.takeWhile belongs ++ rest.dropWhile belongs := by
                rw [List.cons_append, List.takeWhile_append_dropWhile]
              rw [parted]
              refine run _ _ (List.cons_ne_nil _ _) ?_ (startsOutside_dropWhile rest)
                (shorter _ (by simp; omega) _ rfl)
              intro character member
              rcases List.mem_cons.mp member with rfl | later
              · exact inside
              · exact List.mem_takeWhile_imp later

/-- Runs of a smaller class lie within the runs of a larger one. -/
theorem flatMap_runs
    {wider : Char → Bool}
    (narrower : ∀ character, wider character = false → belongs character = false)
    (characters : List Char) :
    (runs wider characters).flatMap (runs belongs) = runs belongs characters := by
  induction characters using runInduction wider with
  | nil =>
      rfl
  | outside first rest parts inductionHypothesis =>
      rw [runs_cons_of_not parts, runs_cons_of_not (narrower first parts), inductionHypothesis]
  | run run rest nonempty inside parts inductionHypothesis =>
      have partsNarrower : StartsOutside belongs rest :=
        fun first found => narrower first (parts first found)
      rw [runs_append_of_forall nonempty inside parts, List.flatMap_cons, inductionHypothesis,
        runs_append partsNarrower]

/-- Texts joined by a character outside the class keep their runs. -/
theorem runs_intercalate
    {between : Char} (outside : belongs between = false) (parts : List (List Char)) :
    runs belongs (List.intercalate [between] parts) = parts.flatMap (runs belongs) := by
  induction parts with
  | nil =>
      rfl
  | cons first rest inductionHypothesis =>
      cases rest with
      | nil =>
          simp
      | cons next later =>
          rw [List.intercalate_cons_cons, List.append_assoc, List.singleton_append,
            runs_append (startsOutside_cons.mpr outside), runs_cons_of_not outside,
            inductionHypothesis, List.flatMap_cons (x := first)]

/--
Put one mark in the place of every run of characters of a class.  `marked`
tells that the run in front goes on and has its mark already.
-/
def markRuns (replaced : Char → Bool) (mark : Char) (marked : Bool) : List Char → List Char
  | [] => []
  | first :: rest =>
      if replaced first then
        if marked then markRuns replaced mark true rest
        else mark :: markRuns replaced mark true rest
      else first :: markRuns replaced mark false rest

section Marking

variable {replaced belongs : Char → Bool} {mark : Char} {marked : Bool}

/-- Marking runs keeps what is not replaced, and brings in the mark alone. -/
theorem mem_of_mem_markRuns
    {characters : List Char} {character : Char}
    (member : character ∈ markRuns replaced mark marked characters) :
    character = mark ∨ character ∈ characters ∧ replaced character = false := by
  fun_induction markRuns replaced mark marked characters <;> grind

/-- A front without characters of the class stays as it is. -/
theorem markRuns_append_of_not
    {front : List Char} (nonempty : front ≠ [])
    (kept : ∀ character ∈ front, replaced character = false) (back : List Char) :
    markRuns replaced mark marked (front ++ back) =
      front ++ markRuns replaced mark false back := by
  induction front generalizing marked with
  | nil =>
      contradiction
  | cons first rest inductionHypothesis =>
      have firstKept : replaced first = false := kept first List.mem_cons_self
      have restKept : ∀ character ∈ rest, replaced character = false :=
        fun character member => kept character (List.mem_cons_of_mem first member)
      rw [List.cons_append, List.cons_append, markRuns, firstKept, if_neg Bool.false_ne_true]
      cases rest with
      | nil =>
          rfl
      | cons next later =>
          rw [inductionHypothesis (List.cons_ne_nil next later) restKept]

/-- It does not make a text start in a class that the mark is not in. -/
theorem startsOutside_markRuns
    (markOutside : belongs mark = false) {characters : List Char}
    (outside : StartsOutside belongs characters) :
    StartsOutside belongs (markRuns replaced mark false characters) := by
  cases characters with
  | nil =>
      exact startsOutside_nil
  | cons first rest =>
      rw [markRuns, if_neg Bool.false_ne_true]
      split
      · exact startsOutside_cons.mpr markOutside
      · exact startsOutside_cons.mpr (startsOutside_cons.mp outside)

/-- Marks outside a class, in the place of characters outside that class, leave its runs. -/
theorem runs_markRuns
    (outside : ∀ character, replaced character = true → belongs character = false)
    (markOutside : belongs mark = false) (characters : List Char) :
    runs belongs (markRuns replaced mark marked characters) = runs belongs characters := by
  induction characters using runInduction belongs generalizing marked with
  | nil =>
      rfl
  | outside first rest parts inductionHypothesis =>
      rw [runs_cons_of_not parts, markRuns]
      split
      · split
        · exact inductionHypothesis
        · rw [runs_cons_of_not markOutside, inductionHypothesis]
      · rw [runs_cons_of_not parts, inductionHypothesis]
  | run run rest nonempty inside parts inductionHypothesis =>
      have kept : ∀ character ∈ run, replaced character = false := by
        intro character member
        have belongsThere := inside character member
        cases taken : replaced character with
        | false =>
            rfl
        | true =>
            rw [outside character taken] at belongsThere
            contradiction
      rw [markRuns_append_of_not nonempty kept, runs_append_of_forall nonempty inside parts,
        runs_append_of_forall nonempty inside (startsOutside_markRuns markOutside parts),
        inductionHypothesis]

end Marking

end Tangle.Text
