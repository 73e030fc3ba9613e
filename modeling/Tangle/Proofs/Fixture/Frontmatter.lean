import Tangle.Fixture.Run
import Tangle.Proofs.Text.Lines
import Tangle.Proofs.Toml.Settings

namespace Tangle

/-!
# Frontmatter is split where it was joined

A fixture is written as lines of settings between two lines of hyphens with a
document behind.  It falls apart again into the settings and the document, whatever
the document is and whatever decodes the settings, as long as line ends do not matter
there.  The one exception is a fixture without any line of settings: then the line
feed behind the opening hyphens, which the closing ones need in front of them, is
gone before they are looked for.
-/

/-- The ways to end a line. -/
inductive LineEnding where
  | lineFeed
  | carriageReturn
  deriving Repr, DecidableEq

namespace LineEnding

/-- What stands in a line ending in front of its line feed. -/
def carriage : LineEnding → List Char
  | .lineFeed => []
  | .carriageReturn => ['\r']

def signs (ending : LineEnding) : List Char :=
  ending.carriage ++ ['\n']

/-- Lines one after another, each with its line ending. -/
def ended (ending : LineEnding) (lines : List (List Char)) : List Char :=
  lines.flatMap (· ++ ending.signs)

/-- Lines with line endings between them. -/
def joined (ending : LineEnding) (lines : List (List Char)) : List Char :=
  List.intercalate ending.signs lines

/-- The first line is written with its line end, and the others behind it. -/
theorem ended_cons (ending : LineEnding) (first : List Char) (rest : List (List Char)) :
    ending.ended (first :: rest) = (first ++ ending.carriage) ++ '\n' :: ending.ended rest := by
  simp [ended, signs]

/-- One line alone is joined as it is. -/
theorem joined_singleton (ending : LineEnding) (line : List Char) : ending.joined [line] = line :=
  List.intercalate_singleton

/-- Before another line the first one has its line end. -/
theorem joined_cons_cons
    (ending : LineEnding) (first next : List Char) (later : List (List Char)) :
    ending.joined (first :: next :: later) =
      (first ++ ending.carriage) ++ '\n' :: ending.joined (next :: later) := by
  rw [joined, joined, List.intercalate_cons_cons]
  simp [signs]

/-- The signs of a line ending are a line end. -/
theorem lineEnd (ending : LineEnding) (rest : List Char) :
    Toml.LineEnd (ending.signs ++ rest) rest := by
  cases ending with
  | lineFeed => exact .lineFeed rest
  | carriageReturn => exact .carriageReturn rest

end LineEnding

/-! ## Settings -/

namespace Toml

/-- The same characters of a line may stand in front of texts with the same lines. -/
theorem SameLines.append
    {front text other : List Char} (oneLine : IsOneLine front) (same : SameLines text other) :
    SameLines (front ++ text) (front ++ other) := by
  induction front with
  | nil =>
      exact same
  | cons character later inductionHypothesis =>
      obtain ⟨inLine, laterInLine⟩ := List.forall_mem_cons.mp oneLine
      exact .inLine inLine (inductionHypothesis laterInLine)

/--
Lines are the same whichever line endings they are written with, and a line ending
behind the last one makes no other line.
-/
theorem sameLines_ended
    {lines : List (List Char)} (oneLine : ∀ line ∈ lines, IsOneLine line)
    (ending other : LineEnding) : SameLines (ending.ended lines) (other.joined lines) := by
  induction lines with
  | nil =>
      exact .nil
  | cons line rest inductionHypothesis =>
      obtain ⟨lineIsOne, restAreLines⟩ := List.forall_mem_cons.mp oneLine
      rw [LineEnding.ended, List.flatMap_cons, List.append_assoc]
      cases rest with
      | nil =>
          have lastLine : SameLines (line ++ (ending.signs ++ [])) (line ++ []) :=
            .append lineIsOne (.finished (.lineEnd (ending.lineEnd [])) .nothing)
          rw [List.append_nil line] at lastLine
          rw [LineEnding.joined, List.intercalate_singleton]
          exact lastLine
      | cons next later =>
          rw [LineEnding.joined, List.intercalate_cons_cons, List.append_assoc]
          exact .append lineIsOne
            (.lineEnd (ending.lineEnd _) (other.lineEnd _) (inductionHypothesis restAreLines))

end Toml

/-! ## Splitting -/

/-- Three hyphens, which stand before and behind the settings. -/
def delimiter : List Char :=
  ['-', '-', '-']

namespace Frontmatter

/-- A fixture as it is written: marks, the settings between two delimiters, and the document. -/
def written
    (marks : Nat) (ending : LineEnding) (lines : List (List Char)) (document : List Char) :
    List Char :=
  List.replicate marks '\uFEFF' ++
    (delimiter ++ (ending.signs ++
      (ending.ended lines ++ (delimiter ++ (ending.signs ++ document)))))

/-- A line end that is written in front is dropped. -/
theorem dropLineEnd_signs (ending : LineEnding) (text : List Char) :
    Text.dropLineEnd (ending.signs ++ text) = text := by
  cases ending <;> rfl

/-- What a fixture is split into, given what is found of its closing delimiter. -/
def atClosing : Option (List Char × List Char) → Except FrontmatterError Frontmatter
  | none => .error .noClosing
  | some (settings, behind) =>
      .ok ⟨Text.dropEndWhile (· == '\r') settings, Text.dropLineEnd behind⟩

/-- A text with an opening delimiter is split at the closing one. -/
theorem split_eq_atClosing
    {text rest : List Char} (opens : text.dropWhile isMark = delimiter ++ rest) :
    split text = atClosing (splitAtClosing? (Text.dropLineEnd rest)) := by
  rw [split, opens]
  rfl

/-- The marks and the opening delimiter are passed. -/
theorem split_written
    (marks : Nat) (ending : LineEnding) (lines : List (List Char)) (document : List Char) :
    split (written marks ending lines document) =
      atClosing
        (splitAtClosing? (ending.ended lines ++ (delimiter ++ (ending.signs ++ document)))) := by
  have allMarks : ∀ character ∈ List.replicate marks '\uFEFF', isMark character = true := by
    intro character member
    rw [List.eq_of_mem_replicate member]
    rfl
  have opens :
      (written marks ending lines document).dropWhile isMark =
        delimiter ++ (ending.signs ++
          (ending.ended lines ++ (delimiter ++ (ending.signs ++ document)))) := by
    rw [written, List.dropWhile_append_of_pos allMarks]
    exact List.dropWhile_cons_of_neg (by decide)
  rw [split_eq_atClosing opens, dropLineEnd_signs]

section Closing

variable {text : List Char}

/-- The closing delimiter is found where it stands. -/
theorem splitAtClosing?_delimiter (behind : List Char) :
    splitAtClosing? ('\n' :: (delimiter ++ behind)) = some ([], behind) :=
  rfl

/-- A character is passed unless the closing delimiter starts with it. -/
theorem splitAtClosing?_cons
    {character : Char} (notHere : ¬ '\n' :: delimiter <+: character :: text) :
    splitAtClosing? (character :: text) =
      (splitAtClosing? text).map fun found => (character :: found.1, found.2) := by
  rw [splitAtClosing?]
  rintro rest rfl rfl
  exact notHere ⟨rest, rfl⟩

/-- The closing delimiter is not found before a line feed. -/
theorem splitAtClosing?_append
    {front : List Char} (noLineFeed : '\n' ∉ front) :
    splitAtClosing? (front ++ text) =
      (splitAtClosing? text).map fun found => (front ++ found.1, found.2) := by
  induction front with
  | nil =>
      rw [List.nil_append]
      cases splitAtClosing? text <;> rfl
  | cons character rest inductionHypothesis =>
      have notHere : ¬ '\n' :: delimiter <+: character :: (rest ++ text) := by
        intro starts
        exact noLineFeed ((List.cons_prefix_cons.mp starts).1 ▸ List.mem_cons_self)
      rw [List.cons_append, splitAtClosing?_cons notHere,
        inductionHypothesis (List.not_mem_of_not_mem_cons noLineFeed), Option.map_map]
      rfl

/-- No closing delimiter is found exactly where none stands. -/
theorem splitAtClosing?_eq_none_iff :
    splitAtClosing? text = none ↔ ¬ '\n' :: delimiter <:+: text := by
  induction text with
  | nil =>
      simp [splitAtClosing?]
  | cons character rest inductionHypothesis =>
      rw [List.infix_cons_iff, not_or]
      by_cases here : '\n' :: delimiter <+: character :: rest
      · obtain ⟨behind, ⟨⟩⟩ := here
        have found := splitAtClosing?_delimiter behind
        simp [found]
      · rw [splitAtClosing?_cons here, Option.map_eq_none_iff, inductionHypothesis]
        simp [here]

end Closing

section Lines

variable {lines : List (List Char)}

/--
A line ending behind a line does not complete the delimiter: either the line ends
within three characters, or these three are all that counts.
-/
theorem not_delimiter_prefix
    {line : List Char} (noDelimiter : ¬ delimiter <+: line) (ending : LineEnding)
    (rest : List Char) : ¬ delimiter <+: line ++ (ending.signs ++ rest) := by
  rcases line with _ | ⟨first, _ | ⟨second, _ | ⟨third, later⟩⟩⟩
  · cases ending <;> simp [delimiter, LineEnding.signs, LineEnding.carriage]
  · cases ending <;> simp [delimiter, LineEnding.signs, LineEnding.carriage]
  · cases ending <;> simp [delimiter, LineEnding.signs, LineEnding.carriage]
  · simpa [delimiter] using noDelimiter

/-- No line feed stands in a line, with a carriage return behind or not. -/
theorem not_mem_lineFeed {line : List Char} (isOne : Toml.IsOneLine line) (ending : LineEnding) :
    '\n' ∉ line ++ ending.carriage := by
  rw [List.mem_append, not_or]
  constructor
  · exact fun member => (isOne '\n' member).notLineFeed rfl
  · cases ending <;> decide

/--
Settings of at least one line end where the first delimiter behind a line feed stands.
No line starts with the delimiter, so nothing is closed in front of one.
-/
theorem splitAtClosing?_ended
    {first : List Char} {rest : List (List Char)}
    (oneLine : ∀ line ∈ first :: rest, Toml.IsOneLine line)
    (noDelimiter : ∀ line ∈ first :: rest, ¬ delimiter <+: line)
    (ending : LineEnding) (behind : List Char) :
    splitAtClosing? (ending.ended (first :: rest) ++ (delimiter ++ behind)) =
      some (ending.joined (first :: rest) ++ ending.carriage, behind) := by
  induction rest generalizing first with
  | nil =>
      rw [ending.ended_cons, List.append_assoc,
        splitAtClosing?_append (not_mem_lineFeed (oneLine first List.mem_cons_self) ending),
        List.cons_append]
      have found :
          splitAtClosing? ('\n' :: (ending.ended [] ++ (delimiter ++ behind))) =
            some ([], behind) :=
        splitAtClosing?_delimiter behind
      rw [found, ending.joined_singleton, Option.map_some, List.append_nil]
  | cons next later inductionHypothesis =>
      obtain ⟨firstIsOne, othersAreLines⟩ := List.forall_mem_cons.mp oneLine
      obtain ⟨_, othersStart⟩ := List.forall_mem_cons.mp noDelimiter
      have found := inductionHypothesis othersAreLines othersStart
      have notHere :
          ¬ '\n' :: delimiter <+:
            '\n' :: (ending.ended (next :: later) ++ (delimiter ++ behind)) := by
        have noneNext := othersStart next List.mem_cons_self
        rw [List.prefix_cons_inj, LineEnding.ended, List.flatMap_cons, List.append_assoc,
          List.append_assoc]
        exact not_delimiter_prefix noneNext ending _
      rw [ending.ended_cons, List.append_assoc,
        splitAtClosing?_append (not_mem_lineFeed firstIsOne ending), List.cons_append,
        splitAtClosing?_cons notHere, found, ending.joined_cons_cons]
      simp

/-- Joined lines do not end in a carriage return. -/
theorem getLast?_joined
    (oneLine : ∀ line ∈ lines, Toml.IsOneLine line) (ending : LineEnding) :
    (ending.joined lines).getLast? ≠ some '\r' := by
  induction lines with
  | nil =>
      nofun
  | cons line rest inductionHypothesis =>
      obtain ⟨lineIsOne, restAreLines⟩ := List.forall_mem_cons.mp oneLine
      cases rest with
      | nil =>
          rw [ending.joined_singleton]
          intro isLast
          exact (lineIsOne '\r' (List.mem_of_getLast? isLast)).notReturn rfl
      | cons next later =>
          have notBehind := inductionHypothesis restAreLines
          rw [ending.joined_cons_cons, List.getLast?_append_of_ne_nil _ (List.cons_ne_nil _ _),
            List.getLast?_cons]
          cases isLast : (ending.joined (next :: later)).getLast? with
          | none => decide
          | some last =>
              rw [isLast] at notBehind
              exact notBehind

/-- Of the settings the carriage return in front of the closing delimiter goes. -/
theorem dropEndWhile_joined
    (oneLine : ∀ line ∈ lines, Toml.IsOneLine line) (ending : LineEnding) :
    Text.dropEndWhile (· == '\r') (ending.joined lines ++ ending.carriage) =
      ending.joined lines := by
  have returns : ending.carriage.all (· == '\r') = true := by
    cases ending <;> rfl
  rw [Text.dropEndWhile_append_of_drops (List.all_eq_true.mp returns), Text.dropEndWhile_eq_self]
  rintro last isLast
  have notReturn := getLast?_joined oneLine ending
  rw [isLast] at notReturn
  simpa using notReturn

/-- At least one line of settings falls apart from the document where the two were joined. -/
theorem split_written_of_ne_nil
    (nonempty : lines ≠ []) (oneLine : ∀ line ∈ lines, Toml.IsOneLine line)
    (noDelimiter : ∀ line ∈ lines, ¬ delimiter <+: line)
    (marks : Nat) (ending : LineEnding) (document : List Char) :
    split (written marks ending lines document) = .ok ⟨ending.joined lines, document⟩ := by
  obtain ⟨first, rest, rfl⟩ := List.exists_cons_of_ne_nil nonempty
  rw [split_written, splitAtClosing?_ended oneLine noDelimiter, atClosing,
    dropEndWhile_joined oneLine, dropLineEnd_signs]

end Lines

end Frontmatter

/-! ## A name alone -/

namespace Toml

variable {text : List Char} (ends : ∀ first, text.head? = some first → ¬ IsInLine first)

include ends

/-- What ends a line starts outside each class of characters without line ends. -/
theorem startsOutside_of_ends {belongs : Char → Bool} (stays : StaysInLine belongs) :
    Text.StartsOutside belongs text := by
  intro first isFirst
  exact Bool.eq_false_iff.mpr fun isOne => ends first isFirst (stays.isInLine isOne)

/-- So it does not start with a character of a line. -/
theorem head?_ne_of_ends {character : Char} (inLine : IsInLine character) :
    text.head? ≠ some character :=
  fun isFirst => ends character isFirst inLine

/-- Hyphens can be the name of a setting. -/
theorem name?_delimiter (fuel : Nat) :
    name? (fuel + 1) (delimiter ++ text) = some (["---"], text) := by
  have noGap : (delimiter ++ text).dropWhile isGap = delimiter ++ text :=
    List.dropWhile_cons_of_neg (by decide)
  have allName : ∀ character ∈ delimiter, isNameCharacter character = true :=
    List.all_eq_true.mp rfl
  have outside := startsOutside_of_ends ends .name
  have isPart : namePart? ((delimiter ++ text).dropWhile isGap) = some ("---", text) := by
    rw [noGap, namePart?_bare (by simp [delimiter]) (by simp [delimiter]), bareName?,
      List.takeWhile_append_of_pos allName, List.dropWhile_append_of_pos allName,
      Text.takeWhile_of_startsOutside outside, Text.dropWhile_of_startsOutside outside]
    rfl
  have noGapBehind := Text.dropWhile_of_startsOutside (startsOutside_of_ends ends .gap)
  have noDot : (text.dropWhile isGap).head? ≠ some '.' := by
    rw [noGapBehind]
    exact head?_ne_of_ends ends (by decide)
  rw [name?_end isPart noDot, noGapBehind]

/-- A line of hyphens is no setting, since a setting has a value. -/
theorem read?_delimiter : read? (delimiter ++ text) = none := by
  have passed : skipLines false (delimiter ++ text) = some (delimiter ++ text) :=
    skipLines_cons (by decide) false _
  have noValue : namedValue? ((delimiter ++ text).length + 1) (delimiter ++ text) = none := by
    rw [Option.eq_none_iff_forall_ne_some]
    rintro ⟨item, rest⟩ taken
    obtain ⟨path, behind, isName⟩ := exists_name_of_namedValue? taken
    have name := name?_delimiter ends (text.length + 2)
    have noEqualsSign : text.head? ≠ some '=' := head?_ne_of_ends ends (by decide)
    have length : (delimiter ++ text).length = text.length + 2 + 1 := by
      simp [delimiter]
    rw [length, name] at isName
    cases isName
    exact noEqualsSign rfl
  rw [read?, dropMark_eq_self (by simp [delimiter]),
    lines?_setting passed (List.cons_ne_nil _ _) (by simp [delimiter]), linesFromSetting?, noValue]
  rfl

end Toml

/-! ## Fixtures -/

namespace Frontmatter

/-- Settings that the line end behind the opening hyphens was to close start with hyphens. -/
theorem splitAtClosing?_noLines (ending : LineEnding) (document : List Char) :
    splitAtClosing? (ending.ended [] ++ (delimiter ++ (ending.signs ++ document))) =
      (splitAtClosing? ('\n' :: document)).map fun found =>
        (delimiter ++ (ending.carriage ++ found.1), found.2) := by
  have noLineFeed : '\n' ∉ delimiter ++ ending.carriage := by
    cases ending <;> decide
  have shape :
      ending.ended [] ++ (delimiter ++ (ending.signs ++ document)) =
        (delimiter ++ ending.carriage) ++ '\n' :: document := by
    simp [LineEnding.ended, LineEnding.signs]
  rw [shape, splitAtClosing?_append noLineFeed]
  simp only [List.append_assoc]

/-- What is found from a line feed on is nothing or starts with it. -/
theorem head?_of_splitAtClosing?
    {document settings behind : List Char}
    (found : splitAtClosing? ('\n' :: document) = some (settings, behind)) {first : Char}
    (isFirst : settings.head? = some first) : first = '\n' := by
  by_cases here : '\n' :: delimiter <+: '\n' :: document
  · obtain ⟨rest, shape⟩ := here
    rw [← shape] at found
    cases found
    contradiction
  · rw [splitAtClosing?_cons here] at found
    obtain ⟨_, _, ⟨⟩⟩ := Option.map_eq_some_iff.mp found
    cases isFirst
    rfl

/--
Without settings the frontmatter is not closed, or its settings start with the hyphens.
The last hyphen is no carriage return, so it stays at their end, and all in front of it.
-/
theorem split_written_nil (marks : Nat) (ending : LineEnding) (document : List Char) :
    (¬ '\n' :: delimiter <:+: '\n' :: document ∧
        split (written marks ending [] document) = .error .noClosing) ∨
      ('\n' :: delimiter <:+: '\n' :: document ∧
        ∃ settings behind,
          split (written marks ending [] document) = .ok ⟨delimiter ++ settings, behind⟩ ∧
            ∀ first, settings.head? = some first → ¬ Toml.IsInLine first) := by
  rw [split_written, splitAtClosing?_noLines]
  cases found : splitAtClosing? ('\n' :: document) with
  | none =>
      exact .inl ⟨splitAtClosing?_eq_none_iff.mp found, rfl⟩
  | some parts =>
      obtain ⟨settings, behind⟩ := parts
      have closes : '\n' :: delimiter <:+: '\n' :: document := by
        by_contra nowhere
        rw [splitAtClosing?_eq_none_iff.mpr nowhere] at found
        contradiction
      have kept :
          Text.dropEndWhile (· == '\r') (delimiter ++ (ending.carriage ++ settings)) =
            delimiter ++ Text.dropEndWhile (· == '\r') (ending.carriage ++ settings) := by
        refine Text.dropEndWhile_append_cons ?_ ['-', '-'] _
        decide
      refine .inr ⟨closes, Text.dropEndWhile (· == '\r') (ending.carriage ++ settings),
        Text.dropLineEnd behind, by rw [Option.map_some, atClosing, kept], ?_⟩
      intro first isFirst inLine
      obtain ⟨dropped, shape⟩ :=
        Text.dropEndWhile_isPrefix (· == '\r') (ending.carriage ++ settings)
      have startsSo : (ending.carriage ++ settings).head? = some first := by
        rw [← shape, List.head?_append, isFirst]
        rfl
      cases ending with
      | lineFeed => exact inLine.notLineFeed (head?_of_splitAtClosing? found startsSo)
      | carriageReturn =>
          cases startsSo
          exact inLine.notReturn rfl

/-- What stands behind a closing delimiter is shorter than the text by more than the delimiter. -/
theorem length_of_splitAtClosing?
    {text settings behind : List Char}
    (found : splitAtClosing? text = some (settings, behind)) :
    settings.length + behind.length + 4 = text.length := by
  induction text generalizing settings with
  | nil =>
      contradiction
  | cons character rest inductionHypothesis =>
      by_cases here : '\n' :: delimiter <+: character :: rest
      · obtain ⟨later, shape⟩ := here
        rw [← shape] at found ⊢
        cases found
        simp [delimiter]
      · rw [splitAtClosing?_cons here] at found
        obtain ⟨⟨before, later⟩, foundLater, shape⟩ := Option.map_eq_some_iff.mp found
        obtain ⟨rfl, rfl⟩ := Prod.mk.inj shape
        have parted := inductionHypothesis foundLater
        dsimp only [List.length_cons] at parted ⊢
        omega

/-- Without settings the whole document is never what is left. -/
theorem document_ne_of_split_written_nil
    {marks : Nat} {ending : LineEnding} {document : List Char} {front : Frontmatter}
    (isSplit : split (written marks ending [] document) = .ok front) :
    front.document ≠ document := by
  rw [split_written, splitAtClosing?_noLines] at isSplit
  cases found : splitAtClosing? ('\n' :: document) with
  | none =>
      rw [found] at isSplit
      contradiction
  | some parts =>
      obtain ⟨settings, behind⟩ := parts
      rw [found] at isSplit
      cases isSplit
      intro whole
      have parted := length_of_splitAtClosing? found
      have shorter := Toml.length_dropLineEnd behind
      have sameLength : (Text.dropLineEnd behind).length = document.length :=
        congrArg List.length whole
      rw [List.length_cons] at parted
      omega

/-! ## Any decoder of settings -/

/--
What is assumed of a decoder of settings: a line ending behind the last line makes no
difference, and neither do carriage returns in front of all line feeds.
-/
structure IgnoresLineEnds {Settings : Type} (decode : List Char → Option Settings) : Prop where
  trailing : ∀ (ending : LineEnding) {lines : List (List Char)},
    (∀ line ∈ lines, Toml.IsOneLine line) →
      decode (ending.ended lines) = decode (ending.joined lines)
  spelling : ∀ {lines : List (List Char)}, (∀ line ∈ lines, Toml.IsOneLine line) →
    decode (LineEnding.carriageReturn.joined lines) = decode (LineEnding.lineFeed.joined lines)

namespace IgnoresLineEnds

variable {Settings : Type} {decode : List Char → Option Settings}
  (ignores : IgnoresLineEnds decode) {lines : List (List Char)}
  (oneLine : ∀ line ∈ lines, Toml.IsOneLine line)

include ignores oneLine

/-- Lines are decoded alike whatever line ends join them. -/
theorem joined_eq (ending other : LineEnding) :
    decode (ending.joined lines) = decode (other.joined lines) := by
  cases ending <;> cases other
  · rfl
  · exact (ignores.spelling oneLine).symm
  · exact ignores.spelling oneLine
  · rfl

/--
Settings that mean something to a decoder come out of the fixture that they are written
into as what they mean, with exactly the document that was written behind them, if and
only if there is a line of them.
-/
theorem decodeWith_written_iff
    (noDelimiter : ∀ line ∈ lines, ¬ delimiter <+: line) (marks : Nat)
    (ending spelling : LineEnding) (document : List Char) {settings : Settings}
    (decoded : decode (spelling.ended lines) = some settings) :
    decodeWith decode (written marks ending lines document) = .ok (settings, document) ↔
      lines ≠ [] := by
  constructor
  · rintro isRead rfl
    rw [decodeWith] at isRead
    split at isRead
    · contradiction
    · rename_i front isSplit
      split at isRead
      · contradiction
      · cases isRead
        exact document_ne_of_split_written_nil isSplit rfl
  · intro nonempty
    have sameSettings : decode (ending.joined lines) = some settings := by
      rw [ignores.joined_eq oneLine ending spelling, ← ignores.trailing spelling oneLine, decoded]
    rw [decodeWith, split_written_of_ne_nil nonempty oneLine noDelimiter marks ending document]
    simp only [sameSettings]

end IgnoresLineEnds

/-! ## The decoder of expectations -/

/-- The settings of a fixture are decoded without regard to line ends. -/
theorem ignoresLineEnds_read? : IgnoresLineEnds Expectation.read? where
  trailing ending lines oneLine := by
    rw [Expectation.read?, Expectation.read?,
      Toml.read?_eq_of_sameLines (Toml.sameLines_ended oneLine ending ending)]
  spelling {lines} oneLine := by
    have fromReturns := Toml.sameLines_ended oneLine .lineFeed .carriageReturn
    have fromLineFeeds := Toml.sameLines_ended oneLine .lineFeed .lineFeed
    rw [Expectation.read?, Expectation.read?, ← Toml.read?_eq_of_sameLines fromReturns,
      ← Toml.read?_eq_of_sameLines fromLineFeeds]

/-- A fixture without settings fails: the line feed that would close them opened them. -/
theorem readFixture_written_nil (marks : Nat) (ending : LineEnding) (document : List Char) :
    (¬ '\n' :: delimiter <:+: '\n' :: document ∧
        readFixture (String.ofList (written marks ending [] document)) = .error .noClosing) ∨
      ('\n' :: delimiter <:+: '\n' :: document ∧
        readFixture (String.ofList (written marks ending [] document)) = .error .settings) := by
  rw [readFixture, String.toList_ofList, decodeWith]
  rcases split_written_nil marks ending document with
    ⟨nowhere, isError⟩ | ⟨closes, settings, behind, isSplit, ends⟩
  · rw [isError]
    exact .inl ⟨nowhere, rfl⟩
  · have unread : Expectation.read? (delimiter ++ settings) = none := by
      rw [Expectation.read?, Toml.read?_delimiter ends]
      rfl
    refine .inr ⟨closes, ?_⟩
    rw [isSplit]
    simp only [unread]

/-- A fixture falls apart into settings that describe an expectation, and a document. -/
def FallsApart (text : List Char) (expectation : Expectation) (document : List Char) : Prop :=
  ∃ settings,
    split text = .ok ⟨settings, document⟩ ∧ Expectation.read? settings = some expectation

/-- A fixture falls apart into what comes out when its settings are decoded. -/
theorem fallsApart_iff {text document : List Char} {expectation : Expectation} :
    FallsApart text expectation document ↔
      decodeWith Expectation.read? text = .ok (expectation, document) := by
  rw [decodeWith]
  constructor
  · rintro ⟨settings, isSplit, isRead⟩
    rw [isSplit]
    simp only [isRead]
  · intro decoded
    split at decoded
    · contradiction
    · rename_i front isSplit
      split at decoded
      · contradiction
      · rename_i found isRead
        cases decoded
        exact ⟨front.settings, isSplit, isRead⟩

/-- A fixture that falls apart is read as its expectation and its document. -/
theorem FallsApart.readFixture_eq
    {text document : List Char} {expectation : Expectation}
    (apart : FallsApart text expectation document) :
    readFixture (String.ofList text) =
      .ok (expectation, Markdown.read (String.ofList document)) := by
  rw [readFixture, String.toList_ofList, fallsApart_iff.mp apart]

/--
Lines of settings that describe an expectation, written between two lines of hyphens
with a document behind, fall apart again into that expectation and exactly that
document.  Neither byte order marks in front of them nor the line endings that they
are written with make a difference, and it does not matter what the document holds.
There has to be a line, though: hyphens right behind hyphens close nothing, and such a
fixture fails, either for want of closing hyphens or because the settings, which then
end at later hyphens, start with some themselves.
-/
theorem written_falls_apart
    (marks : Nat) (ending spelling : LineEnding) {lines : List (List Char)} (document : List Char)
    {expectation : Expectation} (oneLine : ∀ line ∈ lines, Toml.IsOneLine line)
    (noDelimiter : ∀ line ∈ lines, ¬ delimiter <+: line)
    (described : Expectation.read? (spelling.ended lines) = some expectation) :
    (FallsApart (written marks ending lines document) expectation document ↔ lines ≠ []) ∧
      (lines ≠ [] →
        readFixture (String.ofList (written marks ending lines document)) =
          .ok (expectation, Markdown.read (String.ofList document))) ∧
      (lines = [] →
        (¬ '\n' :: delimiter <:+: '\n' :: document ∧
            readFixture (String.ofList (written marks ending lines document)) =
              .error .noClosing) ∨
          ('\n' :: delimiter <:+: '\n' :: document ∧
            readFixture (String.ofList (written marks ending lines document)) =
              .error .settings)) := by
  have apartIff : FallsApart (written marks ending lines document) expectation document ↔
      lines ≠ [] :=
    fallsApart_iff.trans
      (ignoresLineEnds_read?.decodeWith_written_iff oneLine noDelimiter marks ending spelling
        document described)
  refine ⟨apartIff, fun nonempty => (apartIff.mpr nonempty).readFixture_eq, ?_⟩
  rintro rfl
  exact readFixture_written_nil marks ending document

/-- This fixture has two settings, and a document that starts like a delimiter. -/
theorem described_fixture_falls_apart :
    let lines := ["description = \"one\"".toList, "ids = [\"a\"]".toList]
    let document := "---\n# t\n".toList
    let expectation : Expectation := ⟨some "one", ["a"], none, none, []⟩
    (∀ line ∈ lines, Toml.IsOneLine line) ∧ (∀ line ∈ lines, ¬ delimiter <+: line) ∧
      Expectation.read? (LineEnding.lineFeed.ended lines) = some expectation ∧
      FallsApart (written 1 .carriageReturn lines document) expectation document := by
  intro lines document expectation
  have oneLine : ∀ line ∈ lines, Toml.IsOneLine line := by
    decide +kernel
  have noDelimiter : ∀ line ∈ lines, ¬ delimiter <+: line := by
    decide +kernel
  have described : Expectation.read? (LineEnding.lineFeed.ended lines) = some expectation := by
    decide +kernel
  exact ⟨oneLine, noDelimiter, described,
    (written_falls_apart 1 .carriageReturn .lineFeed document oneLine noDelimiter
      described).1.mpr (List.cons_ne_nil _ _)⟩

/-- Settings may all be left out, but not the line that would hold them. -/
theorem noLines_stay_together :
    ¬ ∀ (marks : Nat) (ending spelling : LineEnding) (lines : List (List Char))
        (document : List Char) (expectation : Expectation),
      (∀ line ∈ lines, Toml.IsOneLine line) → (∀ line ∈ lines, ¬ delimiter <+: line) →
        Expectation.read? (spelling.ended lines) = some expectation →
          FallsApart (written marks ending lines document) expectation document := by
  intro allApart
  have apart :=
    allApart 0 .lineFeed .lineFeed [] "# t\n".toList ⟨none, [], none, none, []⟩ nofun nofun
      (by decide +kernel)
  obtain ⟨settings, isSplit, _⟩ := apart
  have isError :
      split (written 0 .lineFeed [] "# t\n".toList) = .error .noClosing := by
    decide +kernel
  rw [isError] at isSplit
  contradiction

end Frontmatter

end Tangle
