import Tangle.Proofs.Toml.LineEnds

namespace Tangle.Toml

/-!
# Strings in settings

Strings of all four forms are read alike from texts that differ in their line
ends.  Only those over several lines can have line ends inside, and what is read
has a line feed for each, however it is written.
-/

/-- From another text a reader takes an item as well, moves on, and leaves the same lines. -/
def TakesAlike {Item : Type}
    (read : List Char → Option (Item × List Char)) (item : Item) (rest other : List Char) : Prop :=
  ∃ otherRest, read other = some (item, otherRest) ∧ SameLines rest otherRest ∧
    otherRest.length < other.length

/-- What a reader takes from a text it takes from every text with the same lines. -/
def ReadsAlike {Item : Type} (read : List Char → Option (Item × List Char)) : Prop :=
  ∀ {text other rest : List Char} {item : Item},
    SameLines text other → read text = some (item, rest) → TakesAlike read item rest other

namespace TakesAlike

variable {Item : Type} {before after : List Char → Option (Item × List Char)} {item : Item}
  {rest behind other : List Char}

/-- Where a reader passes some characters and goes on as another one, it does so in both texts. -/
theorem of_front
    (front : List Char) (oneLine : IsOneLine front)
    (same : SameLines (front ++ behind) other)
    (goesOn :
      ∀ {otherBehind}, SameLines behind otherBehind →
        before (front ++ otherBehind) = after otherBehind)
    (later :
      ∀ {otherBehind}, SameLines behind otherBehind → TakesAlike after item rest otherBehind) :
    TakesAlike before item rest other := by
  obtain ⟨otherBehind, rfl, sameBehind⟩ := same.exists_append oneLine
  obtain ⟨otherRest, isTaken, sameRest, shorter⟩ := later sameBehind
  refine ⟨otherRest, by rw [goesOn sameBehind, isTaken], sameRest,
    Nat.lt_of_lt_of_le shorter ?_⟩
  rw [List.length_append]
  exact Nat.le_add_left _ _

/-- Where a reader passes a line end and cannot stop there, it does so in both texts. -/
theorem of_lineEnd
    {text : List Char} (lineEnd : LineEnd text behind)
    (goesOn : ∀ {text behind}, LineEnd text behind → before text = after behind)
    (cannotStop : after [] = none) (taken : after behind = some (item, rest))
    (same : SameLines text other)
    (later :
      ∀ {otherBehind}, SameLines behind otherBehind → TakesAlike after item rest otherBehind) :
    TakesAlike before item rest other := by
  have nonempty : behind ≠ [] := by
    rintro rfl
    rw [cannotStop] at taken
    contradiction
  obtain ⟨otherBehind, otherEnd, sameBehind⟩ := same.exists_lineEnd lineEnd nonempty
  obtain ⟨otherRest, isTaken, sameRest, shorter⟩ := later sameBehind
  exact ⟨otherRest, by rw [goesOn otherEnd, isTaken], sameRest,
    Nat.lt_trans shorter otherEnd.length_lt⟩

end TakesAlike

/-! ## Escapes -/

/-- What stands behind a backslash for a character. -/
inductive Escape : List Char → Char → Prop where
  | letter {letter character : Char} : escaped? letter = some character → Escape [letter] character
  | fourDigits {a b c d character : Char} :
      characterOfDigits? [a, b, c, d] = some character → Escape ['u', a, b, c, d] character
  | eightDigits {a b c d e f g h character : Char} :
      characterOfDigits? [a, b, c, d, e, f, g, h] = some character →
        Escape ['U', a, b, c, d, e, f, g, h] character

namespace Escape

/-- A hexadecimal digit is no part of a line end. -/
theorem isInLine_of_hexValue?
    {digit : Char} {value : Nat} (isDigit : Text.hexValue? digit = some value) :
    IsInLine digit := by
  constructor
  · rintro rfl
    contradiction
  · rintro rfl
    contradiction

/-- Nor is any digit of a hexadecimal number. -/
theorem isOneLine_of_numberFrom?
    {base front number : Nat} {digits : List Char}
    (isNumber : Text.numberFrom? Text.hexValue? base front digits = some number) :
    IsOneLine digits := by
  induction digits generalizing front with
  | nil =>
      simp [IsOneLine]
  | cons first rest inductionHypothesis =>
      rw [Text.numberFrom?] at isNumber
      split at isNumber
      · contradiction
      · rename_i value isDigit
        exact List.forall_mem_cons.mpr ⟨isInLine_of_hexValue? isDigit, inductionHypothesis isNumber⟩

/-- The digits that name a character stand in one line. -/
theorem isOneLine_of_characterOfDigits?
    {digits : List Char} {character : Char} (named : characterOfDigits? digits = some character) :
    IsOneLine digits := by
  rw [characterOfDigits?] at named
  split at named
  · contradiction
  · rename_i code isNumber
    exact isOneLine_of_numberFrom? isNumber

/-- The letter of an escape is no part of a line end. -/
theorem isInLine_of_escaped? {letter character : Char} (named : escaped? letter = some character) :
    IsInLine letter := by
  constructor
  · rintro rfl
    contradiction
  · rintro rfl
    contradiction

variable {written : List Char} {character : Char}

/-- No line ends within an escape. -/
theorem isOneLine (escape : Escape written character) : IsOneLine written := by
  cases escape with
  | letter named => exact List.forall_mem_singleton.mpr (isInLine_of_escaped? named)
  | fourDigits named =>
      exact List.forall_mem_cons.mpr ⟨by decide, isOneLine_of_characterOfDigits? named⟩
  | eightDigits named =>
      exact List.forall_mem_cons.mpr ⟨by decide, isOneLine_of_characterOfDigits? named⟩

/-- An escape stands in one line, with its backslash. -/
theorem isOneLine_cons (escape : Escape written character) :
    IsOneLine ('\\' :: written) :=
  List.forall_mem_cons.mpr ⟨by decide, escape.isOneLine⟩

/-- A letter that stands for a character is one of these. -/
theorem escaped?_cases {letter : Char} (named : escaped? letter = some character) :
    letter = 'b' ∨ letter = 't' ∨ letter = 'n' ∨ letter = 'f' ∨ letter = 'r' ∨ letter = '\x22' ∨
      letter = '\\' := by
  rw [escaped?.eq_def] at named
  split at named <;> simp_all

end Escape

/-! ## Strings on one line -/

/-- An escape gives its character, and the string goes on behind it. -/
theorem basicString?_escape
    {written : List Char} {character : Char} (escape : Escape written character)
    (read rest : List Char) :
    basicString? read ('\\' :: (written ++ rest)) = basicString? (character :: read) rest := by
  cases escape with
  | @letter letter character named =>
      obtain rfl | rfl | rfl | rfl | rfl | rfl | rfl := Escape.escaped?_cases named <;>
      · cases named
        rfl
  | fourDigits named =>
      simp only [List.cons_append, List.nil_append]
      rw [basicString?, named]
  | eightDigits named =>
      simp only [List.cons_append, List.nil_append]
      rw [basicString?, named]

/-- Basic strings on one line are read alike. -/
theorem basicString?_readsAlike (read : List Char) : ReadsAlike (basicString? read) := by
  intro text other rest item same taken
  fun_induction basicString? read text generalizing other with
  | case2 read behind =>
      cases taken
      obtain ⟨otherBehind, rfl, sameBehind⟩ := same.exists_cons (by decide)
      exact ⟨otherBehind, rfl, sameBehind, Nat.lt_succ_self _⟩
  | case3 read a b c d behind character named inductionHypothesis =>
      have escape := Escape.fourDigits named
      exact .of_front _ escape.isOneLine_cons same (fun _ => basicString?_escape escape read _)
        fun sameBehind => inductionHypothesis sameBehind taken
  | case5 read a b c d e f g h behind character named inductionHypothesis =>
      have escape := Escape.eightDigits named
      exact .of_front _ escape.isOneLine_cons same (fun _ => basicString?_escape escape read _)
        fun sameBehind => inductionHypothesis sameBehind taken
  | case7 read letter behind _ _ character named inductionHypothesis =>
      have escape := Escape.letter named
      exact .of_front _ escape.isOneLine_cons same (fun _ => basicString?_escape escape read _)
        fun sameBehind => inductionHypothesis sameBehind taken
  | case9 read character behind notQuote _ _ noLetter inString inductionHypothesis =>
      have notBackslash : character ≠ '\\' := by
        rintro rfl
        cases behind with
        | nil => contradiction
        | cons letter later => exact noLetter letter later rfl rfl
      exact .of_front _ (List.forall_mem_singleton.mpr (StaysInLine.string.isInLine inString)) same
        (fun _ => basicString?_cons notQuote notBackslash inString read _)
        fun sameBehind => inductionHypothesis sameBehind taken
  | _ => contradiction

/-- So are literal strings on one line. -/
theorem literalString?_readsAlike (read : List Char) : ReadsAlike (literalString? read) := by
  intro text other rest item same taken
  fun_induction literalString? read text generalizing other with
  | case2 read behind =>
      cases taken
      obtain ⟨otherBehind, rfl, sameBehind⟩ := same.exists_cons (by decide)
      exact ⟨otherBehind, rfl, sameBehind, Nat.lt_succ_self _⟩
  | case3 read character behind notQuote inString inductionHypothesis =>
      exact .of_front _ (List.forall_mem_singleton.mpr (StaysInLine.string.isInLine inString)) same
        (fun _ => literalString?_cons notQuote inString read _)
        fun sameBehind => inductionHypothesis sameBehind taken
  | _ => contradiction

/-! ## Strings over several lines -/

/-- Quotes behind three closing ones that are part of the string: two at most. -/
def lastQuotes (quote : Char) (text : List Char) : List Char :=
  (text.takeWhile (· == quote)).take 2

section Closing

variable {quote : Char}

/-- The quotes that belong to a string before its closing ones stand at the front. -/
theorem exists_append_lastQuotes (quote : Char) (text : List Char) :
    ∃ behind, text = lastQuotes quote text ++ behind := by
  obtain ⟨behind, parted⟩ := (List.take_prefix 2 _).trans (List.takeWhile_prefix (· == quote))
  exact ⟨behind, parted.symm⟩

/-- These quotes are none, one or two. -/
theorem lastQuotes_cases (quote : Char) (text : List Char) :
    (lastQuotes quote text = [] ∧ ∀ behind, text ≠ quote :: behind) ∨
      (∃ behind, text = quote :: behind ∧ lastQuotes quote text = [quote] ∧
        ∀ later, behind ≠ quote :: later) ∨
      ∃ behind, text = quote :: quote :: behind ∧ lastQuotes quote text = [quote, quote] := by
  rcases text with _ | ⟨first, rest⟩
  · simp [lastQuotes]
  · by_cases firstQuote : first = quote
    · subst first
      rcases rest with _ | ⟨second, later⟩
      · simp [lastQuotes]
      · by_cases secondQuote : second = quote
        · subst second
          simp [lastQuotes]
        · simp [lastQuotes, secondQuote]
    · simp [lastQuotes, firstQuote]

/-- Quotes are no part of a line end. -/
theorem isOneLine_lastQuotes
    (inLine : IsInLine quote) (text : List Char) :
    IsOneLine (lastQuotes quote text) := by
  intro character member
  have inRun := List.mem_of_mem_take member
  rw [Text.takeWhile_eq_replicate] at inRun
  rwa [List.eq_of_mem_replicate inRun]

/-- A reader that ends a string at three quotes does so in both texts. -/
theorem TakesAlike.of_closing
    {reader : List Char → Option (List Char × List Char)} {read item rest behind other : List Char}
    (inLine : IsInLine quote)
    (closes :
      ∀ text, reader (quote :: quote :: quote :: text) =
        some (read.reverse ++ lastQuotes quote text, text.drop (lastQuotes quote text).length))
    (same : SameLines (quote :: quote :: quote :: behind) other)
    (taken : reader (quote :: quote :: quote :: behind) = some (item, rest)) :
    TakesAlike reader item rest other := by
  have threeInLine : IsOneLine [quote, quote, quote] := by
    simpa [IsOneLine] using inLine
  obtain ⟨otherBehind, rfl, sameBehind⟩ := same.exists_append threeInLine
  have sameQuotes : lastQuotes quote otherBehind = lastQuotes quote behind := by
    rw [lastQuotes, lastQuotes, sameBehind.takeWhile_eq (.sign inLine)]
  have quotesInLine := isOneLine_lastQuotes inLine behind
  obtain ⟨left, parted⟩ := exists_append_lastQuotes quote behind
  rw [closes] at taken
  cases taken
  have closesOther := closes otherBehind
  rw [sameQuotes] at closesOther
  generalize lastQuotes quote behind = quotes at *
  subst behind
  obtain ⟨otherLeft, rfl, sameLeft⟩ := sameBehind.exists_append quotesInLine
  refine ⟨otherLeft, ?_, ?_, ?_⟩
  · simpa using closesOther
  · simpa using sameLeft
  · simp
    omega

end Closing

/-- Three single quotes close literal lines, with up to two more of them inside. -/
theorem literalLines?_closing (read text : List Char) :
    literalLines? read ('\x27' :: '\x27' :: '\x27' :: text) =
      some (read.reverse ++ lastQuotes '\x27' text, text.drop (lastQuotes '\x27' text).length) := by
  rcases lastQuotes_cases '\x27' text with
    ⟨none, noFourth⟩ | ⟨behind, rfl, one, noFifth⟩ | ⟨behind, rfl, two⟩
  · rw [literalLines?, none, List.append_nil]
    · rfl
    · exact fun _ => noFourth _
    · exact noFourth
  · rw [literalLines?, one, List.reverse_cons]
    · rfl
    · exact noFifth
  · rw [literalLines?, two]
    simp

/-- Three double quotes close basic lines, with up to two more of them inside. -/
theorem basicLines?_closing
    {passage : Passage} (mayClose : passage ≠ .lineEnd) (read text : List Char) :
    basicLines? passage read ('\x22' :: '\x22' :: '\x22' :: text) =
      some (read.reverse ++ lastQuotes '\x22' text, text.drop (lastQuotes '\x22' text).length) := by
  rcases lastQuotes_cases '\x22' text with
    ⟨none, noFourth⟩ | ⟨behind, rfl, one, noFifth⟩ | ⟨behind, rfl, two⟩
  · rw [basicLines?, if_neg mayClose, none, List.append_nil]
    · rfl
    · exact fun _ => noFourth _
    · exact noFourth
  · rw [basicLines?, if_neg mayClose, one, List.reverse_cons]
    · rfl
    · exact noFifth
  · rw [basicLines?, if_neg mayClose, two]
    simp

/-- A line end in literal lines is a line feed, however it is written. -/
theorem literalLines?_of_lineEnd
    {text behind : List Char} (lineEnd : LineEnd text behind) (read : List Char) :
    literalLines? read text = literalLines? ('\n' :: read) behind := by
  cases lineEnd <;> rw [literalLines?]

/-- Literal lines are read alike. -/
theorem literalLines?_readsAlike (read : List Char) : ReadsAlike (literalLines? read) := by
  intro text other rest item same taken
  fun_induction literalLines? read text generalizing other with
  | case2 read behind inductionHypothesis =>
      exact .of_lineEnd (.carriageReturn behind) (literalLines?_of_lineEnd · read) rfl taken same
        fun sameBehind => inductionHypothesis sameBehind taken
  | case3 read behind inductionHypothesis =>
      exact .of_lineEnd (.lineFeed behind) (literalLines?_of_lineEnd · read) rfl taken same
        fun sameBehind => inductionHypothesis sameBehind taken
  | case4 read behind =>
      refine .of_closing (by decide) (literalLines?_closing read) same ?_
      rwa [literalLines?]
  | case5 read behind noFifth =>
      refine .of_closing (by decide) (literalLines?_closing read) same ?_
      rwa [literalLines?]
      exact noFifth
  | case6 read behind noFifth noFourth =>
      refine .of_closing (by decide) (literalLines?_closing read) same ?_
      rwa [literalLines?]
      · exact noFifth
      · exact noFourth
  | case7 read character behind _ _ _ _ notThree inString inductionHypothesis =>
      have notClosing : ¬ ['\x27', '\x27', '\x27'] <+: character :: behind := by
        rintro ⟨later, ⟨⟩⟩
        exact notThree later rfl rfl
      have inLine := StaysInLine.string.isInLine inString
      refine .of_front _ (List.forall_mem_singleton.mpr inLine) same (fun sameBehind => ?_)
        fun sameBehind => inductionHypothesis sameBehind taken
      rw [(SameLines.inLine inLine sameBehind).prefix_iff (by decide)] at notClosing
      exact literalLines?_cons notClosing inString read
  | _ => contradiction

/-- An escape in basic lines gives its character, unless the line is to end. -/
theorem basicLines?_escape
    {written : List Char} {character : Char} (escape : Escape written character)
    {passage : Passage} (mayStand : passage ≠ .lineEnd) (read rest : List Char) :
    basicLines? passage read ('\\' :: (written ++ rest)) =
      basicLines? .text (character :: read) rest := by
  cases escape with
  | @letter letter character named =>
      rw [List.cons_append, List.nil_append, basicLines?, if_neg mayStand, named]
      · rintro a b c d later rfl
        contradiction
      · rintro a b c d e f g h later rfl
        contradiction
  | fourDigits named =>
      simp only [List.cons_append, List.nil_append]
      rw [basicLines?, if_neg mayStand, named]
  | eightDigits named =>
      simp only [List.cons_append, List.nil_append]
      rw [basicLines?, if_neg mayStand, named]

/-- How a string goes on behind a line end: outside its text, line ends are passed over. -/
theorem basicLines?_of_lineEnd_text
    {text behind : List Char} (lineEnd : LineEnd text behind) (read : List Char) :
    basicLines? .text read text = basicLines? .text ('\n' :: read) behind := by
  cases lineEnd <;> rw [basicLines?]

/-- A line end behind a backslash is passed, and so are the blanks of the next line. -/
theorem basicLines?_of_lineEnd
    {text behind : List Char} (lineEnd : LineEnd text behind) {passage : Passage}
    (notText : passage ≠ .text) (read : List Char) :
    basicLines? passage read text = basicLines? .blanks read behind := by
  cases lineEnd with
  | lineFeed =>
      rw [basicLines?]
      exact notText
  | carriageReturn =>
      rw [basicLines?]
      exact notText

/-- Gaps behind such a backslash are passed. -/
theorem basicLines?_gap
    {character : Char} (gap : isGap character = true) {passage : Passage}
    (notText : passage ≠ .text) (read text : List Char) :
    basicLines? passage read (character :: text) = basicLines? passage read text := by
  have gapOutside : (isGap character && passage != .text) = true := by
    simpa [gap] using notText
  have isBlank : character = ' ' ∨ character = '\t' := by
    simpa [isGap] using gap
  rcases isBlank with rfl | rfl <;> rw [basicLines?, if_pos gapOutside] <;>
  · intros
    contradiction

/-- A backslash in front of blanks or a line end opens the passing over of what is blank. -/
theorem basicLines?_backslash
    {letter : Char} (blank : isGap letter = true ∨ letter = '\n' ∨ letter = '\r')
    {passage : Passage} (mayStand : passage ≠ .lineEnd) (read text : List Char) :
    basicLines? passage read ('\\' :: letter :: text) =
      basicLines? .lineEnd read (letter :: text) := by
  have noEscape : escaped? letter = none ∧ letter ≠ 'u' ∧ letter ≠ 'U' := by
    have isBlank : letter = ' ' ∨ letter = '\t' ∨ letter = '\n' ∨ letter = '\r' := by
      simpa [isGap, or_assoc] using blank
    rcases isBlank with rfl | rfl | rfl | rfl <;> decide
  rw [basicLines?, if_neg mayStand, noEscape.1]
  · exact fun _ _ _ _ _ isLetter => absurd isLetter noEscape.2.1
  · exact fun _ _ _ _ _ _ _ _ _ isLetter => absurd isLetter noEscape.2.2

/--
Behind such a backslash nothing but blanks can end the line: quotes and escapes
are refused there, and so is every other character.
-/
theorem exists_blank_of_basicLines?_lineEnd
    {read text rest item : List Char}
    (taken : basicLines? .lineEnd read text = some (item, rest)) :
    ∃ letter behind, text = letter :: behind ∧
      (isGap letter = true ∨ letter = '\n' ∨ letter = '\r') := by
  rw [basicLines?.eq_def] at taken
  split at taken
  · contradiction
  · exact ⟨_, _, rfl, Or.inr (Or.inr rfl)⟩
  · exact ⟨_, _, rfl, Or.inr (Or.inl rfl)⟩
  all_goals simp at taken
  exact ⟨_, _, rfl, Or.inl taken.1⟩

/-- Basic lines are read alike, within a text and behind a backslash that ends a line. -/
theorem basicLines?_readsAlike (passage : Passage) (read : List Char) :
    ReadsAlike (basicLines? passage read) := by
  intro text other rest item same taken
  fun_induction basicLines? passage read text generalizing other with
  | case2 read behind inductionHypothesis =>
      exact .of_lineEnd (.carriageReturn behind) (basicLines?_of_lineEnd_text · read) rfl taken same
        fun sameBehind => inductionHypothesis sameBehind taken
  | case3 passage read behind notText inductionHypothesis =>
      exact .of_lineEnd (.carriageReturn behind) (basicLines?_of_lineEnd · notText read) rfl taken
        same fun sameBehind => inductionHypothesis sameBehind taken
  | case4 read behind inductionHypothesis =>
      exact .of_lineEnd (.lineFeed behind) (basicLines?_of_lineEnd_text · read) rfl taken same
        fun sameBehind => inductionHypothesis sameBehind taken
  | case5 passage read behind notText inductionHypothesis =>
      exact .of_lineEnd (.lineFeed behind) (basicLines?_of_lineEnd · notText read) rfl taken
        same fun sameBehind => inductionHypothesis sameBehind taken
  | case7 passage read behind mayClose =>
      refine .of_closing (by decide) (basicLines?_closing mayClose read) same ?_
      rwa [basicLines?, if_neg mayClose]
  | case9 passage read behind noFifth mayClose =>
      refine .of_closing (by decide) (basicLines?_closing mayClose read) same ?_
      rwa [basicLines?, if_neg mayClose]
      exact noFifth
  | case11 passage read behind noFifth noFourth mayClose =>
      refine .of_closing (by decide) (basicLines?_closing mayClose read) same ?_
      rwa [basicLines?, if_neg mayClose]
      · exact noFifth
      · exact noFourth
  | case13 passage read a b c d behind mayStand character named inductionHypothesis =>
      have escape := Escape.fourDigits named
      exact .of_front _ escape.isOneLine_cons same
        (fun _ => basicLines?_escape escape mayStand read _)
        fun sameBehind => inductionHypothesis sameBehind taken
  | case16 passage read a b c d e f g h behind mayStand character named inductionHypothesis =>
      have escape := Escape.eightDigits named
      exact .of_front _ escape.isOneLine_cons same
        (fun _ => basicLines?_escape escape mayStand read _)
        fun sameBehind => inductionHypothesis sameBehind taken
  | case19 passage read letter behind _ _ mayStand character named inductionHypothesis =>
      have escape := Escape.letter named
      exact .of_front _ escape.isOneLine_cons same
        (fun _ => basicLines?_escape escape mayStand read _)
        fun sameBehind => inductionHypothesis sameBehind taken
  | case20 passage read letter behind _ _ mayStand _ inductionHypothesis =>
      obtain ⟨otherBehind, rfl, sameBehind⟩ := same.exists_cons (by decide)
      obtain ⟨otherRest, isTaken, sameRest, shorter⟩ := inductionHypothesis sameBehind taken
      obtain ⟨otherLetter, later, rfl, blank⟩ := exists_blank_of_basicLines?_lineEnd isTaken
      refine ⟨otherRest, ?_, sameRest, Nat.lt_succ_of_lt shorter⟩
      rw [basicLines?_backslash blank mayStand, isTaken]
  | case21 passage read character behind _ _ _ _ _ _ _ _ gapOutside inductionHypothesis =>
      obtain ⟨gap, notText⟩ := Bool.and_eq_true_iff.mp gapOutside
      exact .of_front _ (List.forall_mem_singleton.mpr (StaysInLine.gap.isInLine gap)) same
        (fun _ => basicLines?_gap gap (bne_iff_ne.mp notText) read _)
        fun sameBehind => inductionHypothesis sameBehind taken
  | case23 passage read character behind _ _ _ _ notThree _ _ noLetter notGap mayStand inString
      inductionHypothesis =>
      have notClosing : ¬ ['\x22', '\x22', '\x22'] <+: character :: behind := by
        rintro ⟨later, ⟨⟩⟩
        exact notThree later rfl rfl
      have notBackslash : character ≠ '\\' := by
        rintro rfl
        cases behind with
        | nil => contradiction
        | cons letter later => exact noLetter letter later rfl rfl
      have inLine := StaysInLine.string.isInLine inString
      refine .of_front _ (List.forall_mem_singleton.mpr inLine) same (fun sameBehind => ?_)
        fun sameBehind => inductionHypothesis sameBehind taken
      rw [(SameLines.inLine inLine sameBehind).prefix_iff (by decide)] at notClosing
      exact basicLines?_cons notBackslash notClosing notGap mayStand inString read
  | _ => contradiction

/-! ## Strings of any form -/

/-- A line end right behind opening quotes is dropped in both texts. -/
theorem ReadsAlike.behind_dropLineEnd
    {Item : Type} {reader : List Char → Option (Item × List Char)} (alike : ReadsAlike reader) :
    ReadsAlike fun text => reader (Text.dropLineEnd text) := by
  intro text other rest item same taken
  obtain ⟨otherRest, isTaken, sameRest, shorter⟩ := alike same.dropLineEnd taken
  exact ⟨otherRest, isTaken, sameRest, Nat.lt_of_lt_of_le shorter (length_dropLineEnd other)⟩

/-- A reader that changes what it takes takes it from the same texts. -/
theorem ReadsAlike.map
    {Item Other : Type} {reader : List Char → Option (Item × List Char)}
    (alike : ReadsAlike reader) (change : Item → Other) :
    ReadsAlike fun text => (reader text).map fun taken => (change taken.1, taken.2) := by
  intro text other rest item same taken
  obtain ⟨⟨found, left⟩, isTaken, ⟨⟩⟩ := Option.map_eq_some_iff.mp taken
  obtain ⟨otherRest, otherTaken, sameRest, shorter⟩ := alike same isTaken
  exact ⟨otherRest, Option.map_eq_some_iff.mpr ⟨_, otherTaken, rfl⟩, sameRest, shorter⟩

/-- One double quote, and no three, opens a basic string. -/
theorem string?_basic {text : List Char} (notThree : ¬ ['\x22', '\x22'] <+: text) :
    string? ('\x22' :: text) = basicString? [] text := by
  rw [string?]
  rintro rest rfl
  exact notThree ⟨rest, rfl⟩

/-- One single quote, and no three, opens a literal string. -/
theorem string?_literal {text : List Char} (notThree : ¬ ['\x27', '\x27'] <+: text) :
    string? ('\x27' :: text) = literalString? [] text := by
  rw [string?]
  rintro rest rfl
  exact notThree ⟨rest, rfl⟩

/-- A string is read alike, whatever its form. -/
theorem string?_readsAlike : ReadsAlike string? := by
  intro text other rest item same taken
  fun_cases string? text with
  | case1 behind =>
      exact .of_front ['\x22', '\x22', '\x22'] (by decide) same (fun _ => rfl)
        fun sameBehind =>
          ReadsAlike.behind_dropLineEnd (basicLines?_readsAlike .text []) sameBehind taken
  | case2 behind notThree =>
      have notPrefix : ¬ ['\x22', '\x22'] <+: behind := fun ⟨later, isBehind⟩ =>
        notThree later isBehind.symm
      rw [string?_basic notPrefix] at taken
      refine .of_front ['\x22'] (by decide) same (fun sameBehind => ?_)
        fun sameBehind => basicString?_readsAlike [] sameBehind taken
      exact string?_basic (mt (sameBehind.prefix_iff (by decide)).mpr notPrefix)
  | case3 behind =>
      exact .of_front ['\x27', '\x27', '\x27'] (by decide) same (fun _ => rfl)
        fun sameBehind =>
          ReadsAlike.behind_dropLineEnd (literalLines?_readsAlike []) sameBehind taken
  | case4 behind notThree =>
      have notPrefix : ¬ ['\x27', '\x27'] <+: behind := fun ⟨later, isBehind⟩ =>
        notThree later isBehind.symm
      rw [string?_literal notPrefix] at taken
      refine .of_front ['\x27'] (by decide) same (fun sameBehind => ?_)
        fun sameBehind => literalString?_readsAlike [] sameBehind taken
      exact string?_literal (mt (sameBehind.prefix_iff (by decide)).mpr notPrefix)
  | case5 text noBasicLines noBasic noLiteralLines noLiteral =>
      rw [string?] at taken
      · contradiction
      all_goals assumption

end Tangle.Toml
