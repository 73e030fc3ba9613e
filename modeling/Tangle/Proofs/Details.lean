import Mathlib.Data.List.TakeWhile
import Tangle.Proofs.Identifier
import Tangle.Proofs.Text.FirstWord
import Tangle.Target

namespace Tangle

/-!
# The words of details

The details of a code block are a list of words.  The first word of the form
`#name` is its identifier, and the first one of the form `file://…` or
`rmsm://…` says what becomes of the block; a word that only starts like one of
these is an ordinary word.  Nothing else about the details matters.
-/

/-- A word that is an identifier: a number sign and a name behind it. -/
def IsIdentifierWord (word : List Char) (name : String) : Prop :=
  word = '#' :: name.toList ∧ name ≠ "" ∧
    ∀ letter ∈ name.toList, isIdentifierLetter letter = true

/-- A word that is a protocol word: a scheme and a value behind it. -/
def IsProtocolWord (word : List Char) : ProtocolWord → Prop
  | .file value => word = "file://".toList ++ value.toList ∧ value ≠ ""
  | .rmsm value => word = "rmsm://".toList ++ value.toList ∧ value ≠ ""

/-- A word that is neither an identifier nor a protocol word. -/
def IsOrdinaryWord (word : List Char) : Prop :=
  (∀ name, ¬ IsIdentifierWord word name) ∧ ∀ protocol, ¬ IsProtocolWord word protocol

open Text (isWordCharacter)

/-- A character of an identifier is not blank. -/
theorem isWordCharacter_of_isIdentifierLetter
    {letter : Char} (identifier : isIdentifierLetter letter = true) :
    isWordCharacter letter = true := by
  simp only [isIdentifierLetter, Bool.or_eq_true, Bool.and_eq_true, decide_eq_true_eq,
    beq_iff_eq] at identifier
  have bounds : 45 ≤ letter.toNat ∧ letter.toNat ≤ 122 := by
    rcases identifier with ((slugLetter | ⟨fromA, toZ⟩) | rfl) | rfl
    · have := isSlugLetter_iff.mp slugLetter
      omega
    · have low : 65 ≤ letter.toNat := fromA
      have high : letter.toNat ≤ 90 := toZ
      omega
    · decide
    · decide
  simp only [isWordCharacter, Text.isBlank, Bool.not_eq_true', Bool.or_eq_false_iff,
    Bool.and_eq_false_iff, decide_eq_false_iff_not, beq_eq_false_iff_ne]
  omega

section IdentifierWords

/-- The letters of an identifier are characters of words, so it ends within its word. -/
theorem takeWhile_identifier (text : List Char) :
    (text.takeWhile isWordCharacter).takeWhile isIdentifierLetter =
      text.takeWhile isIdentifierLetter := by
  rw [List.takeWhile_takeWhile]
  congr 1
  funext letter
  cases identifier : isIdentifierLetter letter with
  | false =>
      simp
  | true =>
      simp [isWordCharacter_of_isIdentifierLetter identifier]

/-- Whether a word ends behind an identifier can be seen in the word alone. -/
theorem endsWord_dropWhile_identifier (text : List Char) :
    Text.endsWord ((text.takeWhile isWordCharacter).dropWhile isIdentifierLetter) =
      Text.endsWord (text.dropWhile isIdentifierLetter) := by
  induction text with
  | nil =>
      rfl
  | cons first rest inductionHypothesis =>
      cases identifier : isIdentifierLetter first with
      | true =>
          have inWord := isWordCharacter_of_isIdentifierLetter identifier
          rw [List.takeWhile_cons_of_pos inWord, List.dropWhile_cons_of_pos identifier,
            List.dropWhile_cons_of_pos identifier, inductionHypothesis]
      | false =>
          cases inWord : isWordCharacter first with
          | true =>
              simp [inWord, identifier, Text.endsWord]
          | false =>
              have blank : Text.isBlank first = true := by
                simpa [isWordCharacter] using inWord
              simp [inWord, identifier, blank, Text.endsWord]

/-- Within a word only the end of the word ends it. -/
theorem endsWord_dropWhile_of_inside
    {name : List Char} (inside : ∀ character ∈ name, isWordCharacter character = true) :
    Text.endsWord (name.dropWhile isIdentifierLetter) = true ↔
      ∀ letter ∈ name, isIdentifierLetter letter = true := by
  rw [← List.dropWhile_eq_nil_iff]
  cases behind : name.dropWhile isIdentifierLetter with
  | nil =>
      simp [Text.endsWord]
  | cons next later =>
      have member : next ∈ name := by
        apply (List.dropWhile_suffix isIdentifierLetter).subset
        rw [behind]
        exact List.mem_cons_self
      have notBlank : Text.isBlank next = false := by
        simpa [isWordCharacter] using inside next member
      simp [Text.endsWord, notBlank]

/-- A name behind a number sign is an identifier if a word ends behind it. -/
theorem identifierInFront?_eq_some_iff {behind : List Char} {name : String} :
    identifierInFront? ('#' :: behind) = some name ↔
      behind.takeWhile isIdentifierLetter = name.toList ∧ name ≠ "" ∧
        Text.endsWord (behind.dropWhile isIdentifierLetter) = true := by
  have sameText :
      String.ofList (behind.takeWhile isIdentifierLetter) = name ↔
        behind.takeWhile isIdentifierLetter = name.toList := by
    rw [← String.toList_inj, String.toList_ofList]
  rw [identifierInFront?]
  split
  · rename_i accepted
    simp only [Bool.and_eq_true, Bool.not_eq_true', List.isEmpty_eq_false_iff] at accepted
    rw [Option.some_inj, sameText]
    constructor
    · intro same
      refine ⟨same, ?_, accepted.2⟩
      rintro rfl
      exact accepted.1 same
    · exact And.left
  · rename_i refused
    simp only [reduceCtorEq, false_iff]
    rintro ⟨same, notEmpty, ends⟩
    exact refused (by simp [same, notEmpty, ends])

/-- Identifiers are read off words: nothing from the empty text, and a word as a whole. -/
theorem readsWords_identifier : Text.ReadsWords identifierInFront? IsIdentifierWord where
  nothing := rfl
  whole text := by
    cases text with
    | nil =>
        rfl
    | cons first rest =>
        by_cases numberSign : first = '#'
        · subst first
          apply Option.ext
          intro name
          rw [List.takeWhile_cons_of_pos (by decide), identifierInFront?_eq_some_iff,
            identifierInFront?_eq_some_iff, takeWhile_identifier, endsWord_dropWhile_identifier]
        · cases inWord : isWordCharacter first <;>
            simp [inWord, identifierInFront?, numberSign]
  understands := by
    intro word inside name
    cases word with
    | nil =>
        simp [identifierInFront?, IsIdentifierWord]
    | cons first rest =>
        by_cases numberSign : first = '#'
        · subst first
          have restInside : ∀ character ∈ rest, isWordCharacter character = true :=
            fun character member => inside character (List.mem_cons_of_mem _ member)
          rw [identifierInFront?_eq_some_iff, endsWord_dropWhile_of_inside restInside,
            IsIdentifierWord]
          constructor
          · rintro ⟨sameName, notEmpty, letters⟩
            rw [List.takeWhile_eq_self_iff.mpr letters] at sameName
            exact ⟨by rw [sameName], notEmpty, sameName ▸ letters⟩
          · rintro ⟨shape, notEmpty, letters⟩
            obtain rfl : rest = name.toList := (List.cons.inj shape).2
            exact ⟨List.takeWhile_eq_self_iff.mpr letters, notEmpty, letters⟩
        · simp [identifierInFront?, IsIdentifierWord, numberSign]

end IdentifierWords

section ProtocolWords

variable {scheme : List Char}

/-- Behind a scheme stands a value if the word goes on. -/
theorem valueAfter?_append (scheme behind : List Char) :
    ProtocolWord.valueAfter? scheme (scheme ++ behind) =
      if (behind.takeWhile isWordCharacter).isEmpty then none
      else some (String.ofList (behind.takeWhile isWordCharacter)) := by
  have leads : scheme.isPrefixOf (scheme ++ behind) = true :=
    List.isPrefixOf_iff_prefix.mpr (List.prefix_append scheme behind)
  rw [ProtocolWord.valueAfter?, if_pos leads, List.drop_left]
  rfl

/-- The value behind a scheme goes to the end of the word, and is not empty. -/
theorem valueAfter?_eq_some_iff {text : List Char} {value : String} :
    ProtocolWord.valueAfter? scheme text = some value ↔
      ∃ behind, text = scheme ++ behind ∧ behind.takeWhile isWordCharacter = value.toList ∧
        value ≠ "" := by
  constructor
  · intro found
    have leads : scheme <+: text := by
      rw [ProtocolWord.valueAfter?] at found
      split at found
      · rename_i isFront
        exact List.isPrefixOf_iff_prefix.mp isFront
      · contradiction
    obtain ⟨behind, rfl⟩ := leads
    rw [valueAfter?_append] at found
    split at found
    · contradiction
    · rename_i nonempty
      cases found
      refine ⟨behind, rfl, by rw [String.toList_ofList], ?_⟩
      intro empty
      rw [← String.toList_eq_nil_iff, String.toList_ofList] at empty
      exact nonempty (List.isEmpty_iff.mpr empty)
  · rintro ⟨behind, rfl, isValue, notEmpty⟩
    rw [valueAfter?_append, isValue, if_neg, String.ofList_toList]
    rwa [List.isEmpty_iff, String.toList_eq_nil_iff]

variable (schemeInside : ∀ character ∈ scheme, isWordCharacter character = true)

include schemeInside

/-- A value is read within the word that its scheme starts. -/
theorem valueAfter?_takeWhile (text : List Char) :
    ProtocolWord.valueAfter? scheme (text.takeWhile isWordCharacter) =
      ProtocolWord.valueAfter? scheme text := by
  apply Option.ext
  intro value
  rw [valueAfter?_eq_some_iff, valueAfter?_eq_some_iff]
  constructor
  · rintro ⟨behind, shape, isValue, notEmpty⟩
    have inside : ∀ character ∈ behind, isWordCharacter character = true := by
      intro character member
      have inWord : character ∈ text.takeWhile isWordCharacter := by
        rw [shape]
        exact List.mem_append_right scheme member
      exact List.mem_takeWhile_imp inWord
    refine ⟨behind ++ text.dropWhile isWordCharacter, ?_, ?_, notEmpty⟩
    · rw [← List.append_assoc, ← shape, List.takeWhile_append_dropWhile]
    · rw [List.takeWhile_append_of_pos inside,
        Text.takeWhile_of_startsOutside (Text.startsOutside_dropWhile text), List.append_nil,
        ← isValue, List.takeWhile_eq_self_iff.mpr inside]
  · rintro ⟨behind, rfl, isValue, notEmpty⟩
    refine ⟨behind.takeWhile isWordCharacter, ?_, ?_, notEmpty⟩
    · rw [List.takeWhile_append_of_pos schemeInside]
    · rw [List.takeWhile_idem, isValue]

end ProtocolWords

/-- Within a word the value is all that stands behind the scheme. -/
theorem valueAfter?_of_inside
    {scheme word : List Char} (inside : ∀ character ∈ word, isWordCharacter character = true)
    {value : String} :
    ProtocolWord.valueAfter? scheme word = some value ↔
      word = scheme ++ value.toList ∧ value ≠ "" := by
  rw [valueAfter?_eq_some_iff]
  constructor
  · rintro ⟨behind, rfl, isValue, notEmpty⟩
    have behindInside : ∀ character ∈ behind, isWordCharacter character = true :=
      fun character member => inside character (List.mem_append_right scheme member)
    rw [List.takeWhile_eq_self_iff.mpr behindInside] at isValue
    exact ⟨by rw [isValue], notEmpty⟩
  · rintro ⟨rfl, notEmpty⟩
    refine ⟨value.toList, rfl, ?_, notEmpty⟩
    exact List.takeWhile_eq_self_iff.mpr fun character member =>
      inside character (List.mem_append_right scheme member)

/--
The words of a protocol are read off the front of a text: nothing is read from
the empty one, and a word is read as a whole.  A word starts in one way only, as
a file or as a directive.
-/
theorem readsWords_protocol : Text.ReadsWords ProtocolWord.inFront? IsProtocolWord where
  nothing := by decide
  whole text := by
    have fileInside : ∀ character ∈ ProtocolWord.fileScheme, isWordCharacter character = true :=
      List.all_eq_true.mp (by decide)
    have directiveInside :
        ∀ character ∈ ProtocolWord.directiveScheme, isWordCharacter character = true :=
      List.all_eq_true.mp (by decide)
    rw [ProtocolWord.inFront?, ProtocolWord.inFront?, valueAfter?_takeWhile fileInside,
      valueAfter?_takeWhile directiveInside]
  understands := by
    intro word inside protocol
    have namesFile :
        ∀ value, IsProtocolWord word (.file value) ↔
          ProtocolWord.valueAfter? ProtocolWord.fileScheme word = some value :=
      fun _ => (valueAfter?_of_inside inside).symm
    have namesDirective :
        ∀ value, IsProtocolWord word (.rmsm value) ↔
          ProtocolWord.valueAfter? ProtocolWord.directiveScheme word = some value :=
      fun _ => (valueAfter?_of_inside inside).symm
    rw [ProtocolWord.inFront?]
    cases found : ProtocolWord.valueAfter? ProtocolWord.fileScheme word with
    | none =>
        cases protocol with
        | file value => simp [namesFile, found]
        | rmsm value => simp [namesDirective]
    | some path =>
        cases protocol with
        | file value =>
            simp [namesFile, found]
        | rmsm value =>
            have startsAsFile := ((namesFile path).mpr found).1
            simp [IsProtocolWord, startsAsFile]

/-- Two details give a block the same identifier and the same target. -/
def SaySame (details other : String) : Prop :=
  (∀ language content,
    (CodeBlock.mk language (some details) content).identifier? =
      (CodeBlock.mk language (some other) content).identifier?) ∧
  Target.ofDetails (some details) = Target.ofDetails (some other)

/-- Details say the same if the searches for an identifier and for a protocol word agree. -/
theorem SaySame.of_searches
    {details other : String}
    (sameIdentifier :
      Text.firstAtWord? identifierInFront? true details.toList =
        Text.firstAtWord? identifierInFront? true other.toList)
    (sameProtocol :
      Text.firstAtWord? ProtocolWord.inFront? true details.toList =
        Text.firstAtWord? ProtocolWord.inFront? true other.toList) :
    SaySame details other := by
  refine ⟨fun language content => sameIdentifier, ?_⟩
  rw [Target.ofDetails, Target.ofDetails, sameProtocol]

namespace ProtocolWord

@[simp] theorem target_file (path : String) :
    (ProtocolWord.file path).target = .ok (.file (some path)) :=
  rfl

@[simp] theorem target_rmsm (value : String) :
    (ProtocolWord.rmsm value).target =
      if value = "startup" then .ok (.directive .startup) else .error ⟨value⟩ := by
  rw [target, Directive.ofName]
  split <;> rfl

variable {word : ProtocolWord}

/-- A block is targeted at a path exactly by the word that names it. -/
theorem target_eq_named_iff {path : String} :
    word.target = .ok (.file (some path)) ↔ word = .file path := by
  cases word with
  | file value => simp
  | rmsm value => grind [target_rmsm]

/-- It is a startup block exactly by the startup directive. -/
theorem target_eq_directive_iff :
    word.target = .ok (.directive .startup) ↔ word = .rmsm "startup" := by
  cases word with
  | file value => simp
  | rmsm value => simp

/-- And it has an unknown directive exactly by a directive with any other value. -/
theorem target_eq_error_iff {value : String} :
    word.target = .error ⟨value⟩ ↔ value ≠ "startup" ∧ word = .rmsm value := by
  cases word with
  | file value => simp
  | rmsm value => grind [target_rmsm]

/-- A protocol word leaves no file without a name. -/
theorem target_ne_unnamed : word.target ≠ .ok (.file none) := by
  cases word with
  | file value => simp
  | rmsm value => grind [target_rmsm]

end ProtocolWord

/--
The details of a code block are read word by word.  Its identifier is what the
first word of the form `#name` says, and there is none without such a word.  Its
target is what the first word of the form `file://…` or `rmsm://…` says: a file
at that path, the startup script, or a directive that does not exist; without
such a word it is a file that needs a name.  So details say the same whatever
blanks part their words, whatever other words are put in or left out, and, if
no two words have the same form, in whatever order the words stand.
-/
theorem CodeBlock.details_read_by_words (language : Option String) (details content : String) :
    (∀ name,
      (CodeBlock.mk language (some details) content).identifier? = some name ↔
        Text.FirstSays IsIdentifierWord (Text.words details.toList) name) ∧
    ((CodeBlock.mk language (some details) content).identifier? = none ↔
      Text.NoneSays IsIdentifierWord (Text.words details.toList)) ∧
    (∀ path,
      Target.ofDetails (some details) = .ok (.file (some path)) ↔
        Text.FirstSays IsProtocolWord (Text.words details.toList) (.file path)) ∧
    (Target.ofDetails (some details) = .ok (.directive .startup) ↔
      Text.FirstSays IsProtocolWord (Text.words details.toList) (.rmsm "startup")) ∧
    (∀ value,
      Target.ofDetails (some details) = .error ⟨value⟩ ↔
        value ≠ "startup" ∧
          Text.FirstSays IsProtocolWord (Text.words details.toList) (.rmsm value)) ∧
    (Target.ofDetails (some details) = .ok (.file none) ↔
      Text.NoneSays IsProtocolWord (Text.words details.toList)) ∧
    (∀ other : String,
      Text.words details.toList = Text.words other.toList → SaySame details other) ∧
    (∀ other : String,
      Text.AlikeBut IsOrdinaryWord (Text.words details.toList) (Text.words other.toList) →
        SaySame details other) ∧
    (∀ other : String,
      (Text.words details.toList).Perm (Text.words other.toList) →
        Text.OneSaysAtMost IsIdentifierWord (Text.words details.toList) →
          Text.OneSaysAtMost IsProtocolWord (Text.words details.toList) →
            SaySame details other) := by
  have identifierSays := readsWords_identifier.firstAtWord?_eq_some_iff details.toList
  have protocolSays := readsWords_protocol.firstAtWord?_eq_some_iff details.toList
  have noProtocol := readsWords_protocol.firstAtWord?_eq_none_iff details.toList
  refine ⟨identifierSays, readsWords_identifier.firstAtWord?_eq_none_iff details.toList,
    ?_, ?_, ?_, ?_, ?_, ?_, ?_⟩
  · intro path
    rw [← protocolSays, Target.ofDetails]
    split <;> simp_all [ProtocolWord.target_eq_named_iff]
  · rw [← protocolSays, Target.ofDetails]
    split <;> simp_all [ProtocolWord.target_eq_directive_iff]
  · intro value
    rw [← protocolSays, Target.ofDetails]
    split <;> simp_all [ProtocolWord.target_eq_error_iff]
  · rw [← noProtocol, Target.ofDetails]
    split <;> simp_all [ProtocolWord.target_ne_unnamed]
  · intro other sameWords
    apply SaySame.of_searches
    · rw [readsWords_identifier.firstAtWord?_eq, readsWords_identifier.firstAtWord?_eq, sameWords]
    · rw [readsWords_protocol.firstAtWord?_eq, readsWords_protocol.firstAtWord?_eq, sameWords]
  · intro other alike
    exact .of_searches
      (readsWords_identifier.firstAtWord?_of_alike (fun _ ordinary => ordinary.1) alike)
      (readsWords_protocol.firstAtWord?_of_alike (fun _ ordinary => ordinary.2) alike)
  · intro other sameWords oneIdentifier oneProtocol
    exact .of_searches
      (readsWords_identifier.firstAtWord?_of_perm sameWords oneIdentifier)
      (readsWords_protocol.firstAtWord?_of_perm sameWords oneProtocol)

example :
    (CodeBlock.mk none (some "#bad! myfile://x file:// file://a#b #ok") "").identifier? =
        some "ok" ∧
      Target.ofDetails (some "#bad! myfile://x file:// file://a#b #ok") =
        .ok (.file (some "a#b")) := by
  decide +kernel

end Tangle
