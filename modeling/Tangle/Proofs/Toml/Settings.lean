import Tangle.Proofs.Toml.Dates

namespace Tangle.Toml

/-!
# Reading settings alike

Names, values, lines and whole texts of settings are read alike from texts that
differ in their line ends.  What a reader needs to know about its fuel is that
one unit for each character it passes is enough: so the fuel that the length of
a text gives is enough for that text, however long its line ends are.
-/

/--
From another text a reader takes an item as well and leaves the same lines, if
it has a unit of fuel for each character it passes.
-/
def TakesWithin {Item : Type}
    (reader : Nat → List Char → Option (Item × List Char)) (item : Item)
    (rest other : List Char) : Prop :=
  ∃ otherRest, SameLines rest otherRest ∧ otherRest.length < other.length ∧
    ∀ fuel, other.length ≤ fuel + otherRest.length → reader fuel other = some (item, otherRest)

/-- What a reader takes with some fuel it takes from every text with the same lines. -/
def ReadsAlikeAt {Item : Type}
    (reader : Nat → List Char → Option (Item × List Char)) (fuel : Nat) : Prop :=
  ∀ {text other rest : List Char} {item : Item},
    SameLines text other → reader fuel text = some (item, rest) → TakesWithin reader item rest other

/--
What is taken with fuel for the characters that are taken, and shortens the
text, is taken alike.
-/
theorem TakesWithin.intro
    {Item : Type} {reader : Nat → List Char → Option (Item × List Char)} {item : Item}
    {rest other otherRest : List Char} (sameRest : SameLines rest otherRest)
    (shorter : otherRest.length < other.length)
    (taken :
      ∀ fuel, other.length ≤ fuel + 1 + otherRest.length →
        reader (fuel + 1) other = some (item, otherRest)) :
    TakesWithin reader item rest other := by
  refine ⟨otherRest, sameRest, shorter, fun fuel enough => ?_⟩
  cases fuel with
  | zero => omega
  | succ fuel => exact taken fuel enough

/-! ## Names -/

/-- A part of a name without quotes. -/
def bareName? (text : List Char) : Option (String × List Char) :=
  let name := text.takeWhile isNameCharacter
  if name.isEmpty then none else some (String.ofList name, text.dropWhile isNameCharacter)

/-- Without a quote in front a part of a name is a bare one. -/
theorem namePart?_bare
    {text : List Char} (notBasic : text.head? ≠ some '\x22')
    (notLiteral : text.head? ≠ some '\x27') :
    namePart? text = bareName? text := by
  rw [namePart?, bareName?]
  · rintro rest rfl
    exact notBasic rfl
  · rintro rest rfl
    exact notLiteral rfl

/-- Bare names are read alike: none of their characters has a part in line ends. -/
theorem bareName?_readsAlike : ReadsAlike bareName? := by
  intro text other rest item same taken
  rw [bareName?] at taken
  split at taken
  · contradiction
  · rename_i nonempty
    cases taken
    have sameName := same.takeWhile_eq .name
    refine ⟨other.dropWhile isNameCharacter, ?_, same.dropWhile .name, ?_⟩
    · rw [bareName?, ← sameName, if_neg nonempty]
    · have parted :
          (other.takeWhile isNameCharacter).length + (other.dropWhile isNameCharacter).length =
            other.length := by
        rw [← List.length_append, List.takeWhile_append_dropWhile]
      rw [← sameName] at parted
      have positive : 0 < (text.takeWhile isNameCharacter).length := by
        simpa [List.length_pos_iff] using nonempty
      omega

/-- So are the parts of names, quoted or bare. -/
theorem namePart?_readsAlike : ReadsAlike namePart? := by
  intro text other rest item same taken
  by_cases basic : text.head? = some '\x22'
  · obtain ⟨behind, rfl⟩ := List.head?_eq_some_iff.mp basic
    exact .of_front ['\x22'] (by decide) same (fun _ => rfl) fun sameBehind =>
      ReadsAlike.map (basicString?_readsAlike []) String.ofList sameBehind taken
  · by_cases literal : text.head? = some '\x27'
    · obtain ⟨behind, rfl⟩ := List.head?_eq_some_iff.mp literal
      exact .of_front ['\x27'] (by decide) same (fun _ => rfl) fun sameBehind =>
        ReadsAlike.map (literalString?_readsAlike []) String.ofList sameBehind taken
    · rw [namePart?_bare basic literal] at taken
      obtain ⟨otherRest, otherTaken, sameRest, shorter⟩ := bareName?_readsAlike same taken
      refine ⟨otherRest, ?_, sameRest, shorter⟩
      rw [namePart?_bare (mt (same.head?_iff (by decide)).mpr basic)
        (mt (same.head?_iff (by decide)).mpr literal), otherTaken]

/-- Where a dot stands behind a part, the name goes on behind the dot. -/
theorem name?_dot
    {text behind deeper : List Char} {part : String}
    (isPart : namePart? (text.dropWhile isGap) = some (part, behind))
    (dot : behind.dropWhile isGap = '.' :: deeper) (fuel : Nat) :
    name? (fuel + 1) text = (name? fuel deeper).map fun taken => (part :: taken.1, taken.2) := by
  rw [name?, isPart]
  simp only [dot]

/-- Where none does, the name ends with this part. -/
theorem name?_end
    {text behind : List Char} {part : String}
    (isPart : namePart? (text.dropWhile isGap) = some (part, behind))
    (noDot : (behind.dropWhile isGap).head? ≠ some '.') (fuel : Nat) :
    name? (fuel + 1) text = some ([part], behind.dropWhile isGap) := by
  rw [name?, isPart]
  dsimp only
  split
  · rename_i deeper dot
    rw [dot] at noDot
    contradiction
  · rfl

/-- Names of any number of parts are read alike. -/
theorem name?_readsAlikeAt (fuel : Nat) : ReadsAlikeAt name? fuel := by
  induction fuel with
  | zero =>
      intro text other rest item same taken
      contradiction
  | succ fuel inductionHypothesis =>
      intro text other rest item same taken
      cases isPart : namePart? (text.dropWhile isGap) with
      | none =>
          rw [name?, isPart] at taken
          contradiction
      | some found =>
          obtain ⟨part, behind⟩ := found
          obtain ⟨otherBehind, otherPart, sameBehind, shorter⟩ :=
            namePart?_readsAlike (same.dropWhile .gap) isPart
          have passed := List.length_dropWhile_le isGap other
          have passedBehind := List.length_dropWhile_le isGap otherBehind
          have sameLater := sameBehind.dropWhile .gap
          by_cases dot : (behind.dropWhile isGap).head? = some '.'
          · obtain ⟨deeper, isDot⟩ := List.head?_eq_some_iff.mp dot
            rw [name?_dot isPart isDot] at taken
            obtain ⟨⟨parts, left⟩, isTaken, ⟨⟩⟩ := Option.map_eq_some_iff.mp taken
            rw [isDot] at sameLater
            obtain ⟨otherDeeper, otherDot, sameDeeper⟩ := sameLater.exists_cons (by decide)
            obtain ⟨otherRest, sameRest, shorterDeeper, otherTaken⟩ :=
              inductionHypothesis sameDeeper isTaken
            rw [otherDot, List.length_cons] at passedBehind
            refine .intro sameRest (by omega) fun otherFuel enough => ?_
            rw [name?_dot otherPart otherDot, otherTaken otherFuel (by omega)]
            rfl
          · rw [name?_end isPart dot] at taken
            cases taken
            refine .intro sameLater (by omega) fun otherFuel _ => ?_
            exact name?_end otherPart (mt (sameLater.head?_iff (by decide)).mpr dot) otherFuel

/-! ## Values -/

section Values

variable {fuel : Nat} {text : List Char}

/-- A bracket opens a list. -/
theorem value?_list (fuel : Nat) (text : List Char) :
    value? (fuel + 1) ('[' :: text) =
      (listItems? fuel text).map fun taken => (.list taken.1, taken.2) := by
  rw [value?]

/-- A brace that is closed at once gives a table without entries. -/
theorem value?_noEntries {behind : List Char} (closes : text.dropWhile isGap = '\x7d' :: behind) :
    value? (fuel + 1) ('\x7b' :: text) = some (.table .complete [], behind) := by
  rw [value?, closes]
  rfl

/-- Otherwise a brace opens a table with entries. -/
theorem value?_entries (someEntry : (text.dropWhile isGap).head? ≠ some '\x7d') :
    value? (fuel + 1) ('\x7b' :: text) =
      (tableEntries? fuel [] (text.dropWhile isGap)).map fun taken =>
        (.table .complete taken.1, taken.2) := by
  rw [value?]
  split
  · rename_i behind closes
    rw [closes] at someEntry
    contradiction
  · rfl

/-- Without a bracket or a brace in front the value is plain. -/
theorem value?_plain (noList : text.head? ≠ some '[') (noTable : text.head? ≠ some '\x7b') :
    value? (fuel + 1) text = plainValue? text := by
  rw [value?]
  · rintro rest rfl
    exact noList rfl
  · rintro rest rfl
    exact noTable rfl

/-- A list ends with its bracket, also behind a comma. -/
theorem listItems?_close
    {behind : List Char} (passed : skipLines false text = some (']' :: behind)) :
    listItems? (fuel + 1) text = some ([], behind) := by
  rw [listItems?, passed]
  rfl

/-- What follows an item in a list: another one, or the end of the list. -/
def itemsBehind? (fuel : Nat) (item : Value) (behind : List Char) :
    Option (List Value × List Char) :=
  match skipLines false behind with
  | some (',' :: later) => (listItems? fuel later).map fun taken => (item :: taken.1, taken.2)
  | some (']' :: later) => some ([item], later)
  | _ => none

/-- Anything else that stands there is an item. -/
theorem listItems?_item
    {front : List Char} (passed : skipLines false text = some front)
    (someItem : front.head? ≠ some ']') :
    listItems? (fuel + 1) text =
      (value? fuel front).bind fun taken => itemsBehind? fuel taken.1 taken.2 := by
  rw [listItems?, passed]
  split
  · contradiction
  · rename_i later isFront
    cases isFront
    contradiction
  · rename_i found _ isFront
    cases isFront
    cases value? fuel front <;> rfl

/-- Behind a comma come further items. -/
theorem itemsBehind?_next
    {behind later : List Char} (isNext : skipLines false behind = some (',' :: later))
    (fuel : Nat) (item : Value) :
    itemsBehind? fuel item behind =
      (listItems? fuel later).map fun taken => (item :: taken.1, taken.2) := by
  rw [itemsBehind?, isNext]
  rfl

/-- The bracket behind an item closes the list. -/
theorem itemsBehind?_last
    {behind later : List Char} (isLast : skipLines false behind = some (']' :: later))
    (fuel : Nat) (item : Value) :
    itemsBehind? fuel item behind = some ([item], later) := by
  rw [itemsBehind?, isLast]
  rfl

end Values

/-- Reading the name and the value of a setting, as one item. -/
def namedValue? (fuel : Nat) (text : List Char) : Option ((List String × Value) × List Char) :=
  (setting? fuel text).map fun (path, value, rest) => ((path, value), rest)

/-- An entry is a name, an equals sign and a value. -/
theorem namedValue?_eq
    {fuel : Nat} {text behind : List Char} {path : List String}
    (isName : name? text.length text = some (path, '=' :: behind)) :
    namedValue? (fuel + 1) text =
      (value? fuel (behind.dropWhile isGap)).map fun taken => ((path, taken.1), taken.2) := by
  rw [namedValue?, setting?, isName]
  exact Option.map_map _ _ _

/-- Where an entry is read, a name stands before an equals sign. -/
theorem exists_name_of_namedValue?
    {fuel : Nat} {text rest : List Char} {item : List String × Value}
    (taken : namedValue? (fuel + 1) text = some (item, rest)) :
    ∃ path behind, name? text.length text = some (path, '=' :: behind) := by
  rw [namedValue?, setting?] at taken
  split at taken
  · rename_i path behind isName
    exact ⟨path, behind, isName⟩
  · contradiction

/-- The entries of a table in line are read behind others. -/
def entriesBehind? (before : Entries) (fuel : Nat) (text : List Char) :
    Option (Entries × List Char) :=
  tableEntries? fuel before text

/-- What follows an entry in a table in line: another one, or the end of the table. -/
def entryBehind? (fuel : Nat) (entries : Entries) : List Char → Option (Entries × List Char)
  | ',' :: behind => entriesBehind? entries fuel behind
  | '\x7d' :: behind => some (entries, behind)
  | _ => none

/-- The entries of a table are one that is set among those before, and what comes behind it. -/
theorem entriesBehind?_eq (before : Entries) (fuel : Nat) (text : List Char) :
    entriesBehind? before (fuel + 1) text =
      (namedValue? fuel text).bind fun taken =>
        (assign taken.1.2 taken.1.1 before).bind fun entries =>
          entryBehind? fuel entries (taken.2.dropWhile isGap) := by
  rw [entriesBehind?, tableEntries?, namedValue?]
  cases setting? fuel text with
  | none => rfl
  | some taken =>
      obtain ⟨path, value, behind⟩ := taken
      simp only [Option.map_some, Option.bind_some]
      cases assign value path before with
      | none => rfl
      | some entries =>
          simp only [Option.bind_some]
          rw [entryBehind?.eq_def]
          rfl

section Steps

variable {fuel : Nat}

/-- Values are read alike with one step of fuel more, if the lists and tables in them are. -/
theorem value?_step
    (listAlike : ReadsAlikeAt listItems? fuel)
    (tableAlike : ∀ before, ReadsAlikeAt (entriesBehind? before) fuel) :
    ReadsAlikeAt value? (fuel + 1) := by
  intro text other rest item same taken
  by_cases list : text.head? = some '['
  · obtain ⟨behind, rfl⟩ := List.head?_eq_some_iff.mp list
    obtain ⟨otherBehind, rfl, sameBehind⟩ := same.exists_cons (by decide)
    rw [value?_list] at taken
    obtain ⟨⟨items, left⟩, isTaken, ⟨⟩⟩ := Option.map_eq_some_iff.mp taken
    obtain ⟨otherRest, sameRest, shorter, otherTaken⟩ := listAlike sameBehind isTaken
    refine .intro sameRest (Nat.lt_succ_of_lt shorter) fun otherFuel enough => ?_
    rw [List.length_cons] at enough
    rw [value?_list, otherTaken otherFuel (by omega)]
    rfl
  · by_cases table : text.head? = some '\x7b'
    · obtain ⟨behind, rfl⟩ := List.head?_eq_some_iff.mp table
      obtain ⟨otherBehind, rfl, sameBehind⟩ := same.exists_cons (by decide)
      have sameEntries := sameBehind.dropWhile .gap
      have passed := List.length_dropWhile_le isGap otherBehind
      by_cases closes : (behind.dropWhile isGap).head? = some '\x7d'
      · obtain ⟨left, isClosed⟩ := List.head?_eq_some_iff.mp closes
        rw [value?_noEntries isClosed] at taken
        cases taken
        rw [isClosed] at sameEntries
        obtain ⟨otherRest, otherClosed, sameRest⟩ := sameEntries.exists_cons (by decide)
        rw [otherClosed, List.length_cons] at passed
        refine .intro sameRest (by rw [List.length_cons]; omega) fun otherFuel _ => ?_
        exact value?_noEntries otherClosed
      · rw [value?_entries closes] at taken
        obtain ⟨⟨entries, left⟩, isTaken, ⟨⟩⟩ := Option.map_eq_some_iff.mp taken
        obtain ⟨otherRest, sameRest, shorter, otherTaken⟩ := tableAlike [] sameEntries isTaken
        refine .intro sameRest (by rw [List.length_cons]; omega) fun otherFuel enough => ?_
        rw [List.length_cons] at enough
        have takenFrom := otherTaken otherFuel (by omega)
        rw [entriesBehind?] at takenFrom
        rw [value?_entries (mt (sameEntries.head?_iff (by decide)).mpr closes), takenFrom]
        rfl
    · rw [value?_plain list table] at taken
      obtain ⟨otherRest, otherTaken, sameRest, shorter⟩ := plainValue?_readsAlike same taken
      refine .intro sameRest shorter fun otherFuel _ => ?_
      rw [value?_plain (mt (same.head?_iff (by decide)).mpr list)
        (mt (same.head?_iff (by decide)).mpr table)]
      exact otherTaken

/-- So are entries, if their values are. -/
theorem namedValue?_step (valueAlike : ReadsAlikeAt value? fuel) :
    ReadsAlikeAt namedValue? (fuel + 1) := by
  intro text other rest item same taken
  obtain ⟨path, behind, isName⟩ := exists_name_of_namedValue? taken
  obtain ⟨otherLeft, sameLeft, shorterLeft, otherName⟩ :=
    name?_readsAlikeAt text.length same isName
  obtain ⟨otherBehind, rfl, sameBehind⟩ := sameLeft.exists_cons (by decide)
  rw [namedValue?_eq isName] at taken
  obtain ⟨⟨value, left⟩, isTaken, ⟨⟩⟩ := Option.map_eq_some_iff.mp taken
  obtain ⟨otherRest, sameRest, shorter, otherTaken⟩ :=
    valueAlike (sameBehind.dropWhile .gap) isTaken
  have passed := List.length_dropWhile_le isGap otherBehind
  rw [List.length_cons] at shorterLeft
  refine .intro sameRest (by omega) fun otherFuel enough => ?_
  rw [namedValue?_eq (otherName other.length (Nat.le_add_right _ _)),
    otherTaken otherFuel (by omega)]
  rfl

/-- So are the items of a list, if values and the items behind are. -/
theorem listItems?_step
    (valueAlike : ReadsAlikeAt value? fuel) (listAlike : ReadsAlikeAt listItems? fuel) :
    ReadsAlikeAt listItems? (fuel + 1) := by
  intro text other rest item same taken
  cases passed : skipLines false text with
  | none =>
      rw [listItems?, passed] at taken
      contradiction
  | some front =>
      obtain ⟨otherFront, otherPassed, sameFront⟩ := same.skipLines passed
      have lengthFront := length_skipLines otherPassed
      by_cases closes : front.head? = some ']'
      · obtain ⟨left, rfl⟩ := List.head?_eq_some_iff.mp closes
        obtain ⟨otherLeft, rfl, sameLeft⟩ := sameFront.sameLines.exists_cons (by decide)
        rw [listItems?_close passed] at taken
        cases taken
        rw [List.length_cons] at lengthFront
        exact .intro sameLeft (by omega) fun otherFuel _ => listItems?_close otherPassed
      · have otherOpen := mt (sameFront.sameLines.head?_iff (by decide)).mpr closes
        rw [listItems?_item passed closes] at taken
        obtain ⟨⟨first, behind⟩, isItem, isTaken⟩ := Option.bind_eq_some_iff.mp taken
        obtain ⟨otherBehind, sameBehind, shorterBehind, otherItem⟩ :=
          valueAlike sameFront.sameLines isItem
        rw [itemsBehind?.eq_def] at isTaken
        split at isTaken
        · rename_i later isNext
          obtain ⟨_, otherNext, sameNext⟩ := sameBehind.skipLines isNext
          obtain ⟨otherLater, rfl, sameLater⟩ := sameNext.sameLines.exists_cons (by decide)
          obtain ⟨⟨items, left⟩, areTaken, ⟨⟩⟩ := Option.map_eq_some_iff.mp isTaken
          obtain ⟨otherRest, sameRest, shorter, otherTaken⟩ := listAlike sameLater areTaken
          have lengthNext := length_skipLines otherNext
          rw [List.length_cons] at lengthNext
          refine .intro sameRest (by omega) fun otherFuel enough => ?_
          rw [listItems?_item otherPassed otherOpen, otherItem otherFuel (by omega),
            Option.bind_some, itemsBehind?_next otherNext, otherTaken otherFuel (by omega)]
          rfl
        · rename_i later isLast
          obtain ⟨_, otherLast, sameLast⟩ := sameBehind.skipLines isLast
          obtain ⟨otherLater, rfl, sameLater⟩ := sameLast.sameLines.exists_cons (by decide)
          cases isTaken
          have lengthLast := length_skipLines otherLast
          rw [List.length_cons] at lengthLast
          refine .intro sameLater (by omega) fun otherFuel enough => ?_
          rw [listItems?_item otherPassed otherOpen, otherItem otherFuel (by omega),
            Option.bind_some, itemsBehind?_last otherLast]
        · contradiction

/--
The entries behind an opening brace are read alike with one step of fuel more, if
the values and the entries inside are: what is taken behind an entry is taken
behind it with more fuel, too.
-/
theorem entriesBehind?_step
    (valueAlike : ReadsAlikeAt namedValue? fuel)
    (tableAlike : ∀ before, ReadsAlikeAt (entriesBehind? before) fuel) (before : Entries) :
    ReadsAlikeAt (entriesBehind? before) (fuel + 1) := by
  intro text other rest item same taken
  rw [entriesBehind?_eq] at taken
  obtain ⟨⟨⟨path, value⟩, behind⟩, isEntry, assigned⟩ := Option.bind_eq_some_iff.mp taken
  obtain ⟨entries, isAssigned, isTaken⟩ := Option.bind_eq_some_iff.mp assigned
  obtain ⟨otherBehind, sameBehind, shorterBehind, otherEntry⟩ := valueAlike same isEntry
  have sameLater := sameBehind.dropWhile .gap
  have passed := List.length_dropWhile_le isGap otherBehind
  have goesOn :
      ∀ {otherFuel}, other.length ≤ otherFuel + otherBehind.length →
        entriesBehind? before (otherFuel + 1) other =
          entryBehind? otherFuel entries (otherBehind.dropWhile isGap) := by
    intro otherFuel enough
    rw [entriesBehind?_eq, otherEntry otherFuel enough, Option.bind_some, isAssigned,
      Option.bind_some]
  rw [entryBehind?.eq_def] at isTaken
  split at isTaken
  · rename_i later isNext
    dsimp only at isNext
    rw [isNext] at sameLater
    obtain ⟨otherLater, otherNext, sameNext⟩ := sameLater.exists_cons (by decide)
    obtain ⟨otherRest, sameRest, shorter, otherTaken⟩ := tableAlike entries sameNext isTaken
    rw [otherNext, List.length_cons] at passed
    refine .intro sameRest (by omega) fun otherFuel enough => ?_
    rw [goesOn (by omega), otherNext]
    exact otherTaken otherFuel (by omega)
  · rename_i later isLast
    dsimp only at isLast
    rw [isLast] at sameLater
    obtain ⟨otherLater, otherLast, sameRest⟩ := sameLater.exists_cons (by decide)
    cases isTaken
    rw [otherLast, List.length_cons] at passed
    refine .intro sameRest (by omega) fun otherFuel enough => ?_
    rw [goesOn (by omega), otherLast]
    rfl
  · contradiction

end Steps

/-- Values of every form are read alike, and so are all their parts. -/
theorem readsAlikeAt_values (fuel : Nat) :
    ReadsAlikeAt value? fuel ∧ ReadsAlikeAt listItems? fuel ∧
      (∀ before, ReadsAlikeAt (entriesBehind? before) fuel) ∧ ReadsAlikeAt namedValue? fuel := by
  induction fuel with
  | zero =>
      refine ⟨?_, ?_, fun before => ?_, ?_⟩ <;>
      · intro text other rest item same taken
        contradiction
  | succ fuel inductionHypothesis =>
      obtain ⟨valueAlike, listAlike, tableAlike, namedAlike⟩ := inductionHypothesis
      exact ⟨value?_step listAlike tableAlike, listItems?_step valueAlike listAlike,
        entriesBehind?_step namedAlike tableAlike, namedValue?_step valueAlike⟩

/-! ## Lines -/

/-- Headers of tables are read alike. -/
theorem header?_readsAlike : ReadsAlike header? := by
  intro text other rest path same taken
  rw [header?] at taken
  split at taken
  · rename_i found behind isName
    obtain ⟨left, isTaken, ⟨⟩⟩ := Option.map_eq_some_iff.mp taken
    obtain ⟨otherLeft, sameLeft, shorter, otherName⟩ := name?_readsAlikeAt text.length same isName
    obtain ⟨otherBehind, rfl, sameBehind⟩ := sameLeft.exists_cons (by decide)
    obtain ⟨otherRest, otherTaken, sameRest⟩ := sameBehind.endLine isTaken
    have lengthRest := length_endLine otherTaken
    rw [List.length_cons] at shorter
    refine ⟨otherRest, ?_, sameRest, by omega⟩
    rw [header?, otherName other.length (Nat.le_add_right _ _)]
    exact Option.map_eq_some_iff.mpr ⟨otherRest, otherTaken, rfl⟩
  · contradiction

/-- The lines from a header on, behind its bracket. -/
def linesFromHeader? (fuel : Nat) (entries : Entries) (behind : List Char) : Option Entries :=
  (header? behind).bind fun taken =>
    (openTable taken.1 entries).bind fun opened => lines? fuel taken.1 opened taken.2

/-- The lines from a setting on. -/
def linesFromSetting? (fuel : Nat) (table : List String) (entries : Entries) (front : List Char) :
    Option Entries :=
  (namedValue? (front.length + 1) front).bind fun taken =>
    (assignUnder taken.1.2 taken.1.1 table entries).bind fun assigned =>
      (endLine taken.2).bind fun rest => lines? fuel table assigned rest

section Lines

variable {fuel : Nat} {table : List String} {entries : Entries} {text behind front : List Char}

/-- Where nothing is left behind the lines that are skipped, the settings are complete. -/
theorem lines?_end (passed : skipLines false text = some []) :
    lines? (fuel + 1) table entries text = some entries := by
  rw [lines?, passed]

/-- A bracket opens the header of a table. -/
theorem lines?_header (passed : skipLines false text = some ('[' :: behind)) :
    lines? (fuel + 1) table entries text = linesFromHeader? fuel entries behind := by
  rw [lines?, passed, linesFromHeader?]
  split
  · contradiction
  · rename_i isFront
    cases isFront
  · rename_i isFront
    cases isFront
    cases header? behind with
    | none => rfl
    | some taken =>
        obtain ⟨path, rest⟩ := taken
        simp only [Option.bind_some]
        cases openTable path entries <;> rfl
  · rename_i noHeader isFront
    cases isFront
    exact absurd rfl (noHeader behind)

/-- Anything else that stands there is a setting. -/
theorem lines?_setting
    (passed : skipLines false text = some front) (notEmpty : front ≠ [])
    (noHeader : front.head? ≠ some '[') :
    lines? (fuel + 1) table entries text = linesFromSetting? fuel table entries front := by
  rw [lines?, passed, linesFromSetting?, namedValue?]
  split
  · contradiction
  · rename_i isFront
    cases isFront
    contradiction
  · rename_i isFront
    cases isFront
    contradiction
  · rename_i isFront
    cases isFront
    cases setting? (front.length + 1) front with
    | none => rfl
    | some taken =>
        obtain ⟨path, value, behind⟩ := taken
        simp only [Option.map_some, Option.bind_some]
        cases assignUnder value path table entries with
        | none => rfl
        | some assigned =>
            rw [Option.bind_some]
            cases endLine behind <;> rfl

end Lines

/-- What lines say with some fuel, all texts with the same lines say with fuel enough. -/
def LinesAlikeAt (fuel : Nat) : Prop :=
  ∀ {otherFuel : Nat} {table : List String} {entries result : Entries} {text other : List Char},
    SameLines text other → lines? fuel table entries text = some result →
      other.length < otherFuel → lines? otherFuel table entries other = some result

section FromFront

variable {fuel otherFuel : Nat} {table : List String} {entries result : Entries}
  {text other : List Char} (alike : LinesAlikeAt fuel) (same : SameLines text other)
  (enough : other.length ≤ otherFuel)

include alike same enough

/-- The lines from a header on are read alike in both texts. -/
theorem linesFromHeader?_alike (taken : linesFromHeader? fuel entries text = some result) :
    linesFromHeader? otherFuel entries other = some result := by
  rw [linesFromHeader?] at taken ⊢
  obtain ⟨⟨path, rest⟩, isHeader, opening⟩ := Option.bind_eq_some_iff.mp taken
  obtain ⟨opened, isOpened, isTaken⟩ := Option.bind_eq_some_iff.mp opening
  obtain ⟨otherRest, otherHeader, sameRest, shorter⟩ := header?_readsAlike same isHeader
  rw [otherHeader, Option.bind_some, isOpened, Option.bind_some]
  exact alike sameRest isTaken (Nat.lt_of_lt_of_le shorter enough)

/-- So are the lines from a setting on. -/
theorem linesFromSetting?_alike (taken : linesFromSetting? fuel table entries text = some result) :
    linesFromSetting? otherFuel table entries other = some result := by
  rw [linesFromSetting?] at taken ⊢
  obtain ⟨⟨⟨path, value⟩, left⟩, isSetting, assigning⟩ := Option.bind_eq_some_iff.mp taken
  obtain ⟨assigned, isAssigned, ending⟩ := Option.bind_eq_some_iff.mp assigning
  obtain ⟨rest, isEnded, isTaken⟩ := Option.bind_eq_some_iff.mp ending
  obtain ⟨_, _, _, namedAlike⟩ := readsAlikeAt_values (text.length + 1)
  obtain ⟨otherLeft, sameLeft, shorter, otherSetting⟩ := namedAlike same isSetting
  obtain ⟨otherRest, otherEnded, sameRest⟩ := sameLeft.endLine isEnded
  have lengthRest := length_endLine otherEnded
  rw [otherSetting _ (by omega), Option.bind_some, isAssigned, Option.bind_some, otherEnded,
    Option.bind_some]
  exact alike sameRest isTaken (by omega)

end FromFront

/-- Lines of settings are read alike with fuel for each character and for the end. -/
theorem lines?_alike (fuel : Nat) : LinesAlikeAt fuel := by
  induction fuel with
  | zero =>
      intro otherFuel table entries result text other same taken enough
      obtain ⟨less, rfl⟩ := Nat.exists_eq_add_one.mpr (Nat.zero_lt_of_lt enough)
      rw [lines?] at taken
      split at taken
      · rename_i isEmpty
        cases taken
        rw [List.isEmpty_iff.mp isEmpty] at same
        have passed : skipLines false [] = some [] := rfl
        obtain ⟨_, otherPassed, ⟨⟩⟩ := same.skipLines passed
        exact lines?_end otherPassed
      · contradiction
  | succ fuel inductionHypothesis =>
      intro otherFuel table entries result text other same taken enough
      obtain ⟨less, rfl⟩ := Nat.exists_eq_add_one.mpr (Nat.zero_lt_of_lt enough)
      cases passed : skipLines false text with
      | none =>
          rw [lines?, passed] at taken
          contradiction
      | some front =>
          obtain ⟨otherFront, otherPassed, sameFront⟩ := same.skipLines passed
          have lengthFront := length_skipLines otherPassed
          cases sameFront with
          | nothing =>
              rw [lines?_end passed] at taken
              cases taken
              exact lines?_end otherPassed
          | @inLine character behind otherBehind inLine sameBehind =>
              by_cases header : character = '['
              · subst header
                rw [lines?_header passed] at taken
                rw [lines?_header otherPassed]
                rw [List.length_cons] at lengthFront
                exact linesFromHeader?_alike inductionHypothesis sameBehind (by omega) taken
              · have noHeader : ∀ later, (character :: later).head? ≠ some '[' := by
                  simpa using header
                rw [lines?_setting passed (List.cons_ne_nil _ _) (noHeader _)] at taken
                rw [lines?_setting otherPassed (List.cons_ne_nil _ _) (noHeader _)]
                exact linesFromSetting?_alike inductionHypothesis (.inLine inLine sameBehind)
                  (by omega) taken

/-! ## Whole texts -/

/-- Where no byte order mark stands in front, none is dropped. -/
theorem dropMark_eq_self {text : List Char} (noMark : text.head? ≠ some '\uFEFF') :
    dropMark text = text := by
  rw [dropMark]
  rintro rest rfl
  exact noMark rfl

/-- A byte order mark is dropped from both texts alike. -/
theorem SameLines.dropMark {text other : List Char} (same : SameLines text other) :
    SameLines (dropMark text) (dropMark other) := by
  by_cases mark : text.head? = some '\uFEFF'
  · obtain ⟨behind, rfl⟩ := List.head?_eq_some_iff.mp mark
    obtain ⟨otherBehind, rfl, sameBehind⟩ := same.exists_cons (by decide)
    exact sameBehind
  · rw [dropMark_eq_self mark, dropMark_eq_self (mt (same.head?_iff (by decide)).mpr mark)]
    exact same

/-- What is read from settings is read from all with the same lines. -/
theorem read?_alike
    {text other : List Char} (same : SameLines text other) {entries : Entries}
    (isRead : read? text = some entries) : read? other = some entries :=
  lines?_alike _ same.dropMark isRead (Nat.lt_succ_self _)

/-- Settings mean the same however their line ends are written. -/
theorem read?_eq_of_sameLines {text other : List Char} (same : SameLines text other) :
    read? text = read? other :=
  Option.ext fun _ => ⟨read?_alike same, read?_alike same.symm⟩

end Tangle.Toml
