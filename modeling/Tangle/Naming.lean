import Tangle.Identifier
import Tangle.Outline

namespace Tangle

/-!
# Names for code blocks without a path

A block that names no file takes a name from where it stands.  A heading that
ends in the extension of the language is such a name as it is; otherwise the
identifier of the block, or the slug of the heading with a count, or a count
alone serve as the stem.  Counts start at one in every document: one for each
heading, and one for all blocks that have no heading to count under.
-/

/-- The counts from which names are made while the blocks of a document are gone through. -/
structure Naming where
  nextOrphan : Nat
  counts : Nat → Nat

namespace Naming

/-- The counts at the start of a document. -/
def start : Naming :=
  ⟨1, fun _ => 0⟩

/-- A stem with the language as its extension, if there is one. -/
def withExtension (stem : String) (language : Option String) : String :=
  match language with
  | none => stem
  | some language => stem ++ "." ++ language

/-- Whether a text ends in a dot and the language. -/
def endsInExtension (text language : String) : Bool :=
  ('.' :: language.toList).isSuffixOf text.toList

/-- The text of a heading that is itself a file name for the language. -/
def verbatim? (heading : Heading) (language : Option String) : Option String :=
  match heading.text, language with
  | some text, some language => if endsInExtension text language then some text else none
  | _, _ => none

/-- A name for a block that has no heading to count under. -/
def orphan (naming : Naming) (language : Option String) : String × Naming :=
  (withExtension (toString naming.nextOrphan) language,
    { naming with nextOrphan := naming.nextOrphan + 1 })

/-- A name counted under the heading at a position. -/
def numbered
    (naming : Naming) (position : Nat) (slug : String) (language : Option String) :
    String × Naming :=
  let count := naming.counts position + 1
  (withExtension (slug ++ "-" ++ toString count) language,
    { naming with
      counts := fun other => if other = position then count else naming.counts other })

/-- The name of a block, and the counts after it. -/
def name (naming : Naming) (outline : Outline) (block : PlacedBlock) : String × Naming :=
  let language := block.code.language
  match outline.parent? block with
  | none =>
      match block.code.identifier? with
      | some identifier => (withExtension identifier language, naming)
      | none => naming.orphan language
  | some (position, heading) =>
      match verbatim? heading language with
      | some text => (text, naming)
      | none =>
          match block.code.identifier? with
          | some identifier => (withExtension identifier language, naming)
          | none =>
              match heading.identifier? with
              | some slug => naming.numbered position slug language
              | none => naming.orphan language

end Naming

end Tangle
