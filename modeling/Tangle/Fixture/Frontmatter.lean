import Tangle.Text.Blank

namespace Tangle

/-!
# Frontmatter

A fixture starts with settings between two lines of hyphens, and the document
under test follows.  Splitting the two apart does not look into the settings;
decoding these may fail afterwards.
-/

/-- Why a fixture has no frontmatter. -/
inductive FrontmatterError where
  | noOpening
  | noClosing
  | settings
  deriving Repr, DecidableEq

namespace FrontmatterError

/-- The wording of a fault in the frontmatter. -/
def message : FrontmatterError → String
  | .noOpening => "missing opening --- frontmatter delimiter"
  | .noClosing => "missing closing --- frontmatter delimiter"
  | .settings => "TOML parse error:"

end FrontmatterError

/-- The settings of a fixture and the document behind them, both as they are written. -/
structure Frontmatter where
  settings : List Char
  document : List Char
  deriving Repr, DecidableEq

namespace Frontmatter

/-- What stands before the first closing delimiter, and what stands behind it. -/
def splitAtClosing? : List Char → Option (List Char × List Char)
  | [] => none
  | '\n' :: '-' :: '-' :: '-' :: rest => some ([], rest)
  | character :: rest =>
      (splitAtClosing? rest).map (fun (before, behind) => (character :: before, behind))

/-- Whether a character is a byte order mark. -/
def isMark (character : Char) : Bool :=
  character == '\uFEFF'

/-- Split a fixture. -/
def split (text : List Char) : Except FrontmatterError Frontmatter :=
  match text.dropWhile isMark with
  | '-' :: '-' :: '-' :: rest =>
      match splitAtClosing? (Text.dropLineEnd rest) with
      | none => .error .noClosing
      | some (settings, behind) =>
          .ok ⟨Text.dropEndWhile (· == '\r') settings, Text.dropLineEnd behind⟩
  | _ => .error .noOpening

/-- Split a fixture and decode its settings. -/
def decodeWith {Settings : Type} (decode : List Char → Option Settings) (text : List Char) :
    Except FrontmatterError (Settings × List Char) :=
  match split text with
  | .error error => .error error
  | .ok front =>
      match decode front.settings with
      | none => .error .settings
      | some settings => .ok (settings, front.document)

end Frontmatter

end Tangle
