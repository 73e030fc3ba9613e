import Tangle.Document
import Tangle.Text.Blank

namespace Tangle

/-!
# Targets of code blocks

The first word of the details of the form `file://…` or `rmsm://…` says what
becomes of a code block: a file at the path given there, or something done by a
reserved directive.  A block without such a word becomes a file that still
needs a name.
-/

/-- The reserved directives. -/
inductive Directive where
  /-- The block is the startup script of the project. -/
  | startup
  deriving Repr, DecidableEq

/-- What a code block turns into. -/
inductive Target where
  | file (path : Option String)
  | directive (directive : Directive)
  deriving Repr, DecidableEq

/-- A value behind `rmsm://` that is no directive. -/
structure UnknownDirective where
  value : String
  deriving Repr, DecidableEq

namespace UnknownDirective

/-- The wording of an unknown directive. -/
def message (unknown : UnknownDirective) : String :=
  "Invalid rmsm protocol value: " ++ unknown.value

end UnknownDirective

namespace Directive

/-- The word by which a directive is written. -/
def name : Directive → String
  | .startup => "startup"

/-- The directive that a word stands for. -/
def ofName (value : String) : Except UnknownDirective Directive :=
  if value = "startup" then .ok .startup else .error ⟨value⟩

end Directive

/-- A protocol word: its scheme is `file` or `rmsm`, and its value is not empty. -/
inductive ProtocolWord where
  | file (value : String)
  | rmsm (value : String)
  deriving Repr, DecidableEq

namespace ProtocolWord

/-- The rest of the word behind a scheme at the front of a text, if there is a rest. -/
def valueAfter? (scheme text : List Char) : Option String :=
  if scheme.isPrefixOf text then
    let value := (text.drop scheme.length).takeWhile (fun character => !Text.isBlank character)
    if value.isEmpty then none else some (String.ofList value)
  else
    none

/-- The scheme of a word that names a file. -/
def fileScheme : List Char := ['f', 'i', 'l', 'e', ':', '/', '/']

/-- The scheme of a word that names a directive. -/
def directiveScheme : List Char := ['r', 'm', 's', 'm', ':', '/', '/']

/-- The protocol word at the front of a text. -/
def inFront? (text : List Char) : Option ProtocolWord :=
  match valueAfter? fileScheme text with
  | some value => some (.file value)
  | none => (valueAfter? directiveScheme text).map ProtocolWord.rmsm

/-- What a protocol word makes of its block. -/
def target : ProtocolWord → Except UnknownDirective Target
  | .file value => .ok (.file (some value))
  | .rmsm value => (Directive.ofName value).map Target.directive

end ProtocolWord

namespace Target

/-- The target that the details of a block ask for. -/
def ofDetails : Option String → Except UnknownDirective Target
  | none => .ok (.file none)
  | some details =>
      match Text.firstAtWord? ProtocolWord.inFront? true details.toList with
      | none => .ok (.file none)
      | some word => word.target

end Target

end Tangle
