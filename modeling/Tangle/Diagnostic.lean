import Tangle.Document

namespace Tangle

/-!
# Diagnostics

What went wrong while a document was compiled, without stopping it.
-/

/-- How grave a diagnostic is. -/
inductive Severity where
  | error
  | warning
  deriving Repr, DecidableEq

/-- A message about a document, at a place in its text where there is one. -/
structure Diagnostic where
  message : String
  span : Option Span
  fileId : Nat
  severity : Severity
  notes : List String
  deriving Repr, DecidableEq

namespace Severity

/-- The word for a severity. -/
def name : Severity → String
  | .error => "error"
  | .warning => "warning"

end Severity

/-- A marked range in a document, as a report shows it. -/
structure ReportLabel where
  fileId : Nat
  range : Span
  deriving Repr, DecidableEq

/-- A diagnostic laid out for display. -/
structure Report where
  severity : Severity
  message : String
  labels : List ReportLabel
  notes : List String
  deriving Repr, DecidableEq

namespace Diagnostic

/-- The report of a diagnostic: its place is marked if it has one. -/
def report (diagnostic : Diagnostic) : Report where
  severity := diagnostic.severity
  message := diagnostic.message
  labels := (diagnostic.span.map (fun span => ⟨diagnostic.fileId, span⟩)).toList
  notes := diagnostic.notes

/-- The first line of the report of a diagnostic. -/
def headline (diagnostic : Diagnostic) : String :=
  diagnostic.severity.name ++ ": " ++ diagnostic.message

end Diagnostic

end Tangle
