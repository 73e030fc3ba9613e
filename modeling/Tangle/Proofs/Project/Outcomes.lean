import Tangle.Project.Compile
import Tangle.Proofs.Tree.Locality

namespace Tangle

/-!
# What a selected block leaves

A project is a tree, a script and a list of diagnostics.  A selected block adds
to one of these three and leaves the other two as they were: its file, its
script, or one diagnostic behind all that were there.
-/

namespace Project

/-- A file is written under a path: it is found there afterwards, and all else stays. -/
structure AddsFile (path contents : String) (before after : Project) : Prop where
  written : before.tree.write path contents = .ok after.tree
  found : after.tree.fileAt? path = some contents
  startup : after.startup = before.startup
  diagnostics : after.diagnostics = before.diagnostics

/-- A script takes the place where there was none, and all else stays. -/
structure AddsScript (script : String) (before after : Project) : Prop where
  free : before.startup = none
  startup : after.startup = some script
  tree : after.tree = before.tree
  diagnostics : after.diagnostics = before.diagnostics

/-- A diagnostic stands behind those that were there, and all else stays. -/
structure AddsDiagnostic (diagnostic : Diagnostic) (before after : Project) : Prop where
  diagnostics : after.diagnostics = before.diagnostics ++ [diagnostic]
  tree : after.tree = before.tree
  startup : after.startup = before.startup

/-- A block is written under a path, or one error with this path tells why it cannot be. -/
inductive Writes (block : PlacedBlock) (fileId : Nat) (path : String) (before after : Project) :
    Prop
  | written : AddsFile path block.code.content before after → Writes block fileId path before after
  | failed (failure : WriteError) :
      before.tree.write path block.code.content = .error failure →
      AddsDiagnostic
        ⟨failure.message, some block.span, fileId, .error,
          ["while writing \x60" ++ path ++ "\x60"]⟩
        before after →
      Writes block fileId path before after

/--
A block is taken as the startup script: it becomes the script if there is none
and it is written in bash; one in another language is an error, and one behind
the script draws a warning.
-/
inductive TakesStartup (block : PlacedBlock) (fileId : Nat) (before after : Project) : Prop
  | first :
      block.code.language = some "bash" →
      AddsScript block.code.content before after →
      TakesStartup block fileId before after
  | otherLanguage :
      before.startup = none →
      block.code.language ≠ some "bash" →
      AddsDiagnostic
        ⟨"Startup blocks must be bash scripts", some block.span, fileId, .error,
          ["found language: " ++ block.code.language.getD "(none)"]⟩
        before after →
      TakesStartup block fileId before after
  | repeated (script : String) :
      before.startup = some script →
      AddsDiagnostic
        ⟨"Multiple startup blocks provided, using the first one", some block.span, fileId,
          .warning, []⟩
        before after →
      TakesStartup block fileId before after

/-- A report adds its diagnostic. -/
theorem report_adds (project : Project) (diagnostic : Diagnostic) :
    AddsDiagnostic diagnostic project (project.report diagnostic) :=
  ⟨rfl, rfl, rfl⟩

/-- A write that succeeds adds its file. -/
theorem addsFile_of_write
    {project : Project} {path contents : String} {tree : Tree}
    (success : project.tree.write path contents = .ok tree) :
    AddsFile path contents project { project with tree := tree } := by
  obtain ⟨target, safe, wrote⟩ := Tree.exists_path_of_write success
  exact ⟨success, Tree.fileAt?_of_writeAt safe wrote, rfl, rfl⟩

/-- A block that is to be a file is written, or its failure is reported. -/
theorem writeFile_writes
    (project : Project) (block : PlacedBlock) (fileId : Nat) (path : String) :
    Writes block fileId path project (project.writeFile block fileId path) := by
  rw [writeFile]
  cases outcome : project.tree.write path block.code.content with
  | ok tree =>
      exact .written (addsFile_of_write outcome)
  | error failure =>
      exact .failed failure outcome (project.report_adds _)

/-- A block that is to be the startup script has one of the three outcomes. -/
theorem takeStartup_takes (project : Project) (block : PlacedBlock) (fileId : Nat) :
    TakesStartup block fileId project (project.takeStartup block fileId) := by
  rw [takeStartup]
  cases taken : project.startup with
  | some script =>
      exact .repeated script taken (project.report_adds _)
  | none =>
      by_cases language : block.code.language = some startupLanguage
      · simp only [language, if_true]
        exact .first language ⟨taken, rfl, rfl, rfl⟩
      · simp only [language, if_false]
        exact .otherLanguage taken language (project.report_adds _)

end Project

end Tangle
