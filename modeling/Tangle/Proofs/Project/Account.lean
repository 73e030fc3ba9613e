import Tangle.Proofs.Outline.Scope
import Tangle.Proofs.Project.Listing

namespace Tangle

/-!
# The account of a compilation

Every selected block has exactly one effect on the project: it is written as a
file, it becomes the startup script, or it is reported.  Blocks that are not
selected have none.  The effects, in the order of their blocks, make up the
whole project, so nothing is lost and nothing is done twice.
-/

/-- What a selected block does to a project. -/
inductive Effect where
  | written (path contents : String)
  | startup (script : String)
  | reported (diagnostic : Diagnostic)
  deriving Repr, DecidableEq

namespace Effect

def file? : Effect → Option (String × String)
  | .written path contents => some (path, contents)
  | _ => none

def script? : Effect → Option String
  | .startup script => some script
  | _ => none

def diagnostic? : Effect → Option Diagnostic
  | .reported diagnostic => some diagnostic
  | _ => none

/--
A block has an effect on a compilation: the block resolves to a path under
which its contents are written without failure and are found afterwards; or it
resolves to the startup directive when there is no script yet, and becomes the
script; or all that happens is one diagnostic at the place of the block.
-/
def Explains
    (effect : Effect) (outline : Outline) (fileId : Nat) (block : PlacedBlock)
    (before after : Compilation) : Prop :=
  match effect with
  | .written path contents =>
      (before.naming.resolve outline block).1 = .file path ∧
        contents = block.code.content ∧
        before.project.AddsFile path contents after.project
  | .startup script =>
      (before.naming.resolve outline block).1 = .directive .startup ∧
        script = block.code.content ∧
        before.project.AddsScript script after.project
  | .reported diagnostic =>
      diagnostic.span = some block.span ∧
        diagnostic.fileId = fileId ∧
        before.project.AddsDiagnostic diagnostic after.project

/-- Each effect writes a file, gives a script or adds a diagnostic, and only one of these. -/
theorem length_parts (effects : List Effect) :
    (effects.filterMap diagnostic?).length + (effects.filterMap file?).length +
        (effects.filterMap script?).length =
      effects.length := by
  induction effects with
  | nil =>
      rfl
  | cons effect rest inductionHypothesis =>
      cases effect <;>
        simp only [List.filterMap_cons, diagnostic?, file?, script?, List.length_cons,
          ← inductionHypothesis] <;>
        omega

end Effect

namespace Effect.Explains

variable {outline : Outline} {fileId : Nat} {block : PlacedBlock} {before after : Compilation}

/-- An effect adds its file, its script and its diagnostic to a project, and nothing else. -/
theorem parts
    {effect : Effect} (explains : effect.Explains outline fileId block before after) :
    after.project.tree =
        WriteRun.final Tree.write before.project.tree effect.file?.toList ∧
      after.project.startup.toList = before.project.startup.toList ++ effect.script?.toList ∧
      after.project.diagnostics = before.project.diagnostics ++ effect.diagnostic?.toList := by
  cases effect with
  | written path contents =>
      obtain ⟨_, _, adds⟩ := explains
      have keptTree :
          WriteRun.final Tree.write before.project.tree [(path, contents)] =
            after.project.tree := by
        rw [WriteRun.final_singleton, adds.written]
        rfl
      rw [adds.startup, adds.diagnostics]
      exact ⟨keptTree.symm, (List.append_nil _).symm, (List.append_nil _).symm⟩
  | startup script =>
      obtain ⟨_, _, adds⟩ := explains
      rw [adds.tree, adds.startup, adds.diagnostics, adds.free]
      exact ⟨rfl, rfl, (List.append_nil _).symm⟩
  | reported diagnostic =>
      obtain ⟨_, _, adds⟩ := explains
      rw [adds.tree, adds.startup, adds.diagnostics]
      exact ⟨rfl, (List.append_nil _).symm, rfl⟩

/--
A block has at most one effect: only a report makes the diagnostics grow, and a
file and a script differ in what the block resolves to.
-/
theorem unique
    {first second : Effect}
    (firstExplains : first.Explains outline fileId block before after)
    (secondExplains : second.Explains outline fileId block before after) :
    first = second := by
  have sameDiagnostic : first.diagnostic? = second.diagnostic? := by
    have bothAdded := firstExplains.parts.2.2.symm.trans secondExplains.parts.2.2
    have sameHead := congrArg List.head? (List.append_cancel_left bothAdded)
    simpa only [Option.head?_toList] using sameHead
  cases first with
  | written path contents =>
      obtain ⟨resolved, rfl, _⟩ := firstExplains
      cases second with
      | written otherPath otherContents =>
          obtain ⟨otherResolved, rfl, _⟩ := secondExplains
          have samePath := resolved.symm.trans otherResolved
          injection samePath with samePath
          rw [samePath]
      | startup script =>
          have conflicting := resolved.symm.trans secondExplains.1
          contradiction
      | reported diagnostic =>
          contradiction
  | startup script =>
      obtain ⟨resolved, rfl, _⟩ := firstExplains
      cases second with
      | written path contents =>
          have conflicting := resolved.symm.trans secondExplains.1
          contradiction
      | startup otherScript =>
          rw [secondExplains.2.1]
      | reported diagnostic =>
          contradiction
  | reported diagnostic =>
      cases second with
      | written path contents =>
          contradiction
      | startup script =>
          contradiction
      | reported other =>
          injection sameDiagnostic with sameDiagnostic
          rw [sameDiagnostic]

end Effect.Explains

namespace Compilation

/-- Carrying out the target of a block has one of the effects. -/
theorem exists_effect
    (state : Compilation) (outline : Outline) (fileId : Nat) (block : PlacedBlock) :
    ∃ effect : Effect,
      effect.Explains outline fileId block state (state.carryOut outline fileId block) := by
  have settled := state.carryOut_project outline fileId block
  have placed := state.naming.resolve_ne_unnamed outline block
  cases resolved : (state.naming.resolve outline block).1 with
  | unnamed =>
      exact absurd resolved placed
  | unknown problem =>
      rw [resolved, Project.settle_unknown] at settled
      exact ⟨.reported _, rfl, rfl, settled ▸ state.project.report_adds _⟩
  | file path =>
      rw [resolved, Project.settle_file] at settled
      cases settled ▸ state.project.writeFile_writes block fileId path with
      | written adds =>
          exact ⟨.written path block.code.content, resolved, rfl, adds⟩
      | failed failure refused adds =>
          exact ⟨.reported _, rfl, rfl, adds⟩
  | directive reserved =>
      cases reserved
      rw [resolved, Project.settle_startup] at settled
      cases settled ▸ state.project.takeStartup_takes block fileId with
      | first isScript adds =>
          exact ⟨.startup block.code.content, resolved, rfl, adds⟩
      | otherLanguage free noScript adds =>
          exact ⟨.reported _, rfl, rfl, adds⟩
      | repeated script taken adds =>
          exact ⟨.reported _, rfl, rfl, adds⟩

end Compilation

/--
An account of compiling blocks from some state on: which effects they have, in
the order of the blocks.  A block that is not selected leaves the state as it is.
-/
inductive Account (outline : Outline) (requested : List String) (fileId : Nat) :
    Compilation → List PlacedBlock → List Effect → Prop where
  | finished (state : Compilation) :
      Account outline requested fileId state [] []
  | skipped {state : Compilation} {block : PlacedBlock} {rest : List PlacedBlock}
      {effects : List Effect} :
      outline.selects requested block = false →
      Compilation.step outline requested fileId state block = state →
      Account outline requested fileId state rest effects →
      Account outline requested fileId state (block :: rest) effects
  | settled {state : Compilation} {block : PlacedBlock} {rest : List PlacedBlock}
      {effect : Effect} {effects : List Effect} :
      outline.selects requested block = true →
      effect.Explains outline fileId block state
        (Compilation.step outline requested fileId state block) →
      Account outline requested fileId
        (Compilation.step outline requested fileId state block) rest effects →
      Account outline requested fileId state (block :: rest) (effect :: effects)

namespace Account

variable {outline : Outline} {requested : List String} {fileId : Nat}
variable {state : Compilation} {blocks : List PlacedBlock} {effects : List Effect}

/-- There is an account of compiling any blocks from any state on. -/
theorem exists_account
    (outline : Outline) (requested : List String) (fileId : Nat)
    (state : Compilation) (blocks : List PlacedBlock) :
    ∃ effects, Account outline requested fileId state blocks effects := by
  induction blocks generalizing state with
  | nil =>
      exact ⟨[], .finished state⟩
  | cons block rest inductionHypothesis =>
      cases selected : outline.selects requested block with
      | false =>
          have unchanged : Compilation.step outline requested fileId state block = state := by
            simp [Compilation.step, selected]
          obtain ⟨effects, later⟩ := inductionHypothesis state
          exact ⟨effects, .skipped selected unchanged later⟩
      | true =>
          have carriedOut :
              Compilation.step outline requested fileId state block =
                state.carryOut outline fileId block := by
            rw [Compilation.step, if_pos selected]
          obtain ⟨effect, explains⟩ := state.exists_effect outline fileId block
          rw [← carriedOut] at explains
          obtain ⟨effects, later⟩ :=
            inductionHypothesis (Compilation.step outline requested fileId state block)
          exact ⟨effect :: effects, .settled selected explains later⟩

/-- There are no two accounts of compiling the same blocks from the same state on. -/
theorem unique
    {others : List Effect}
    (account : Account outline requested fileId state blocks effects)
    (other : Account outline requested fileId state blocks others) :
    effects = others := by
  induction account generalizing others with
  | finished state =>
      cases other
      rfl
  | skipped notSelected _ _ inductionHypothesis =>
      cases other with
      | skipped _ _ later =>
          exact inductionHypothesis later
      | settled selected _ _ =>
          rw [notSelected] at selected
          contradiction
  | settled selected explains _ inductionHypothesis =>
      cases other with
      | skipped notSelected _ _ =>
          rw [notSelected] at selected
          contradiction
      | settled _ otherExplains later =>
          rw [explains.unique otherExplains, inductionHypothesis later]

/-- There is one effect for each selected block. -/
theorem length_eq (account : Account outline requested fileId state blocks effects) :
    effects.length = (blocks.filter (outline.selects requested)).length := by
  induction account with
  | finished state =>
      rfl
  | skipped notSelected _ _ inductionHypothesis =>
      rw [List.filter_cons_of_neg (by simp [notSelected]), inductionHypothesis]
  | settled selected _ _ inductionHypothesis =>
      rw [List.filter_cons_of_pos selected, List.length_cons, List.length_cons,
        inductionHypothesis]

/-- The files, the scripts and the diagnostics of the effects are all that compiling adds. -/
theorem parts (account : Account outline requested fileId state blocks effects) :
    (state.run outline requested fileId blocks).project.tree =
        WriteRun.final Tree.write state.project.tree (effects.filterMap Effect.file?) ∧
      (state.run outline requested fileId blocks).project.startup.toList =
        state.project.startup.toList ++ effects.filterMap Effect.script? ∧
      (state.run outline requested fileId blocks).project.diagnostics =
        state.project.diagnostics ++ effects.filterMap Effect.diagnostic? := by
  induction account with
  | finished state =>
      exact ⟨rfl, (List.append_nil _).symm, (List.append_nil _).symm⟩
  | skipped _ unchanged _ inductionHypothesis =>
      rw [Compilation.run_cons, unchanged]
      exact inductionHypothesis
  | settled _ explains _ inductionHypothesis =>
      obtain ⟨tree, scripts, diagnostics⟩ := inductionHypothesis
      obtain ⟨firstTree, firstScripts, firstDiagnostics⟩ := explains.parts
      simp only [List.filterMap_eq_flatMap_toList, List.flatMap_cons] at tree scripts diagnostics ⊢
      rw [Compilation.run_cons, tree, scripts, diagnostics, firstTree, firstScripts,
        firstDiagnostics, WriteRun.final_append, List.append_assoc, List.append_assoc]
      exact ⟨rfl, rfl, rfl⟩

/-- Each diagnostic among the effects is about a selected block, and they stand in its order. -/
theorem spans_sublist (account : Account outline requested fileId state blocks effects) :
    ((effects.filterMap Effect.diagnostic?).map Diagnostic.span).Sublist
      ((blocks.filter (outline.selects requested)).map (some ·.span)) := by
  induction account with
  | finished state =>
      exact .slnil
  | skipped notSelected _ _ inductionHypothesis =>
      rw [List.filter_cons_of_neg (by simp [notSelected])]
      exact inductionHypothesis
  | @settled _ _ _ effect _ selected explains _ inductionHypothesis =>
      rw [List.filter_cons_of_pos selected]
      cases effect with
      | written path contents =>
          exact .cons _ inductionHypothesis
      | startup script =>
          exact .cons _ inductionHypothesis
      | reported diagnostic =>
          rw [List.map_cons, ← explains.1]
          exact .cons_cons _ inductionHypothesis

/-- Each diagnostic bears the number of the document. -/
theorem fileId_eq
    (account : Account outline requested fileId state blocks effects)
    {diagnostic : Diagnostic} (member : Effect.reported diagnostic ∈ effects) :
    diagnostic.fileId = fileId := by
  induction account with
  | finished state =>
      contradiction
  | skipped _ _ _ inductionHypothesis =>
      exact inductionHypothesis member
  | settled _ explains _ inductionHypothesis =>
      obtain rfl | later := List.mem_cons.mp member
      · exact explains.2.1
      · exact inductionHypothesis later

end Account

/-- The blocks of a document that are selected, in its order. -/
def Document.selectedBlocks (document : Document) (requested : List String) : List PlacedBlock :=
  (Outline.ofDocument document).blocks.filter ((Outline.ofDocument document).selects requested)

/--
Every selected block of a document is accounted for exactly once.  The blocks
are those of the document in its order.  There is one account of compiling
them, with one effect for each selected block; the files written, the script
and the diagnostics of these effects are all there is in the project, so their
numbers add up; and the diagnostics stand in the order of their blocks.
-/
theorem Document.compile_accounts_for_selected
    (document : Document) (requested : List String) (fileId : Nat) :
    (Outline.ofDocument document).blocks.map (fun block => (block.code, block.span)) =
        document.nodes.filterMap Node.placedCode? ∧
      ∃ effects,
        (∀ others,
          Account (Outline.ofDocument document) requested fileId .start
              (Outline.ofDocument document).blocks others ↔
            others = effects) ∧
        effects.length = (document.selectedBlocks requested).length ∧
        (document.compile requested fileId).tree =
          Tree.ofWrites (effects.filterMap Effect.file?) ∧
        (document.compile requested fileId).startup.toList =
          effects.filterMap Effect.script? ∧
        (document.compile requested fileId).diagnostics =
          effects.filterMap Effect.diagnostic? ∧
        (∀ diagnostic ∈ (document.compile requested fileId).diagnostics,
          diagnostic.fileId = fileId) ∧
        ((document.compile requested fileId).diagnostics.map Diagnostic.span).Sublist
          ((document.selectedBlocks requested).map (some ·.span)) ∧
        (document.compile requested fileId).diagnostics.length +
            (effects.filterMap Effect.file?).length +
            (if (document.compile requested fileId).startup.isSome then 1 else 0) =
          (document.selectedBlocks requested).length := by
  obtain ⟨effects, account⟩ :=
    Account.exists_account (Outline.ofDocument document) requested fileId .start
      (Outline.ofDocument document).blocks
  obtain ⟨tree, scripts, diagnostics⟩ := account.parts
  have sameScripts :
      (document.compile requested fileId).startup.toList = effects.filterMap Effect.script? :=
    scripts
  have sameDiagnostics :
      (document.compile requested fileId).diagnostics = effects.filterMap Effect.diagnostic? :=
    diagnostics
  have onlyAccount :
      ∀ others,
        Account (Outline.ofDocument document) requested fileId .start
            (Outline.ofDocument document).blocks others ↔
          others = effects := by
    intro others
    constructor
    · intro other
      exact other.unique account
    · intro same
      rw [same]
      exact account
  refine ⟨Outline.walk_blocks 0 [] document.nodes, effects, onlyAccount, account.length_eq,
    tree, scripts, diagnostics, ?_, ?_, ?_⟩
  · intro diagnostic member
    rw [sameDiagnostics] at member
    obtain ⟨effect, among, reports⟩ := List.mem_filterMap.mp member
    cases effect with
    | reported other =>
        injection reports with same
        rw [← same]
        exact account.fileId_eq among
    | _ =>
        contradiction
  · rw [sameDiagnostics]
    exact account.spans_sublist
  · have oneScript :
        (if (document.compile requested fileId).startup.isSome then 1 else 0) =
          (effects.filterMap Effect.script?).length := by
      rw [← sameScripts]
      cases (document.compile requested fileId).startup <;> rfl
    rw [oneScript, sameDiagnostics, Effect.length_parts]
    exact account.length_eq

end Tangle
