import Tangle.Proofs.Project.Pruning
import Tangle.Proofs.Project.Account
import Tangle.Proofs.Project.Union

namespace Tangle

/-!
# Which block becomes the startup script

While the blocks of a document are gone through there is either no script yet or
there is one.  Without one, a startup block in the language of scripts becomes
it, and one in another language is an error that leaves the place free.  With
one, every further startup block draws a warning, whatever its language.  Other
blocks neither give a script nor report anything in the words of these two.
-/

namespace PlacedBlock

/-- Whether a block is to be the startup script of its project. -/
def isStartup (block : PlacedBlock) : Bool :=
  match Target.ofDetails block.code.details with
  | .ok (.directive .startup) => true
  | _ => false

/-- Whether a block is written in the language of startup scripts. -/
def isScript (block : PlacedBlock) : Bool :=
  block.code.language == some startupLanguage

end PlacedBlock

namespace Diagnostic

/-- The error about a startup block in another language than that of scripts. -/
def wrongLanguage (fileId : Nat) (block : PlacedBlock) : Diagnostic :=
  ⟨"Startup blocks must be bash scripts", some block.span, fileId, .error,
    ["found language: " ++ block.code.language.getD "(none)"]⟩

/-- The warning about a startup block behind the one that became the script. -/
def repeatedStartup (fileId : Nat) (block : PlacedBlock) : Diagnostic :=
  ⟨"Multiple startup blocks provided, using the first one", some block.span, fileId, .warning, []⟩

/-- Whether a diagnostic has one of the two messages about startup blocks. -/
def isAboutStartup (diagnostic : Diagnostic) : Bool :=
  diagnostic.message == "Startup blocks must be bash scripts" ||
    diagnostic.message == "Multiple startup blocks provided, using the first one"

/-- The diagnostics about startup blocks that are met in order while there is no script. -/
def aboutStartup (fileId : Nat) (blocks : List PlacedBlock) : List Diagnostic :=
  (blocks.takeWhile (!·.isScript)).map (wrongLanguage fileId) ++
    (blocks.dropWhile (!·.isScript)).tail.map (repeatedStartup fileId)

/-- The warning about a language is about startup. -/
@[simp] theorem isAboutStartup_wrongLanguage (fileId : Nat) (block : PlacedBlock) :
    (wrongLanguage fileId block).isAboutStartup = true := by
  simp [isAboutStartup, wrongLanguage]

/-- So is the warning about a script that is there already. -/
@[simp] theorem isAboutStartup_repeatedStartup (fileId : Nat) (block : PlacedBlock) :
    (repeatedStartup fileId block).isAboutStartup = true := by
  simp [isAboutStartup, repeatedStartup]

/-- A message that starts or ends in other letters is not one about startup blocks. -/
theorem isAboutStartup_eq_false
    {message : String}
    (other :
      message.toList.head? = some 'I' ∨ message.toList.reverse.take 2 = ['e', 'l'] ∨
        message.toList.getLast? = some 'y')
    (span : Option Span) (fileId : Nat) (severity : Severity) (notes : List String) :
    isAboutStartup ⟨message, span, fileId, severity, notes⟩ = false := by
  rw [isAboutStartup, Bool.or_eq_false_iff, beq_eq_false_iff_ne, beq_eq_false_iff_ne]
  constructor
  · rintro rfl
    revert other
    decide
  · rintro rfl
    revert other
    decide

/-- What a failed write is reported with is not about startup blocks. -/
theorem isAboutStartup_writeError
    (failure : WriteError) (span : Option Span) (fileId : Nat) (severity : Severity)
    (notes : List String) :
    isAboutStartup ⟨failure.message, span, fileId, severity, notes⟩ = false := by
  apply isAboutStartup_eq_false
  cases failure with
  | invalidPath =>
      exact Or.inl (by simp [WriteError.message])
  | fileInTheWay names =>
      exact Or.inr (Or.inl (by simp [WriteError.message, String.toList_append]))
  | directoryInTheWay names =>
      exact Or.inr (Or.inr (by simp [WriteError.message, String.toList_append]))

/-- What an unknown directive is reported with is not about startup blocks. -/
theorem isAboutStartup_unknown
    (unknown : UnknownDirective) (span : Option Span) (fileId : Nat) (severity : Severity)
    (notes : List String) :
    isAboutStartup ⟨unknown.message, span, fileId, severity, notes⟩ = false := by
  have wording : unknown.message = "Invalid rmsm protocol value: " ++ unknown.value := rfl
  have firstLetter : "Invalid rmsm protocol value: ".toList.head? = some 'I' := by decide
  have start : unknown.message.toList.head? = some 'I' := by
    rw [wording, String.toList_append, List.head?_append, firstLetter, Option.some_or]
  exact isAboutStartup_eq_false (Or.inl start) span fileId severity notes

end Diagnostic

namespace Project

/-- The diagnostics of a project that are about startup blocks. -/
def startupDiagnostics (project : Project) : List Diagnostic :=
  project.diagnostics.filter Diagnostic.isAboutStartup

/-- A report adds to the diagnostics about startup what is about startup in it. -/
theorem startupDiagnostics_report (project : Project) (diagnostic : Diagnostic) :
    (project.report diagnostic).startupDiagnostics =
      project.startupDiagnostics ++ [diagnostic].filter Diagnostic.isAboutStartup :=
  List.filter_append ..

/-- A startup block in the right language becomes the script where there is none. -/
theorem takeStartup_first
    {project : Project} (noScript : project.startup = none) {block : PlacedBlock}
    (script : block.isScript = true) (fileId : Nat) :
    project.takeStartup block fileId = { project with startup := some block.code.content } := by
  have language : block.code.language = some startupLanguage := by
    simpa [PlacedBlock.isScript] using script
  rw [takeStartup, noScript]
  exact if_pos language

/-- A startup block in another language is reported as an error where there is no script. -/
theorem takeStartup_wrongLanguage
    {project : Project} (noScript : project.startup = none) {block : PlacedBlock}
    (noScriptBlock : block.isScript = false) (fileId : Nat) :
    project.takeStartup block fileId = project.report (.wrongLanguage fileId block) := by
  have language : block.code.language ≠ some startupLanguage := by
    simpa [PlacedBlock.isScript] using noScriptBlock
  rw [takeStartup, noScript]
  exact if_neg language

/-- Any startup block is reported by a warning where there is a script. -/
theorem takeStartup_repeated
    {project : Project} {script : String} (taken : project.startup = some script)
    (block : PlacedBlock) (fileId : Nat) :
    project.takeStartup block fileId = project.report (.repeatedStartup fileId block) := by
  rw [takeStartup, taken]
  rfl

/-- Writing a file leaves the script, and all it may report is not about startup blocks. -/
theorem writeFile_startup
    (project : Project) (block : PlacedBlock) (fileId : Nat) (path : String) :
    (project.writeFile block fileId path).startup = project.startup ∧
      (project.writeFile block fileId path).startupDiagnostics = project.startupDiagnostics := by
  rw [writeFile]
  cases project.tree.write path block.code.content with
  | ok tree =>
      exact ⟨rfl, rfl⟩
  | error failure =>
      refine ⟨rfl, ?_⟩
      rw [startupDiagnostics_report, List.filter_cons_of_neg, List.filter_nil, List.append_nil]
      rw [Diagnostic.isAboutStartup_writeError]
      exact Bool.false_ne_true

end Project

namespace Compilation

/-- Carry out the targets of selected blocks in order. -/
def carryOutAll
    (state : Compilation) (outline : Outline) (fileId : Nat) (blocks : List PlacedBlock) :
    Compilation :=
  blocks.foldl (fun before block => before.carryOut outline fileId block) state

variable (state : Compilation) (outline : Outline) (fileId : Nat)

/-- The first block is carried out before the others. -/
theorem carryOutAll_cons (block : PlacedBlock) (rest : List PlacedBlock) :
    state.carryOutAll outline fileId (block :: rest) =
      (state.carryOut outline fileId block).carryOutAll outline fileId rest :=
  rfl

/-- A startup block is taken as the startup script, and no other block is. -/
theorem carryOut_startup {block : PlacedBlock} (isStartup : block.isStartup = true) :
    (state.carryOut outline fileId block).project = state.project.takeStartup block fileId := by
  rw [PlacedBlock.isStartup] at isStartup
  rw [carryOut]
  split at isStartup
  · rename_i target
    rw [target]
  · contradiction

/-- Any other block leaves the script, and all it may report is not about startup blocks. -/
theorem carryOut_noStartup {block : PlacedBlock} (noStartup : block.isStartup = false) :
    (state.carryOut outline fileId block).project.startup = state.project.startup ∧
      (state.carryOut outline fileId block).project.startupDiagnostics =
        state.project.startupDiagnostics := by
  have settled := state.carryOut_project outline fileId block
  rw [PlacedBlock.isStartup] at noStartup
  rw [Naming.resolve] at settled
  cases found : Target.ofDetails block.code.details with
  | error unknown =>
      rw [found, Project.settle_unknown] at settled
      rw [settled, Project.startupDiagnostics_report, List.filter_cons_of_neg, List.filter_nil,
        List.append_nil]
      · exact ⟨rfl, rfl⟩
      · rw [Diagnostic.isAboutStartup_unknown]
        exact Bool.false_ne_true
  | ok target =>
      rw [found] at settled noStartup
      cases target with
      | file path =>
          cases path with
          | some path =>
              rw [Project.settle_file] at settled
              rw [settled]
              exact state.project.writeFile_startup block fileId path
          | none =>
              rw [Project.settle_file] at settled
              rw [settled]
              exact state.project.writeFile_startup block fileId _
      | directive reserved =>
          cases reserved
          contradiction

/-- Once there is a script it stays, and every further startup block draws a warning. -/
theorem carryOutAll_taken
    {script : String} (taken : state.project.startup = some script) (blocks : List PlacedBlock) :
    (state.carryOutAll outline fileId blocks).project.startup = some script ∧
      (state.carryOutAll outline fileId blocks).project.startupDiagnostics =
        state.project.startupDiagnostics ++
          (blocks.filter PlacedBlock.isStartup).map (.repeatedStartup fileId) := by
  induction blocks generalizing state with
  | nil =>
      exact ⟨taken, (List.append_nil _).symm⟩
  | cons block rest inductionHypothesis =>
      rw [carryOutAll_cons]
      by_cases isStartup : block.isStartup = true
      · have warned :
            (state.carryOut outline fileId block).project =
              state.project.report (.repeatedStartup fileId block) :=
          (state.carryOut_startup outline fileId isStartup).trans
            (Project.takeStartup_repeated taken block fileId)
        have stillTaken :
            (state.carryOut outline fileId block).project.startup = some script := by
          rw [warned]
          exact taken
        obtain ⟨kept, later⟩ := inductionHypothesis _ stillTaken
        refine ⟨kept, ?_⟩
        rw [later, warned, Project.startupDiagnostics_report, List.filter_cons_of_pos isStartup,
          List.append_assoc]
        simp
      · have noStartup : block.isStartup = false := by simpa using isStartup
        obtain ⟨sameScript, sameDiagnostics⟩ :=
          state.carryOut_noStartup outline fileId noStartup
        obtain ⟨kept, later⟩ := inductionHypothesis _ (sameScript.trans taken)
        refine ⟨kept, ?_⟩
        rw [later, sameDiagnostics, List.filter_cons_of_neg isStartup]

/-- While there is no script, the first startup block in the right language becomes it. -/
theorem carryOutAll_open (noScript : state.project.startup = none) (blocks : List PlacedBlock) :
    (state.carryOutAll outline fileId blocks).project.startup =
        ((blocks.filter PlacedBlock.isStartup).find? PlacedBlock.isScript).map (·.code.content) ∧
      (state.carryOutAll outline fileId blocks).project.startupDiagnostics =
        state.project.startupDiagnostics ++
          Diagnostic.aboutStartup fileId (blocks.filter PlacedBlock.isStartup) := by
  induction blocks generalizing state with
  | nil =>
      exact ⟨noScript, (List.append_nil _).symm⟩
  | cons block rest inductionHypothesis =>
      rw [carryOutAll_cons]
      by_cases isStartup : block.isStartup = true
      · rw [List.filter_cons_of_pos isStartup]
        by_cases isScript : block.isScript = true
        · have became := Project.takeStartup_first noScript isScript fileId
          rw [← state.carryOut_startup outline fileId isStartup] at became
          obtain ⟨kept, later⟩ :=
            carryOutAll_taken _ outline fileId (congrArg Project.startup became) rest
          rw [kept, later, became, Diagnostic.aboutStartup]
          simp [isScript, Project.startupDiagnostics]
        · have otherLanguage : block.isScript = false := by simpa using isScript
          have refused := Project.takeStartup_wrongLanguage noScript otherLanguage fileId
          rw [← state.carryOut_startup outline fileId isStartup] at refused
          have stillOpen : (state.carryOut outline fileId block).project.startup = none := by
            rw [refused]
            exact noScript
          obtain ⟨script, later⟩ := inductionHypothesis _ stillOpen
          rw [script, later, refused, Project.startupDiagnostics_report, Diagnostic.aboutStartup,
            Diagnostic.aboutStartup, List.append_assoc]
          simp [otherLanguage]
      · have noStartup : block.isStartup = false := by simpa using isStartup
        obtain ⟨sameScript, sameDiagnostics⟩ :=
          state.carryOut_noStartup outline fileId noStartup
        obtain ⟨script, later⟩ := inductionHypothesis _ (sameScript.trans noScript)
        rw [script, later, sameDiagnostics, List.filter_cons_of_neg isStartup]
        exact ⟨rfl, rfl⟩

end Compilation

/-- The selected blocks of a document that are to be its startup script, in order. -/
def Document.startupBlocks (document : Document) (requested : List String) : List PlacedBlock :=
  (document.selectedBlocks requested).filter PlacedBlock.isStartup

/-- The scripts of the documents that have one, in the order of the documents. -/
def Project.scripts (documents : List Document) (requested : List String) : List String :=
  documents.zipIdx.filterMap fun numbered => (numbered.1.compile requested numbered.2).startup

/--
The script of a document is its first startup block in the right language, and
the others are warned about.
-/
theorem Document.startup_compile (document : Document) (requested : List String) (fileId : Nat) :
    (document.compile requested fileId).startup =
        ((document.startupBlocks requested).find? PlacedBlock.isScript).map (·.code.content) ∧
      (document.compile requested fileId).startupDiagnostics =
        Diagnostic.aboutStartup fileId (document.startupBlocks requested) := by
  have fromStart :=
    Compilation.start.carryOutAll_open (Outline.ofDocument document) fileId rfl
      (document.selectedBlocks requested)
  rw [compile, Compilation.run_eq_foldl_selected]
  exact fromStart

namespace Collection

/-- Each project that is added brings its script, if it has one. -/
theorem scripts_addAll (collection : Collection) (first : Nat) (projects : List Project) :
    (collection.addAll first projects).scripts =
      collection.scripts ++ projects.filterMap Project.startup := by
  induction projects generalizing collection first with
  | nil =>
      exact (List.append_nil _).symm
  | cons project rest inductionHypothesis =>
      rw [addAll, inductionHypothesis, add, List.filterMap_cons]
      cases project.startup <;> simp

/-- There is a script where there are some, and it is all of them with line feeds between. -/
theorem startup_eq_some_iff (collection : Collection) (script : String) :
    collection.startup = some script ↔
      collection.scripts ≠ [] ∧ script = String.intercalate "\n" collection.scripts := by
  rw [startup]
  cases collection.scripts with
  | nil =>
      simp
  | cons first rest =>
      simp [eq_comm]

end Collection

/--
Which block becomes the startup script.  Of the selected startup blocks of a
document the first one in the language of scripts becomes it; each one before
is reported as an error, each one behind it by a warning, and nothing else is
reported in their words.  Several documents have a script exactly when one of
them has, and then it is all their scripts in order with line feeds between.
-/
theorem Project.startup_selection (requested : List String) :
    (∀ (document : Document) (fileId : Nat),
      (document.compile requested fileId).startup =
          ((document.startupBlocks requested).find? PlacedBlock.isScript).map (·.code.content) ∧
        (document.compile requested fileId).startupDiagnostics =
          ((document.startupBlocks requested).takeWhile (!·.isScript)).map
              (Diagnostic.wrongLanguage fileId) ++
            ((document.startupBlocks requested).dropWhile (!·.isScript)).tail.map
              (Diagnostic.repeatedStartup fileId)) ∧
    ∀ documents : List Document,
      ((Project.ofDocuments documents requested).startup = none ↔
          ∀ (position : Nat) (document : Document), documents[position]? = some document →
            (document.compile requested position).startup = none) ∧
        ∀ script, (Project.ofDocuments documents requested).startup = some script ↔
          Project.scripts documents requested ≠ [] ∧
            script = String.intercalate "\n" (Project.scripts documents requested) := by
  refine ⟨fun document fileId => document.startup_compile requested fileId, ?_⟩
  intro documents
  have isScript :
      ∀ script, (Project.ofDocuments documents requested).startup = some script ↔
        Project.scripts documents requested ≠ [] ∧
          script = String.intercalate "\n" (Project.scripts documents requested) := by
    intro script
    have allScripts :=
      Collection.empty.scripts_addAll 0 (Project.compileEach requested 0 documents)
    rw [compileEach_eq_map_zipIdx, List.filterMap_map] at allScripts
    have united :=
      (Collection.empty.addAll 0 (Project.compileEach requested 0 documents)).startup_eq_some_iff
        script
    rw [compileEach_eq_map_zipIdx, allScripts] at united
    rw [Project.ofDocuments, compileEach_eq_map_zipIdx]
    exact united
  refine ⟨?_, isScript⟩
  have noScripts :
      (Project.ofDocuments documents requested).startup = none ↔
        Project.scripts documents requested = [] := by
    rw [Option.eq_none_iff_forall_not_mem]
    simp only [Option.mem_def, isScript]
    constructor
    · intro never
      apply Decidable.byContradiction
      intro some
      exact never _ ⟨some, rfl⟩
    · intro none script found
      exact found.1 none
  rw [noScripts, Project.scripts, List.filterMap_eq_nil_iff]
  constructor
  · intro without position document found
    exact without (document, position) (List.mem_zipIdx_iff_getElem?.mpr found)
  · intro without numbered member
    exact without numbered.2 numbered.1 (List.mem_zipIdx_iff_getElem?.mp member)

example :
    let block := fun (language content : String) =>
      Node.code ⟨some language, some "rmsm://startup", content⟩ ⟨0, 1⟩
    let compiled := (Document.mk [block "sh" "a", block "bash" "", block "sh" "b"]).compile [] 0
    compiled.startup = some "" ∧
      compiled.messages =
        ["Startup blocks must be bash scripts",
          "Multiple startup blocks provided, using the first one"] := by
  decide +kernel

end Tangle
