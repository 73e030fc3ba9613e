import Tangle.Tree.Write

namespace Tangle

/-!
# Runs of writes

Anything that takes writes of files, each of which may fail, can be given a
list of them.  A failed write is answered by its failure and leaves everything
as it was.  Two stores that answer every single write alike, and stay alike by
it, answer every run alike.
-/

namespace WriteRun

variable {Store : Type}

/-- What there is after a write: a failed one leaves what was there before. -/
def kept (before : Store) : Except WriteError Store → Store
  | .ok after => after
  | .error _ => before

/-- The failure of a write, if it failed. -/
def failure? : Except WriteError Store → Option WriteError
  | .ok _ => none
  | .error failure => some failure

/-- The answers to writes, each a path and its contents, made one after another. -/
def answers (write : String → String → Store → Except WriteError Store) (store : Store) :
    List (String × String) → List (Option WriteError)
  | [] => []
  | (path, contents) :: rest =>
      failure? (write path contents store) ::
        answers write (kept store (write path contents store)) rest

/-- What there is after writes made one after another. -/
def final
    (write : String → String → Store → Except WriteError Store) (store : Store)
    (writes : List (String × String)) : Store :=
  writes.foldl (fun before file => kept before (write file.1 file.2 before)) store

/-- One write leads to what it leaves. -/
theorem final_singleton
    (write : String → String → Store → Except WriteError Store) (store : Store)
    (path contents : String) :
    final write store [(path, contents)] = kept store (write path contents store) :=
  rfl

/-- Further writes start from what the first one leaves. -/
theorem final_cons
    (write : String → String → Store → Except WriteError Store) (store : Store)
    (path contents : String) (rest : List (String × String)) :
    final write store ((path, contents) :: rest) =
      final write (kept store (write path contents store)) rest :=
  rfl

/-- Writes behind others start from what those lead to. -/
theorem final_append
    (write : String → String → Store → Except WriteError Store) (store : Store)
    (first second : List (String × String)) :
    final write store (first ++ second) = final write (final write store first) second :=
  List.foldl_append

/-- Two results of a write that are the same failure or leave related stores. -/
inductive Alike {Other : Type} (related : Store → Other → Prop) :
    Except WriteError Store → Except WriteError Other → Prop where
  | ok {store : Store} {other : Other} :
      related store other → Alike related (.ok store) (.ok other)
  | error (failure : WriteError) :
      Alike related (.error failure) (.error failure)

/-- Stores that answer every write alike answer every run alike, and end up alike. -/
theorem simulation
    {Other : Type} (related : Store → Other → Prop)
    {write : String → String → Store → Except WriteError Store}
    {otherWrite : String → String → Other → Except WriteError Other}
    (alike :
      ∀ {store : Store} {other : Other}, related store other →
        ∀ path contents,
          Alike related (write path contents store) (otherWrite path contents other))
    {store : Store} {other : Other} (start : related store other)
    (writes : List (String × String)) :
    answers write store writes = answers otherWrite other writes ∧
      related (final write store writes) (final otherWrite other writes) := by
  induction writes generalizing store other with
  | nil =>
      exact ⟨rfl, start⟩
  | cons file rest inductionHypothesis =>
      obtain ⟨path, contents⟩ := file
      have first := alike start path contents
      simp only [answers, final, List.foldl_cons]
      generalize write path contents store = result at first ⊢
      generalize otherWrite path contents other = otherResult at first ⊢
      cases first with
      | ok stillRelated =>
          obtain ⟨sameAnswers, finallyRelated⟩ := inductionHypothesis stillRelated
          exact ⟨congrArg (none :: ·) sameAnswers, finallyRelated⟩
      | error failure =>
          obtain ⟨sameAnswers, finallyRelated⟩ := inductionHypothesis start
          exact ⟨congrArg (some failure :: ·) sameAnswers, finallyRelated⟩

end WriteRun

/-- The tree that writes into an empty tree leave, each of them kept if it succeeds. -/
def Tree.ofWrites (writes : List (String × String)) : Tree :=
  WriteRun.final Tree.write .empty writes

end Tangle
