namespace Tangle

/-!
# Trees of files

A tree holds the entries of a directory by name.  Each name stands once, so an
entry is never both a file and a directory, and entries stand in ascending
order of their names; `Tree.Ordered` says so, and every operation keeps it.
-/

/-- The entries of a directory, one constructor for each kind of first entry. -/
inductive Tree where
  | empty
  | file (name contents : String) (rest : Tree)
  | directory (name : String) (children rest : Tree)
  deriving Repr, DecidableEq

/-- What a name stands for in a directory. -/
inductive Entry where
  | file (contents : String)
  | directory (children : Tree)
  deriving Repr, DecidableEq

namespace Entry

/-- Whether an entry is a file. -/
def isFile : Entry → Bool
  | .file _ => true
  | .directory _ => false

/-- Whether an entry is a directory. -/
def isDirectory : Entry → Bool
  | .file _ => false
  | .directory _ => true

/-- Put an entry under a name in front of other entries. -/
def before (name : String) (entry : Entry) (rest : Tree) : Tree :=
  match entry with
  | .file contents => .file name contents rest
  | .directory children => .directory name children rest

end Entry

namespace Tree

/-- The entries of a tree with their names, in order. -/
def entries : Tree → List (String × Entry)
  | .empty => []
  | .file name contents rest => (name, .file contents) :: rest.entries
  | .directory name children rest => (name, .directory children) :: rest.entries

/-- The names of the entries of a tree, in order. -/
def names (tree : Tree) : List String :=
  tree.entries.map Prod.fst

/-- Every name at every level is smaller than the names after it. -/
def Ordered : Tree → Prop
  | .empty => True
  | .file name _ rest => (∀ later ∈ rest.names, name < later) ∧ rest.Ordered
  | .directory name children rest =>
      (∀ later ∈ rest.names, name < later) ∧ children.Ordered ∧ rest.Ordered

/-- Whether a tree has no entries. -/
def isEmpty : Tree → Bool
  | .empty => true
  | _ => false

/-- The number of entries directly in a tree. -/
def size : Tree → Nat
  | .empty => 0
  | .file _ _ rest => rest.size + 1
  | .directory _ _ rest => rest.size + 1

/-- The entry that stands under a name. -/
def find? (wanted : String) : Tree → Option Entry
  | .empty => none
  | .file name contents rest =>
      if name = wanted then some (.file contents) else rest.find? wanted
  | .directory name children rest =>
      if name = wanted then some (.directory children) else rest.find? wanted

/-- Put an entry under a name at its place in the order, instead of any entry it had. -/
def set (wanted : String) (entry : Entry) : Tree → Tree
  | .empty => entry.before wanted .empty
  | .file name contents rest =>
      if wanted = name then entry.before wanted rest
      else if wanted < name then entry.before wanted (.file name contents rest)
      else .file name contents (rest.set wanted entry)
  | .directory name children rest =>
      if wanted = name then entry.before wanted rest
      else if wanted < name then entry.before wanted (.directory name children rest)
      else .directory name children (rest.set wanted entry)

/-- The entry reached by following names through directories; the last name may be a file. -/
def lookup? : List String → Tree → Option Entry
  | [], _ => none
  | [name], tree => tree.find? name
  | name :: next :: rest, tree =>
      match tree.find? name with
      | some (.directory children) => children.lookup? (next :: rest)
      | _ => none

/-- An entry just put under a name is found there. -/
@[simp] theorem find?_before (name : String) (entry : Entry) (rest : Tree) :
    (entry.before name rest).find? name = some entry := by
  cases entry <;> simp [Entry.before, find?]

/-- A different name is looked for behind the entry in front. -/
theorem find?_before_of_ne
    {name wanted : String} (different : name ≠ wanted) (entry : Entry) (rest : Tree) :
    (entry.before name rest).find? wanted = rest.find? wanted := by
  cases entry <;> simp [Entry.before, find?, different]

/-- An entry just set is found under its name. -/
@[simp] theorem find?_set (wanted : String) (entry : Entry) (tree : Tree) :
    (tree.set wanted entry).find? wanted = some entry := by
  fun_induction set wanted entry tree <;> simp_all [find?] <;> grind

/-- Setting one name leaves what stands under the others. -/
theorem find?_set_of_ne
    {wanted other : String} (different : wanted ≠ other) (entry : Entry) (tree : Tree) :
    (tree.set wanted entry).find? other = tree.find? other := by
  fun_induction set wanted entry tree <;> simp_all [find?, find?_before_of_ne]

end Tree

end Tangle
