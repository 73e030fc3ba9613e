import Mathlib.Data.List.Sort
import Tangle.Proofs.Tree.Order
import Tangle.Tree.Encoding

namespace Tangle

/-!
# The JSON form of a tree, written and read

Writing a tree and reading the value gives the tree back.  The other way round,
the values that are read are exactly those of the form that the description of
the encoding gives, and writing what was read gives the value back: its members
come in the order of their names, and the comments in files are gone.  A JSON
value is one in which no object has two members of the same name.
-/

namespace Json

mutual

/-- No object inside a value has two members of the same name. -/
def DistinctNames : Json → Prop
  | .array items => ItemsDistinctNames items
  | .object members => (members.map Prod.fst).Nodup ∧ MembersDistinctNames members
  | _ => True

/-- No object inside the items of an array has two members of the same name. -/
def ItemsDistinctNames : List Json → Prop
  | [] => True
  | item :: rest => item.DistinctNames ∧ ItemsDistinctNames rest

/-- No object inside the members of an object has two members of the same name. -/
def MembersDistinctNames : List (String × Json) → Prop
  | [] => True
  | (_, value) :: rest => value.DistinctNames ∧ MembersDistinctNames rest

end

/-- Put a member at its place among members that are in the order of their names. -/
def insertMember (member : String × Json) (members : List (String × Json)) :
    List (String × Json) :=
  members.orderedInsert (fun first second => first.1 ≤ second.1) member

mutual

/-- The same value with the members of every object in the order of their names. -/
def sorted : Json → Json
  | .array items => .array (sortedItems items)
  | .object members => .object (sortedMembers members)
  | value => value

/-- The items of an array, each with its members in order. -/
def sortedItems : List Json → List Json
  | [] => []
  | item :: rest => item.sorted :: sortedItems rest

/-- The members of an object in the order of their names, and so inside them. -/
def sortedMembers : List (String × Json) → List (String × Json)
  | [] => []
  | (name, value) :: rest => insertMember (name, value.sorted) (sortedMembers rest)

end

mutual

/-- The same entry of a tree; of a file only the contents are left. -/
def entryWithoutComments : Json → Json
  | .object [(kind, .object members)] =>
      if kind = "file" then
        .object [(kind, .object (members.filter fun member => member.1 = "contents"))]
      else if kind = "directory" then
        .object [(kind, .object (membersWithoutComments members))]
      else
        .object [(kind, .object members)]
  | value => value

/-- The same entries of a tree; of every file only the contents are left. -/
def membersWithoutComments : List (String × Json) → List (String × Json)
  | [] => []
  | (name, value) :: rest => (name, entryWithoutComments value) :: membersWithoutComments rest

end

/-- The same JSON form of a tree; of every file only the contents are left. -/
def withoutComments : Json → Json
  | .object members => .object (membersWithoutComments members)
  | value => value

mutual

/-- An object whose members are entries of a tree has the form of a tree. -/
inductive IsTree : Json → Prop
  | entries {members : List (String × Json)} :
      (∀ member ∈ members, IsEntry member.2) → IsTree (.object members)

/-- An object with one member is an entry: a file with contents that are a text, or a directory. -/
inductive IsEntry : Json → Prop
  | file {members : List (String × Json)} {contents : String} :
      ("contents", .string contents) ∈ members →
      IsEntry (.object [("file", .object members)])
  | directory {value : Json} : IsTree value → IsEntry (.object [("directory", value)])

end

/-- What holds of a file, of a directory and of every other value holds of all entries and trees. -/
theorem treeInduction
    {onEntry : Json → Prop} {onMembers : List (String × Json) → Prop}
    (file : ∀ members, onEntry (.object [("file", .object members)]))
    (directory :
      ∀ members, onMembers members → onEntry (.object [("directory", .object members)]))
    (other :
      ∀ value, (∀ members, value ≠ .object [("file", .object members)]) →
        (∀ members, value ≠ .object [("directory", .object members)]) → onEntry value)
    (nil : onMembers [])
    (cons :
      ∀ name value rest, onEntry value → onMembers rest → onMembers ((name, value) :: rest)) :
    (∀ value, onEntry value) ∧ ∀ members, onMembers members := by
  apply Tree.entryOfJson?.mutual_induct onEntry onMembers file
  · intro members _ inside
    exact directory members inside
  · intro kind members notFile notDirectory
    apply other
    · intro others same
      simp_all
    · intro others same
      simp_all
  · intro value noKind
    exact other value (fun members same => noKind _ members same)
      (fun members same => noKind _ members same)
  · exact nil
  · intro name value rest _ _ _ _ onValue onRest
    exact cons name value rest onValue onRest
  · intro name value rest _ onValue onRest
    exact cons name value rest onValue onRest

/-- An object is a tree if each of its members is an entry. -/
theorem isTree_object_iff {members : List (String × Json)} :
    (Json.object members).IsTree ↔ ∀ member ∈ members, member.2.IsEntry := by
  constructor
  · intro isTree
    cases isTree with
    | entries each => exact each
  · exact .entries

/-- A file is an entry if it has contents, whatever else it has. -/
theorem isEntry_file_iff {members : List (String × Json)} :
    (Json.object [("file", .object members)]).IsEntry ↔
      ∃ contents, ("contents", .string contents) ∈ members := by
  constructor
  · intro isEntry
    generalize isFile : Json.object [("file", .object members)] = value at isEntry
    cases isEntry with
    | file member =>
        cases isFile
        exact ⟨_, member⟩
    | directory isTree =>
        simp at isFile
  · intro hasContents
    obtain ⟨contents, member⟩ := hasContents
    exact .file member

/-- A directory is an entry if there is a tree in it. -/
theorem isEntry_directory_iff {value : Json} :
    (Json.object [("directory", value)]).IsEntry ↔ value.IsTree := by
  constructor
  · intro isEntry
    generalize isDirectory : Json.object [("directory", value)] = entry at isEntry
    cases isEntry with
    | file member =>
        simp at isDirectory
    | directory isTree =>
        cases isDirectory
        exact isTree
  · exact .directory

/-- Nothing else than a file or a directory is an entry. -/
theorem not_isEntry_other
    {value : Json} (noFile : ∀ members, value ≠ .object [("file", .object members)])
    (noDirectory : ∀ members, value ≠ .object [("directory", .object members)]) :
    ¬ value.IsEntry := by
  intro isEntry
  cases isEntry with
  | file member =>
      exact noFile _ rfl
  | directory isTree =>
      cases isTree with
      | entries each => exact noDirectory _ rfl

/-- Of members with distinct names only one has a name that one of them has. -/
theorem filter_name_eq_singleton
    {members : List (String × Json)} (distinct : (members.map Prod.fst).Nodup)
    {name : String} {value : Json} (isMember : (name, value) ∈ members) :
    members.filter (fun member => member.1 = name) = [(name, value)] := by
  induction members with
  | nil =>
      contradiction
  | cons first rest inductionHypothesis =>
      obtain ⟨notAgain, restDistinct⟩ := List.nodup_cons.mp distinct
      rcases List.mem_cons.mp isMember with rfl | inRest
      · have noOther : rest.filter (fun member => member.1 = name) = [] := by
          apply List.filter_eq_nil_iff.mpr
          intro other member same
          exact notAgain (List.mem_map.mpr ⟨other, member, by simpa using same⟩)
        rw [List.filter_cons_of_pos (by simp), noOther]
      · have different : first.1 ≠ name := by
          intro same
          exact notAgain (List.mem_map.mpr ⟨(name, value), inRest, same.symm⟩)
        rw [List.filter_cons_of_neg (by simpa using different),
          inductionHypothesis restDistinct inRest]

end Json

namespace Entry

/-- The JSON form of an entry. -/
def toJson : Entry → Json
  | .file contents => .object [("file", .object [("contents", .string contents)])]
  | .directory children => .object [("directory", children.toJson)]

end Entry

namespace Tree

/-- The member of the first entry comes before the others. -/
theorem members_before (name : String) (entry : Entry) (rest : Tree) :
    (entry.before name rest).members = (name, entry.toJson) :: rest.members := by
  cases entry <;> rfl

/-- Members have the names of the tree. -/
theorem map_fst_members (tree : Tree) : tree.members.map Prod.fst = tree.names := by
  induction tree using entryInduction with
  | empty =>
      rfl
  | before name entry rest _ inductionHypothesis =>
      rw [members_before, names_before, List.map_cons, inductionHypothesis]

/-- An entry set under a name that is smaller than all others comes first. -/
theorem set_eq_before_of_lt
    {name : String} {tree : Tree} (smaller : ∀ later ∈ tree.names, name < later) (entry : Entry) :
    tree.set name entry = entry.before name tree := by
  cases tree using entryInduction with
  | empty =>
      rfl
  | before first present rest =>
      have inFront : name < first := smaller first (by simp)
      rw [set_before, if_neg (String.ne_of_lt inFront), if_pos inFront]

/-- Setting a new name puts its JSON form at its place among the others. -/
theorem members_set
    {name : String} {tree : Tree} (fresh : name ∉ tree.names) (entry : Entry) :
    (tree.set name entry).members = Json.insertMember (name, entry.toJson) tree.members := by
  induction tree using entryInduction with
  | empty =>
      exact members_before name entry .empty
  | before first present rest _ inductionHypothesis =>
      rw [names_before, List.mem_cons, not_or] at fresh
      obtain ⟨different, freshInRest⟩ := fresh
      rw [set_before, if_neg different, members_before, Json.insertMember,
        List.orderedInsert_cons]
      by_cases inFront : name < first
      · have notBehind : name ≤ first :=
          String.not_lt.mp fun behind => String.lt_irrefl _ (String.lt_trans inFront behind)
        rw [if_pos inFront, if_pos notBehind, members_before, members_before]
      · have behind : ¬ name ≤ first := fun before =>
          different (String.le_antisymm before (String.not_lt.mp inFront))
        rw [if_neg inFront, if_neg behind, members_before, inductionHypothesis freshInRest]
        rfl

/-- Read entries as they were read before, with an entry in front of the others. -/
theorem ofMembers?_cons
    {name : String} {value : Json} {rest : List (String × Json)} {tree : Tree} :
    ofMembers? ((name, value) :: rest) = some tree ↔
      ∃ entry others, entryOfJson? value = some entry ∧ ofMembers? rest = some others ∧
        others.set name entry = tree := by
  rw [ofMembers?]
  cases entryOfJson? value with
  | none => simp
  | some entry =>
      cases ofMembers? rest with
      | none => simp
      | some others => simp

/-- A file is read from its contents. -/
theorem entryOfJson?_file (members : List (String × Json)) :
    entryOfJson? (.object [("file", .object members)]) = (contents? members).map .file := by
  rw [entryOfJson?, if_pos rfl]

/-- A directory is read from its members. -/
theorem entryOfJson?_directory (members : List (String × Json)) :
    entryOfJson? (.object [("directory", .object members)]) =
      (ofMembers? members).map .directory := by
  rw [entryOfJson?, if_neg (by decide), if_pos rfl]

/-- Nothing else than a file or a directory is read as an entry. -/
theorem entryOfJson?_other
    {value : Json} (noFile : ∀ members, value ≠ .object [("file", .object members)])
    (noDirectory : ∀ members, value ≠ .object [("directory", .object members)]) :
    entryOfJson? value = none := by
  unfold entryOfJson?
  split
  · rename_i kind members
    have notFile : kind ≠ "file" := fun same => noFile members (by rw [same])
    have notDirectory : kind ≠ "directory" := fun same => noDirectory members (by rw [same])
    rw [if_neg notFile, if_neg notDirectory]
  · rfl

/-- Reading the entries of an ordered tree gives the tree back. -/
theorem ofMembers?_members {tree : Tree} (ordered : tree.Ordered) :
    ofMembers? tree.members = some tree := by
  induction tree using entryInduction with
  | empty =>
      rw [members, ofMembers?]
  | before name entry rest inDirectory inRest =>
      obtain ⟨smaller, entryOrdered, restOrdered⟩ := ordered_before.mp ordered
      have entryBack : entryOfJson? entry.toJson = some entry := by
        cases entry with
        | file contents =>
            rw [Entry.toJson, entryOfJson?_file, contents?, if_pos rfl]
            rfl
        | directory children =>
            rw [Entry.toJson, toJson, entryOfJson?_directory,
              inDirectory children rfl entryOrdered]
            rfl
      rw [members_before]
      exact ofMembers?_cons.mpr
        ⟨entry, rest, entryBack, inRest restOrdered, set_eq_before_of_lt smaller entry⟩

/-- Members with distinct names have a text as contents exactly when one of them is that. -/
theorem contents?_eq_some_iff
    {members : List (String × Json)} (distinct : (members.map Prod.fst).Nodup)
    {contents : String} :
    contents? members = some contents ↔ ("contents", .string contents) ∈ members := by
  induction members with
  | nil =>
      simp [contents?]
  | cons first rest inductionHypothesis =>
      obtain ⟨name, value⟩ := first
      obtain ⟨notAgain, restDistinct⟩ := List.nodup_cons.mp distinct
      by_cases here : name = "contents"
      · have notInRest : ("contents", Json.string contents) ∉ rest := fun member =>
          notAgain (List.mem_map.mpr ⟨_, member, here.symm⟩)
        cases value with
        | string text =>
            rw [contents?, if_pos here, List.mem_cons, here]
            simp [notInRest, eq_comm]
        | _ =>
            simp [contents?, here, notInRest]
      · have later : contents? ((name, value) :: rest) = contents? rest := by
          cases value <;> rw [contents?, if_neg here]
          all_goals
            intro text isText
            contradiction
        rw [later, inductionHypothesis restDistinct]
        simp [Ne.symm here]

/-- Entries and trees are read exactly from values of their form. -/
theorem read_iff_form :
    (∀ value : Json, value.DistinctNames →
      ((∃ entry, entryOfJson? value = some entry) ↔ value.IsEntry)) ∧
    ∀ members : List (String × Json), Json.MembersDistinctNames members →
      ((∃ tree, ofMembers? members = some tree) ↔ (Json.object members).IsTree) := by
  apply Json.treeInduction
  case file =>
    intro members distinct
    have insideDistinct : (members.map Prod.fst).Nodup := distinct.2.1.1
    rw [entryOfJson?_file, Json.isEntry_file_iff]
    simp only [Option.map_eq_some_iff, contents?_eq_some_iff insideDistinct]
    constructor
    · intro read
      obtain ⟨_, contents, member, _⟩ := read
      exact ⟨contents, member⟩
    · intro hasContents
      obtain ⟨contents, member⟩ := hasContents
      exact ⟨_, contents, member, rfl⟩
  case directory =>
    intro members inside distinct
    rw [entryOfJson?_directory, Json.isEntry_directory_iff, ← inside distinct.2.1.2]
    simp only [Option.map_eq_some_iff]
    constructor
    · intro read
      obtain ⟨_, tree, found, _⟩ := read
      exact ⟨tree, found⟩
    · intro hasTree
      obtain ⟨tree, found⟩ := hasTree
      exact ⟨_, tree, found, rfl⟩
  case other =>
    intro value noFile noDirectory _
    rw [entryOfJson?_other noFile noDirectory]
    exact iff_of_false (by simp) (Json.not_isEntry_other noFile noDirectory)
  case nil =>
    intro _
    exact iff_of_true ⟨.empty, by rw [ofMembers?]⟩ (.entries (by simp))
  case cons =>
    intro name value rest onValue onRest distinct
    simp only [ofMembers?_cons, Json.isTree_object_iff, List.forall_mem_cons,
      ← onValue distinct.1] at onRest ⊢
    rw [← onRest distinct.2]
    constructor
    · intro read
      obtain ⟨_, entry, others, isEntry, areOthers, _⟩ := read
      exact ⟨⟨entry, isEntry⟩, others, areOthers⟩
    · intro both
      obtain ⟨⟨entry, isEntry⟩, others, areOthers⟩ := both
      exact ⟨_, entry, others, isEntry, areOthers, rfl⟩

/-- What was read is ordered, and writing it gives back what is no comment, in order. -/
theorem written_back :
    (∀ value : Json, value.DistinctNames → ∀ entry, entryOfJson? value = some entry →
      entry.Ordered ∧ entry.toJson = value.entryWithoutComments.sorted) ∧
    ∀ members : List (String × Json), (members.map Prod.fst).Nodup →
      Json.MembersDistinctNames members → ∀ tree, ofMembers? members = some tree →
        tree.Ordered ∧ (∀ name ∈ tree.names, name ∈ members.map Prod.fst) ∧
          tree.members = Json.sortedMembers (Json.membersWithoutComments members) := by
  apply Json.treeInduction
  case file =>
    intro members distinct entry found
    have insideDistinct : (members.map Prod.fst).Nodup := distinct.2.1.1
    rw [entryOfJson?_file] at found
    obtain ⟨contents, hasContents, rfl⟩ := Option.map_eq_some_iff.mp found
    have member := (contents?_eq_some_iff insideDistinct).mp hasContents
    refine ⟨trivial, ?_⟩
    rw [Json.entryWithoutComments, if_pos rfl, Json.filter_name_eq_singleton insideDistinct member]
    rfl
  case directory =>
    intro members inside distinct entry found
    rw [entryOfJson?_directory] at found
    obtain ⟨tree, isTree, rfl⟩ := Option.map_eq_some_iff.mp found
    obtain ⟨ordered, _, written⟩ := inside distinct.2.1.1 distinct.2.1.2 tree isTree
    refine ⟨ordered, ?_⟩
    rw [Entry.toJson, toJson, written, Json.entryWithoutComments, if_neg (by decide), if_pos rfl]
    rfl
  case other =>
    intro value noFile noDirectory _ entry found
    rw [entryOfJson?_other noFile noDirectory] at found
    contradiction
  case nil =>
    intro _ _ tree found
    rw [ofMembers?] at found
    cases found
    exact ⟨trivial, by simp, rfl⟩
  case cons =>
    intro name value rest onValue onRest distinct allDistinct tree found
    obtain ⟨notAgain, restDistinct⟩ := List.nodup_cons.mp distinct
    obtain ⟨entry, others, isEntry, areOthers, rfl⟩ := ofMembers?_cons.mp found
    obtain ⟨entryOrdered, entryWritten⟩ := onValue allDistinct.1 entry isEntry
    obtain ⟨othersOrdered, sameNames, othersWritten⟩ :=
      onRest restDistinct allDistinct.2 others areOthers
    have fresh : name ∉ others.names := fun member => notAgain (sameNames name member)
    refine ⟨othersOrdered.set entryOrdered, ?_, ?_⟩
    · intro other member
      rcases mem_names_set.mp member with rfl | inOthers
      · exact List.mem_cons_self
      · exact List.mem_cons_of_mem _ (sameNames other inOthers)
    · rw [members_set fresh, entryWritten, othersWritten]
      rfl

/-- The JSON form of an ordered tree is a JSON value. -/
theorem distinctNames_toJson {tree : Tree} (ordered : tree.Ordered) :
    tree.toJson.DistinctNames := by
  induction tree using entryInduction with
  | empty =>
      exact ⟨.nil, trivial⟩
  | before name entry rest inDirectory inRest =>
      obtain ⟨smaller, entryOrdered, restOrdered⟩ := ordered_before.mp ordered
      obtain ⟨namesDistinct, insideDistinct⟩ := inRest restOrdered
      have entryDistinct : entry.toJson.DistinctNames := by
        cases entry with
        | file contents =>
            simp [Entry.toJson, Json.DistinctNames, Json.MembersDistinctNames]
        | directory children =>
            have childrenDistinct := inDirectory children rfl entryOrdered
            simpa [Entry.toJson, Json.DistinctNames, Json.MembersDistinctNames] using
              childrenDistinct
      rw [toJson, members_before]
      refine ⟨?_, entryDistinct, insideDistinct⟩
      rw [List.map_cons, List.nodup_cons]
      refine ⟨?_, namesDistinct⟩
      rw [map_fst_members]
      intro member
      exact String.lt_irrefl _ (smaller name member)

end Tree

/--
The JSON form of trees.  Writing an ordered tree gives a JSON value, and reading
that gives the tree back.  A JSON value is read exactly when it has the form of
a tree; what is read from it is ordered, and writing it gives the value back,
up to the order of members, without what files hold besides their contents.
-/
theorem Tree.json_form_exact :
    (∀ tree : Tree, tree.Ordered →
      tree.toJson.DistinctNames ∧ Tree.ofJson? tree.toJson = some tree) ∧
    ∀ value : Json, value.DistinctNames →
      ((∃ tree, Tree.ofJson? value = some tree) ↔ value.IsTree) ∧
        ∀ tree, Tree.ofJson? value = some tree →
          tree.Ordered ∧ tree.toJson = value.withoutComments.sorted := by
  refine ⟨fun tree ordered =>
    ⟨Tree.distinctNames_toJson ordered, Tree.ofMembers?_members ordered⟩, ?_⟩
  intro value distinct
  cases value with
  | object members =>
      refine ⟨Tree.read_iff_form.2 members distinct.2, ?_⟩
      intro tree found
      obtain ⟨ordered, _, written⟩ := Tree.written_back.2 members distinct.1 distinct.2 tree found
      exact ⟨ordered, congrArg Json.object written⟩
  | _ =>
      constructor
      · refine iff_of_false (fun read => ?_) (fun isTree => ?_)
        · obtain ⟨tree, found⟩ := read
          contradiction
        · contradiction
      · intro tree found
        contradiction

/-- Names that no path has, and a directory without entries. -/
def Tree.oddNames : Tree :=
  .file "" "x" (.directory "a/b" .empty .empty)

/-- The JSON form of a tree, out of order and with a comment in a file. -/
def Json.commented : Json :=
  .object
    [("b", .object [("directory", .object [])]),
      ("a", .object [("file", .object [("mode", .string "r"), ("contents", .string "x")])])]

/-- Both are read, the one as itself and the other as some tree. -/
theorem Tree.oddNames_json_form :
    oddNames.Ordered ∧ Tree.ofJson? oddNames.toJson = some oddNames ∧
      Json.commented.DistinctNames ∧ ∃ tree, Tree.ofJson? Json.commented = some tree := by
  have inOrder : ∀ later ∈ ["a/b"], "" < later := by
    intro later member
    rw [List.mem_singleton.mp member]
    decide
  have ordered : oddNames.Ordered := ⟨inOrder, nofun, trivial, trivial⟩
  have distinct : Json.commented.DistinctNames := by
    simp [Json.commented, Json.DistinctNames, Json.MembersDistinctNames]
  have isTree : Json.commented.IsTree := by
    apply Json.isTree_object_iff.mpr
    simp only [List.forall_mem_cons, Json.isEntry_directory_iff, Json.isTree_object_iff,
      Json.isEntry_file_iff]
    exact ⟨by simp, ⟨"x", by simp⟩, by simp⟩
  exact ⟨ordered, (Tree.json_form_exact.1 oddNames ordered).2, distinct,
    (Tree.json_form_exact.2 Json.commented distinct).1.mpr isTree⟩

end Tangle
