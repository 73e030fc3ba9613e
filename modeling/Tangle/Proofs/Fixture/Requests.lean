import Tangle.Fixture.Category
import Mathlib.Data.List.Induction

namespace Tangle

/-!
# What requests pick, and when they draw a warning

Requests are taken in order, and what they ask for is collected.  In the end every
category is picked that some request asks for.  A request draws a warning if the
collection does not grow, so the warning tells of requests that ask for nothing, and
also of those that ask only for what was asked for before.
-/

namespace Category

/-- A request asks for the category that it names, slashes around it aside, and for those inside. -/
def AsksFor (request name : String) : Prop :=
  name = cleanRequest request ∨ ∃ below, name = cleanRequest request ++ "/" ++ below

/-- A name is asked for as the check on the cleaned request says. -/
theorem isAskedBy_iff {name request : String} :
    isAskedBy name (cleanRequest request) = true ↔ AsksFor request name := by
  have inside :
      (cleanRequest request).toList ++ ['/'] <+: name.toList ↔
        ∃ below, name = cleanRequest request ++ "/" ++ below := by
    constructor
    · rintro ⟨below, shape⟩
      refine ⟨String.ofList below, ?_⟩
      rw [← String.toList_inj, ← shape]
      simp
    · rintro ⟨below, rfl⟩
      exact ⟨below.toList, by simp⟩
  rw [isAskedBy, Bool.or_eq_true, beq_iff_eq, List.isPrefixOf_iff_prefix, inside, AsksFor]

instance (request name : String) : Decidable (AsksFor request name) :=
  decidable_of_iff _ isAskedBy_iff

/-- No category is what a request asks for. -/
def AsksInVain (categories : List Category) (request : String) : Prop :=
  ∀ category ∈ categories, ¬ AsksFor request category.name

/-- All that a request asks for is asked for by others as well. -/
def AsksNothingNew (categories : List Category) (others : List String) (request : String) : Prop :=
  ∀ category ∈ categories,
    AsksFor request category.name → ∃ other ∈ others, AsksFor other category.name

instance (categories : List Category) (request : String) :
    Decidable (AsksInVain categories request) :=
  inferInstanceAs (Decidable (∀ category ∈ categories, ¬ AsksFor request category.name))

instance (categories : List Category) (others : List String) (request : String) :
    Decidable (AsksNothingNew categories others request) :=
  inferInstanceAs
    (Decidable
      (∀ category ∈ categories,
        AsksFor request category.name → ∃ other ∈ others, AsksFor other category.name))

/-- A request in vain asks for nothing new, whatever was asked before. -/
theorem AsksInVain.asksNothingNew
    {categories : List Category} {request : String} (vain : AsksInVain categories request)
    (others : List String) : AsksNothingNew categories others request :=
  fun category member asks => absurd asks (vain category member)

section Picking

variable (categories : List Category)

/-! ## What is picked -/

/-- The names that a request adds to those picked already. -/
def newNames (picked : Picked) (request : String) : List String :=
  ((categories.map Category.name).filter
      (fun name => isAskedBy name (cleanRequest request))).filter
    (fun name => !picked.names.contains name)

/-- A request brings in the categories that it asks for and that are not picked yet. -/
theorem mem_newNames {picked : Picked} {request name : String} :
    name ∈ newNames categories picked request ↔
      (name ∈ categories.map Category.name ∧ AsksFor request name) ∧ name ∉ picked.names := by
  rw [newNames, List.mem_filter, List.mem_filter, isAskedBy_iff]
  simp

/-- A request that adds no name leaves a warning; otherwise the names are picked. -/
theorem pick_eq (picked : Picked) (request : String) :
    pick categories picked request =
      if (newNames categories picked request).isEmpty then
        { picked with idle := picked.idle ++ [cleanRequest request] }
      else { picked with names := picked.names ++ newNames categories picked request } :=
  rfl

/-- Picked are those from before and those that are asked for. -/
theorem mem_names_pick {picked : Picked} {request name : String} :
    name ∈ (pick categories picked request).names ↔
      name ∈ picked.names ∨ name ∈ categories.map Category.name ∧ AsksFor request name := by
  have grown :
      (pick categories picked request).names =
        picked.names ++ newNames categories picked request := by
    rw [pick_eq]
    split
    · rename_i nothingNew
      rw [List.isEmpty_iff.mp nothingNew, List.append_nil]
    · rfl
  rw [grown, List.mem_append, mem_newNames]
  by_cases isPicked : name ∈ picked.names <;> simp [isPicked]

/-- The last of several requests is carried out behind the others. -/
theorem pickAll_concat (earlier : List String) (request : String) :
    pickAll categories (earlier ++ [request]) =
      pick categories (pickAll categories earlier) request := by
  rw [pickAll, List.foldl_append]
  rfl

/-- The names picked by requests are those of the categories that one of them asks for. -/
theorem mem_names_pickAll {requests : List String} {name : String} :
    name ∈ (pickAll categories requests).names ↔
      name ∈ categories.map Category.name ∧ ∃ request ∈ requests, AsksFor request name := by
  induction requests using List.reverseRecOn with
  | nil =>
      simp [pickAll]
  | append_singleton earlier request inductionHypothesis =>
      rw [pickAll_concat, mem_names_pick, inductionHypothesis, ← and_or_left]
      simp only [List.mem_append, List.mem_singleton, or_and_right, exists_or, exists_eq_left]

/-- The selected categories are those that a request asks for, unless there is no request. -/
theorem select_eq (requests : List String) :
    select categories requests =
      categories.filter
        (fun category => requests = [] ∨ ∃ request ∈ requests, AsksFor request category.name) := by
  rw [select]
  split
  · rename_i noRequests
    rw [List.isEmpty_iff] at noRequests
    exact (List.filter_eq_self.mpr fun category _ => decide_eq_true (.inl noRequests)).symm
  · rename_i someRequests
    rw [List.isEmpty_iff] at someRequests
    refine List.filter_congr fun category member => ?_
    have isCategory := List.mem_map_of_mem (f := Category.name) member
    rw [Bool.eq_iff_iff, List.contains_iff_mem, mem_names_pickAll]
    simp [isCategory, someRequests]

/-! ## What draws a warning -/

/-- A request is idle if each category that it asks for has been picked. -/
theorem idle_pick (earlier : List String) (request : String) :
    (pick categories (pickAll categories earlier) request).idle =
      (pickAll categories earlier).idle ++
        if AsksNothingNew categories earlier request then [cleanRequest request] else [] := by
  have nothingNew_iff :
      (newNames categories (pickAll categories earlier) request).isEmpty = true ↔
        AsksNothingNew categories earlier request := by
    rw [List.isEmpty_iff, List.eq_nil_iff_forall_not_mem]
    simp only [mem_newNames, mem_names_pickAll, AsksNothingNew]
    constructor
    · intro allOld category member asks
      have isCategory := List.mem_map_of_mem (f := Category.name) member
      by_contra isNew
      exact allOld category.name ⟨⟨isCategory, asks⟩, fun isPicked => isNew isPicked.2⟩
    · rintro nothingNew name ⟨⟨isCategory, asks⟩, notPicked⟩
      obtain ⟨category, member, rfl⟩ := List.mem_map.mp isCategory
      exact notPicked ⟨isCategory, nothingNew category member asks⟩
  rw [pick_eq]
  by_cases nothingNew : AsksNothingNew categories earlier request
  · rw [if_pos (nothingNew_iff.mpr nothingNew), if_pos nothingNew]
  · rw [if_neg (mt nothingNew_iff.mp nothingNew), if_neg nothingNew, List.append_nil]

/-- Requests in order with their positions, as far as they ask for nothing new there. -/
def idleRequests (requests : List String) : List (String × Nat) :=
  requests.zipIdx.filter fun placed =>
    AsksNothingNew categories (requests.take placed.2) placed.1

/-- Whether it is idle depends on those before it alone. -/
theorem idleRequests_concat (earlier : List String) (request : String) :
    idleRequests categories (earlier ++ [request]) =
      idleRequests categories earlier ++
        if AsksNothingNew categories earlier request then [(request, earlier.length)] else [] := by
  have sameFront :
      earlier.zipIdx.filter (fun placed =>
          AsksNothingNew categories ((earlier ++ [request]).take placed.2) placed.1) =
        idleRequests categories earlier := by
    refine List.filter_congr fun placed member => ?_
    have inFront : placed.2 < earlier.length := by
      simpa using List.snd_lt_of_mem_zipIdx member
    rw [List.take_append_of_le_length (Nat.le_of_lt inFront)]
  rw [idleRequests, List.zipIdx_append, List.filter_append, sameFront]
  simp [List.filter_cons]

/-- The requests that draw a warning are those that ask for nothing new where they stand. -/
theorem idle_pickAll (requests : List String) :
    (pickAll categories requests).idle =
      (idleRequests categories requests).map (fun placed => cleanRequest placed.1) := by
  induction requests using List.reverseRecOn with
  | nil =>
      rfl
  | append_singleton earlier request inductionHypothesis =>
      rw [pickAll_concat, idle_pick, inductionHypothesis, idleRequests_concat, List.map_append]
      split <;> rfl

/-- The warnings that are due: one for each request that no category answers. -/
def dueWarnings (requests : List String) : List String :=
  (requests.filter (fun request => AsksInVain categories request)).map
    (fun request => idleWarning categories (cleanRequest request))

/-- A request that asks in vain asks for nothing new, so due warnings are among those drawn. -/
theorem dueWarnings_eq (requests : List String) :
    dueWarnings categories requests =
      ((idleRequests categories requests).filter
          (fun placed => AsksInVain categories placed.1)).map
        (fun placed => idleWarning categories (cleanRequest placed.1)) := by
  have sameRequests :
      requests.filter (fun request => AsksInVain categories request) =
        (requests.zipIdx.filter (fun placed => AsksInVain categories placed.1)).map Prod.fst := by
    conv_lhs => rw [← List.zipIdx_map_fst 0 requests, List.filter_map]
    rfl
  have samePlaced :
      (idleRequests categories requests).filter (fun placed => AsksInVain categories placed.1) =
        requests.zipIdx.filter (fun placed => AsksInVain categories placed.1) := by
    rw [idleRequests, List.filter_filter]
    refine List.filter_congr fun placed _ => ?_
    rw [Bool.and_eq_left_iff_imp, decide_eq_true_iff, decide_eq_true_iff]
    exact fun vain => vain.asksNothingNew _
  rw [samePlaced, dueWarnings, sameRequests, List.map_map]
  rfl

/-- There is a warning for each idle request, in order. -/
theorem warnings_eq (requests : List String) :
    warnings categories requests =
      (idleRequests categories requests).map
        (fun placed => idleWarning categories (cleanRequest placed.1)) := by
  rw [warnings, idle_pickAll, List.map_map]
  rfl

/--
A request draws the warning that nothing was found exactly if each category that it
asks for was asked for by a request in front of it.  So a request that no category
answers always draws it, and these are all the warnings exactly if no other request
repeats what was asked for before.
-/
theorem warnings_tell_of_nothing_new (requests : List String) :
    warnings categories requests =
        (idleRequests categories requests).map
          (fun placed => idleWarning categories (cleanRequest placed.1)) ∧
      (dueWarnings categories requests).Sublist (warnings categories requests) ∧
      (warnings categories requests = dueWarnings categories requests ↔
        ∀ placed ∈ idleRequests categories requests, AsksInVain categories placed.1) := by
  refine ⟨warnings_eq categories requests, ?_, ?_⟩
  · rw [warnings_eq, dueWarnings_eq]
    exact List.filter_sublist.map _
  · rw [warnings_eq, dueWarnings_eq]
    constructor
    · intro sameWarnings
      have sameLength := congrArg List.length sameWarnings
      rw [List.length_map, List.length_map, eq_comm, List.length_filter_eq_length_iff]
        at sameLength
      exact fun placed member => of_decide_eq_true (sameLength placed member)
    · intro allInVain
      rw [List.filter_eq_self.mpr fun placed member => decide_eq_true (allInVain placed member)]

end Picking

/-- A category that is there, and is asked for twice, is said not to be found. -/
theorem repeated_request_not_found :
    ¬ ∀ (categories : List Category) (requests : List String),
        warnings categories requests = dueWarnings categories requests := by
  intro onlyDue
  have none := onlyDue [⟨"a", ["a/x.test.md"]⟩] ["a", "a"]
  revert none
  decide +kernel

end Category

end Tangle
