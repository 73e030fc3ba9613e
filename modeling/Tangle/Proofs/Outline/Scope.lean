import Mathlib.Data.List.Basic
import Tangle.Outline

namespace Tangle

/-!
# Headings in scope

An outline is made in one walk that keeps a stack of open headings.  Where the
walk has come to some place of a document, the stack holds exactly the earlier
headings after which only deeper ones have followed; it is read here off the
places of the headings alone, without the stack.
-/

namespace Node

/-- The code block that an element of a document is, with its place. -/
def placedCode? : Node → Option (CodeBlock × Span)
  | .code block span => some (block, span)
  | _ => none

/-- The heading that an element of a document is. -/
def heading? : Node → Option Heading
  | .heading title _ => some title
  | _ => none

end Node

namespace Document

def headingAt? (document : Document) (place : Nat) : Option Heading :=
  document.nodes[place]?.bind Node.heading?

/-- The number of headings in front of a place. -/
def headingsBefore (document : Document) (place : Nat) : Nat :=
  ((document.nodes.take place).filterMap Node.heading?).length

/-- The number of code blocks in front of a place. -/
def blocksBefore (document : Document) (place : Nat) : Nat :=
  ((document.nodes.take place).filterMap Node.placedCode?).length

/-- A heading stands in front of a place, and only deeper headings stand between the two. -/
structure InScope (document : Document) (position : Nat) (heading : Heading) (place : Nat) :
    Prop where
  isHeading : document.headingAt? position = some heading
  before : position < place
  onlyDeeper :
    ∀ between, position < between → between < place →
      ∀ other, document.headingAt? between = some other → ¬ other.depth ≤ heading.depth

end Document

/-- How far a walk has come: the headings passed are counted, those in scope are on a stack. -/
structure Scope where
  count : Nat
  opened : List OpenHeading

namespace Scope

def start : Scope :=
  ⟨0, []⟩

/-- Pass one element of a document. -/
def pass (scope : Scope) : Node → Scope
  | .heading heading _ =>
      ⟨scope.count + 1,
        ⟨scope.count, heading.depth⟩ :: Outline.stillOpen heading.depth scope.opened⟩
  | _ => scope

def passAll (scope : Scope) (nodes : List Node) : Scope :=
  nodes.foldl pass scope

/-- Where a walk through a document is when it comes to a place. -/
def reached (document : Document) (place : Nat) : Scope :=
  start.passAll (document.nodes.take place)

/-- The positions of the headings in scope, outermost first. -/
def ancestors (scope : Scope) : List Nat :=
  (scope.opened.map OpenHeading.position).reverse

/-- A nearer heading stands later and is deeper; all headings on the stack have been passed. -/
structure Nested (scope : Scope) : Prop where
  inwards :
    scope.opened.Pairwise fun nearer farther =>
      farther.position < nearer.position ∧ farther.depth < nearer.depth
  passed : ∀ heading ∈ scope.opened, heading.position < scope.count

end Scope

namespace Outline

/-- The outline of the elements that follow where a walk has come to some scope. -/
def walkFrom (scope : Scope) (nodes : List Node) : Outline :=
  walk scope.count scope.opened nodes

/-- A walk takes in what the first element brings and goes on in the scope behind it. -/
theorem walkFrom_cons (scope : Scope) (node : Node) (rest : List Node) :
    walkFrom scope (node :: rest) =
      ⟨node.heading?.toList ++ (walkFrom (scope.pass node) rest).headings,
        (node.placedCode?.map fun placed => ⟨placed.1, scope.ancestors, placed.2⟩).toList ++
          (walkFrom (scope.pass node) rest).blocks⟩ := by
  cases node <;> rfl

/-- A walk goes on where it has come to. -/
theorem walkFrom_append (scope : Scope) (front back : List Node) :
    walkFrom scope (front ++ back) =
      ⟨(walkFrom scope front).headings ++ (walkFrom (scope.passAll front) back).headings,
        (walkFrom scope front).blocks ++ (walkFrom (scope.passAll front) back).blocks⟩ := by
  induction front generalizing scope with
  | nil =>
      rfl
  | cons node rest inductionHypothesis =>
      rw [List.cons_append, walkFrom_cons, walkFrom_cons, inductionHypothesis]
      simp only [List.append_assoc]
      rfl

/-- An outline has the headings of its elements, in the order of the elements. -/
theorem walk_headings (count : Nat) (opened : List OpenHeading) (nodes : List Node) :
    (walk count opened nodes).headings = nodes.filterMap Node.heading? := by
  induction nodes generalizing count opened with
  | nil =>
      rfl
  | cons node rest inductionHypothesis =>
      cases node with
      | heading heading span =>
          exact congrArg (heading :: ·) (inductionHypothesis _ _)
      | code code span =>
          exact inductionHypothesis _ _
      | other span =>
          exact inductionHypothesis _ _

/-- An outline has the code blocks of its nodes, in the order of the nodes. -/
theorem walk_blocks (count : Nat) (opened : List OpenHeading) (nodes : List Node) :
    (walk count opened nodes).blocks.map (fun block => (block.code, block.span)) =
      nodes.filterMap Node.placedCode? := by
  induction nodes generalizing count opened with
  | nil =>
      rfl
  | cons node rest inductionHypothesis =>
      cases node with
      | heading heading span =>
          exact inductionHypothesis _ _
      | code code span =>
          exact congrArg ((code, span) :: ·) (inductionHypothesis _ _)
      | other span =>
          exact inductionHypothesis _ _

/-- A walk finds each code block once. -/
theorem length_walk_blocks (count : Nat) (opened : List OpenHeading) (nodes : List Node) :
    (walk count opened nodes).blocks.length = (nodes.filterMap Node.placedCode?).length := by
  rw [← walk_blocks count opened, List.length_map]

/-- A code block is placed under the headings that are on the stack where the walk comes to it. -/
theorem getElem?_blocks_ofDocument
    {document : Document} {place : Nat} {code : CodeBlock} {span : Span}
    (isCode : document.nodes[place]? = some (.code code span)) :
    (ofDocument document).blocks[document.blocksBefore place]? =
      some ⟨code, (Scope.reached document place).ancestors, span⟩ := by
  have parted :
      document.nodes =
        document.nodes.take place ++ .code code span :: document.nodes.drop (place + 1) := by
    obtain ⟨inside, here⟩ := List.getElem?_eq_some_iff.mp isCode
    rw [← here, List.getElem_cons_drop, List.take_append_drop]
  have frontLength :
      (walkFrom .start (document.nodes.take place)).blocks.length =
        document.blocksBefore place :=
    length_walk_blocks 0 [] (document.nodes.take place)
  have blocksParted :
      (ofDocument document).blocks =
        (walkFrom .start (document.nodes.take place)).blocks ++
          (walkFrom (.reached document place)
            (.code code span :: document.nodes.drop (place + 1))).blocks := by
    have walked := walkFrom_append .start (document.nodes.take place)
      (.code code span :: document.nodes.drop (place + 1))
    rw [← parted] at walked
    exact congrArg blocks walked
  rw [blocksParted, List.getElem?_append_right (Nat.le_of_eq frontLength), frontLength,
    Nat.sub_self]
  rfl

end Outline

namespace Scope

/-- In front of the document no heading is open. -/
theorem Nested.start : Nested .start where
  inwards := .nil
  passed := by simp [Scope.start]

/--
Closing headings leaves those that are less deep: on a nested stack they are
behind the others.
-/
theorem mem_stillOpen_iff
    {opened : List OpenHeading} {depth : Nat} {heading : OpenHeading}
    (inwards :
      opened.Pairwise fun nearer farther =>
        farther.position < nearer.position ∧ farther.depth < nearer.depth) :
    heading ∈ Outline.stillOpen depth opened ↔ heading ∈ opened ∧ heading.depth < depth := by
  induction opened with
  | nil =>
      simp [Outline.stillOpen]
  | cons nearest others inductionHypothesis =>
      obtain ⟨fartherOut, othersInwards⟩ := List.pairwise_cons.mp inwards
      by_cases closes : depth ≤ nearest.depth
      · have dropped :
            Outline.stillOpen depth (nearest :: others) = Outline.stillOpen depth others := by
          simp [Outline.stillOpen, closes]
        rw [dropped, inductionHypothesis othersInwards]
        constructor
        · rintro ⟨member, shallower⟩
          exact ⟨List.mem_cons_of_mem _ member, shallower⟩
        · rintro ⟨member, shallower⟩
          rcases List.mem_cons.mp member with rfl | inOthers
          · omega
          · exact ⟨inOthers, shallower⟩
      · have kept : Outline.stillOpen depth (nearest :: others) = nearest :: others := by
          simp [Outline.stillOpen, closes]
        rw [kept]
        constructor
        · intro member
          refine ⟨member, ?_⟩
          rcases List.mem_cons.mp member with rfl | inOthers
          · omega
          · have shallower := (fartherOut heading inOthers).2
            omega
        · exact And.left

/-- Passing an element keeps the open headings nested. -/
theorem Nested.pass {scope : Scope} (nested : scope.Nested) (node : Node) :
    (scope.pass node).Nested := by
  cases node with
  | heading heading span =>
      have kept :
          ∀ {other : OpenHeading},
            other ∈ Outline.stillOpen heading.depth scope.opened ↔
              other ∈ scope.opened ∧ other.depth < heading.depth :=
        mem_stillOpen_iff nested.inwards
      constructor
      · refine List.pairwise_cons.mpr ⟨?_, nested.inwards.sublist (List.dropWhile_sublist _)⟩
        intro farther member
        obtain ⟨isOpen, shallower⟩ := kept.mp member
        exact ⟨nested.passed farther isOpen, shallower⟩
      · intro other member
        rcases List.mem_cons.mp member with rfl | stillOpen
        · exact Nat.lt_succ_self _
        · exact Nat.lt_succ_of_lt (nested.passed other (kept.mp stillOpen).1)
  | code code span =>
      exact nested
  | other span =>
      exact nested

/-- From one place to the next a walk passes the element that stands there. -/
theorem reached_succ (document : Document) (place : Nat) :
    reached document (place + 1) =
      match document.nodes[place]? with
      | some node => (reached document place).pass node
      | none => reached document place := by
  rw [reached, List.take_add_one, passAll, List.foldl_append]
  cases document.nodes[place]? <;> rfl

/-- So they are nested at every place of a document. -/
theorem nested_reached (document : Document) (place : Nat) : (reached document place).Nested := by
  induction place with
  | zero =>
      exact .start
  | succ place inductionHypothesis =>
      rw [reached_succ]
      split
      · exact inductionHypothesis.pass _
      · exact inductionHypothesis

/-- A heading closes those that are not less deep and is open behind its place. -/
theorem reached_succ_of_heading
    {document : Document} {place : Nat} {heading : Heading}
    (isHeading : document.headingAt? place = some heading) :
    reached document (place + 1) =
      ⟨(reached document place).count + 1,
        ⟨(reached document place).count, heading.depth⟩ ::
          Outline.stillOpen heading.depth (reached document place).opened⟩ := by
  rw [reached_succ]
  obtain ⟨node, here, isTitle⟩ := Option.bind_eq_some_iff.mp isHeading
  rw [here]
  cases node with
  | heading title span =>
      cases isTitle
      rfl
  | code code span => contradiction
  | other span => contradiction

/-- Any other element leaves the scope as it is. -/
theorem reached_succ_of_no_heading
    {document : Document} {place : Nat} (noHeading : document.headingAt? place = none) :
    reached document (place + 1) = reached document place := by
  rw [reached_succ]
  cases here : document.nodes[place]? with
  | none =>
      rfl
  | some node =>
      rw [Document.headingAt?, here] at noHeading
      cases node with
      | heading title span => contradiction
      | code code span => rfl
      | other span => rfl

end Scope

namespace Document

/-- Behind a heading there is one more in front, and behind another element there is none. -/
theorem headingsBefore_succ (document : Document) (place : Nat) :
    document.headingsBefore (place + 1) =
      document.headingsBefore place + (document.headingAt? place).toList.length := by
  rw [headingsBefore, headingsBefore, List.take_add_one, List.filterMap_append, List.length_append,
    headingAt?]
  cases document.nodes[place]? with
  | none =>
      rfl
  | some node =>
      cases node <;> rfl

/-- Farther on there are no fewer headings in front. -/
theorem headingsBefore_mono
    (document : Document) {position place : Nat} (before : position ≤ place) :
    document.headingsBefore position ≤ document.headingsBefore place := by
  have shorter : document.nodes.take position <+: document.nodes.take place :=
    List.take_prefix_take_left before
  exact (shorter.filterMap Node.heading?).length_le

/-- A heading is counted from the next place on. -/
theorem headingsBefore_lt
    {document : Document} {position place : Nat} {heading : Heading}
    (isHeading : document.headingAt? position = some heading) (before : position < place) :
    document.headingsBefore position < document.headingsBefore place := by
  have counted : document.headingsBefore (position + 1) = document.headingsBefore position + 1 := by
    rw [headingsBefore_succ, isHeading]
    rfl
  have later : document.headingsBefore (position + 1) ≤ document.headingsBefore place :=
    document.headingsBefore_mono before
  omega

/-- The number of headings in front of a heading tells where it stands. -/
theorem headingsBefore_injective
    {document : Document} {first second : Nat} {firstHeading secondHeading : Heading}
    (firstIs : document.headingAt? first = some firstHeading)
    (secondIs : document.headingAt? second = some secondHeading)
    (sameCount : document.headingsBefore first = document.headingsBefore second) :
    first = second := by
  rcases Nat.lt_trichotomy first second with before | same | after
  · have fewer := headingsBefore_lt firstIs before
    omega
  · exact same
  · have fewer := headingsBefore_lt secondIs after
    omega

/-- A heading stands in the outline behind the headings in front of it. -/
theorem getElem?_headings_ofDocument
    {document : Document} {position : Nat} {heading : Heading}
    (isHeading : document.headingAt? position = some heading) :
    (Outline.ofDocument document).headings[document.headingsBefore position]? = some heading := by
  obtain ⟨node, here, isTitle⟩ := Option.bind_eq_some_iff.mp isHeading
  obtain ⟨inside, rfl⟩ := List.getElem?_eq_some_iff.mp here
  have parted :
      document.nodes =
        document.nodes.take position ++
          document.nodes[position] :: document.nodes.drop (position + 1) := by
    rw [List.getElem_cons_drop, List.take_append_drop]
  have headingsParted :
      (Outline.ofDocument document).headings =
        (document.nodes.take position).filterMap Node.heading? ++
          heading :: (document.nodes.drop (position + 1)).filterMap Node.heading? := by
    rw [Outline.ofDocument, Outline.walk_headings]
    conv => lhs; rw [parted]
    rw [List.filterMap_append, List.filterMap_cons, isTitle]
  rw [headingsParted, headingsBefore, List.getElem?_append_right (Nat.le_refl _), Nat.sub_self]
  rfl

/-- One place further the heading passed is in scope, and the others that are not closed by it. -/
theorem inScope_succ_iff
    {document : Document} {position place : Nat} {heading : Heading} :
    document.InScope position heading (place + 1) ↔
      (position = place ∧ document.headingAt? place = some heading) ∨
        (document.InScope position heading place ∧
          ∀ other, document.headingAt? place = some other → ¬ other.depth ≤ heading.depth) := by
  constructor
  · intro inScope
    by_cases here : position = place
    · exact Or.inl ⟨here, here ▸ inScope.isHeading⟩
    · have earlier : position < place := by
        have before := inScope.before
        omega
      refine Or.inr ⟨⟨inScope.isHeading, earlier, ?_⟩, ?_⟩
      · intro between after before
        exact inScope.onlyDeeper between after (Nat.lt_succ_of_lt before)
      · exact inScope.onlyDeeper place earlier (Nat.lt_succ_self place)
  · rintro (⟨rfl, isHeading⟩ | ⟨inScope, deeper⟩)
    · refine ⟨isHeading, Nat.lt_succ_self _, ?_⟩
      intro between after before
      omega
    · refine ⟨inScope.isHeading, Nat.lt_succ_of_lt inScope.before, ?_⟩
      intro between after before
      rcases Nat.lt_succ_iff_lt_or_eq.mp before with earlier | rfl
      · exact inScope.onlyDeeper between after earlier
      · exact deeper

end Document

namespace Scope

/-- The scope counts the headings in front. -/
theorem count_reached (document : Document) (place : Nat) :
    (reached document place).count = document.headingsBefore place := by
  induction place with
  | zero =>
      rfl
  | succ place inductionHypothesis =>
      rw [Document.headingsBefore_succ, ← inductionHypothesis]
      cases isHeading : document.headingAt? place with
      | none =>
          rw [reached_succ_of_no_heading isHeading]
          rfl
      | some heading =>
          rw [reached_succ_of_heading isHeading]
          rfl

/-- The stack holds the headings in scope. -/
theorem mem_opened_reached_iff {document : Document} {place : Nat} {opened : OpenHeading} :
    opened ∈ (reached document place).opened ↔
      ∃ position heading, document.InScope position heading place ∧
        opened = ⟨document.headingsBefore position, heading.depth⟩ := by
  induction place generalizing opened with
  | zero =>
      constructor
      · intro member
        contradiction
      · rintro ⟨position, heading, inScope, _⟩
        exact absurd inScope.before (Nat.not_lt_zero position)
  | succ place inductionHypothesis =>
      cases isHeading : document.headingAt? place with
      | none =>
          rw [reached_succ_of_no_heading isHeading, inductionHypothesis]
          simp [Document.inScope_succ_iff, isHeading]
      | some passed =>
          have stillOpen :
              ∀ {other : OpenHeading},
                other ∈ Outline.stillOpen passed.depth (reached document place).opened ↔
                  other ∈ (reached document place).opened ∧ other.depth < passed.depth :=
            mem_stillOpen_iff (nested_reached document place).inwards
          rw [reached_succ_of_heading isHeading, List.mem_cons, stillOpen, inductionHypothesis,
            count_reached]
          constructor
          · rintro (rfl | ⟨⟨position, heading, inScope, rfl⟩, shallower⟩)
            · exact ⟨place, passed, Document.inScope_succ_iff.mpr (Or.inl ⟨rfl, isHeading⟩), rfl⟩
            · refine ⟨position, heading, Document.inScope_succ_iff.mpr (Or.inr ⟨inScope, ?_⟩), rfl⟩
              rintro other same
              rw [isHeading] at same
              cases same
              exact Nat.not_le.mpr shallower
          · rintro ⟨position, heading, inScope, rfl⟩
            rcases Document.inScope_succ_iff.mp inScope with ⟨rfl, same⟩ | ⟨inScope, deeper⟩
            · rw [isHeading] at same
              cases same
              exact Or.inl rfl
            · exact Or.inr ⟨⟨position, heading, inScope, rfl⟩,
                Nat.not_le.mp (deeper passed isHeading)⟩

end Scope

end Tangle
