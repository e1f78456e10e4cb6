import ControlFlow.Proofs.Graph.Preorder
import ControlFlow.Proofs.Graph.Successor

set_option autoImplicit false

namespace ControlFlow

def Statement.places (statement : Statement) (index : Nat) : List (Statement × Nat) :=
  statement.preorder.zipIdx index

def blockPlaces (block : List Statement) (index : Nat) : List (Statement × Nat) :=
  (blockPreorder block).zipIdx index

theorem places_leaf {statement : Statement} (flow : statement.flow = .leaf) (index : Nat) :
    statement.places index = [(statement, index)] := by
  rw [Statement.places, preorder_leaf flow]
  rfl

theorem places_branch {statement : Statement} {yes no : List Statement}
    (flow : statement.flow = .branch yes no) (index : Nat) :
    statement.places index =
      (statement, index) ::
        (blockPlaces yes (index + 1) ++ blockPlaces no (index + 1 + nodeCounts yes)) := by
  rw [Statement.places, preorder_branch flow, List.zipIdx_cons, List.zipIdx_append,
    blockPreorder_length]
  rfl

theorem places_loop {statement : Statement} {inward outward : Label} {body : List Statement}
    (flow : statement.flow = .loop inward outward body) (index : Nat) :
    statement.places index = (statement, index) :: blockPlaces body (index + 1) := by
  rw [Statement.places, preorder_loop flow, List.zipIdx_cons]
  rfl

@[simp] theorem blockPlaces_nil (index : Nat) : blockPlaces [] index = [] := rfl

theorem blockPlaces_cons (statement : Statement) (rest : List Statement) (index : Nat) :
    blockPlaces (statement :: rest) index =
      statement.places index ++ blockPlaces rest (index + statement.nodeCount) := by
  rw [blockPlaces, blockPreorder, List.zipIdx_append, statement_preorder_length]
  rfl

-- The statements below a statement follow it without a gap.
theorem preorder_split :
    (∀ (statement : Statement) (index : Nat), ∀ entry ∈ statement.places index,
      ∃ before after, statement.preorder = before ++ entry.1.preorder ++ after ∧
        entry.2 = index + before.length) ∧
    ∀ (block : List Statement) (index : Nat), ∀ entry ∈ blockPlaces block index,
      ∃ before after, blockPreorder block = before ++ entry.1.preorder ++ after ∧
        entry.2 = index + before.length := by
  apply flow_induction
  · intro statement flow index entry member
    rw [places_leaf flow, List.mem_singleton] at member
    subst member
    exact ⟨[], [], by simp, rfl⟩
  · intro statement yes no flow yesSplit noSplit index entry member
    rw [places_branch flow, List.mem_cons, List.mem_append] at member
    rcases member with rfl | inYes | inNo
    · exact ⟨[], [], by simp, rfl⟩
    · obtain ⟨before, after, split, place⟩ := yesSplit _ entry inYes
      refine ⟨statement :: before, after ++ blockPreorder no, ?_, ?_⟩
      · simp [preorder_branch flow, split]
      · rw [place, List.length_cons]
        omega
    · obtain ⟨before, after, split, place⟩ := noSplit _ entry inNo
      refine ⟨statement :: (blockPreorder yes ++ before), after, ?_, ?_⟩
      · simp [preorder_branch flow, split]
      · rw [place, List.length_cons, List.length_append, blockPreorder_length]
        omega
  · intro statement inward outward body flow bodySplit index entry member
    rw [places_loop flow, List.mem_cons] at member
    rcases member with rfl | inBody
    · exact ⟨[], [], by simp, rfl⟩
    · obtain ⟨before, after, split, place⟩ := bodySplit _ entry inBody
      refine ⟨statement :: before, after, ?_, ?_⟩
      · simp [preorder_loop flow, split]
      · rw [place, List.length_cons]
        omega
  · simp
  · intro statement rest first others index entry member
    rw [blockPlaces_cons, List.mem_append] at member
    rcases member with here | later
    · obtain ⟨before, after, split, place⟩ := first _ entry here
      exact ⟨before, after ++ blockPreorder rest, by simp [blockPreorder, split], place⟩
    · obtain ⟨before, after, split, place⟩ := others _ entry later
      refine ⟨statement.preorder ++ before, after, by simp [blockPreorder, split], ?_⟩
      rw [place, List.length_append, statement_preorder_length]
      omega

-- What a statement takes up lies within what holds it.
theorem places_inside :
    (∀ (statement : Statement) (index : Nat), ∀ entry ∈ statement.places index,
      index ≤ entry.2 ∧ entry.2 + entry.1.nodeCount ≤ index + statement.nodeCount) ∧
    ∀ (block : List Statement) (index : Nat), ∀ entry ∈ blockPlaces block index,
      index ≤ entry.2 ∧ entry.2 + entry.1.nodeCount ≤ index + nodeCounts block := by
  constructor
  · intro statement index entry member
    obtain ⟨before, after, split, place⟩ := preorder_split.1 statement index entry member
    have lengths := congrArg List.length split
    simp only [List.length_append, statement_preorder_length] at lengths
    omega
  · intro block index entry member
    obtain ⟨before, after, split, place⟩ := preorder_split.2 block index entry member
    have lengths := congrArg List.length split
    simp only [List.length_append, statement_preorder_length, blockPreorder_length] at lengths
    omega

-- A statement that begins among the nodes of another one is held by it.
theorem places_nested {block : List Statement} {index : Nat} {outer inner : Statement × Nat}
    (outerMember : outer ∈ blockPlaces block index) (innerMember : inner ∈ blockPlaces block index)
    (above : outer.2 ≤ inner.2) (below : inner.2 < outer.2 + outer.1.nodeCount) :
    inner ∈ outer.1.places outer.2 := by
  obtain ⟨before, after, split, place⟩ := preorder_split.2 block index outer outerMember
  rw [blockPlaces, split, List.zipIdx_append, List.zipIdx_append, List.mem_append,
    List.mem_append] at innerMember
  rcases innerMember with (earlier | held) | later
  · have bounds := List.mem_zipIdx earlier
    omega
  · rwa [Statement.places, place]
  · have bounds := (List.mem_zipIdx later).1
    rw [List.length_append, statement_preorder_length] at bounds
    omega

/-! The nodes of a function -/

theorem node_of_place {body : List Statement} {entry : Statement × Nat} (name : String)
    (stamp : Stamp) (member : entry ∈ blockPlaces body 1) :
    entry.1.node entry.2 ∈ (Graph.ofFunction name body stamp).nodes := by
  have inside : entry.1.node entry.2 ∈ nodesFrom 1 (blockPreorder body) :=
    List.mem_map_of_mem member
  have nodes := threadFunction_preorder name body 0
  rw [Graph.ofFunction, Graph.ofPiece, nodes]
  exact List.mem_cons_of_mem _ (List.mem_append_left _ inside)

-- A node of a type that only statements have is the node of a statement.
theorem place_of_node {name : String} {body : List Statement} {stamp : Stamp} {types : List String}
    {node : Node} (member : node ∈ (Graph.ofFunction name body stamp).nodesOfType types)
    (inner : ∀ type ∈ types, type ∈ statementTypes) :
    ∃ entry ∈ blockPlaces body 1, node = entry.1.node entry.2 ∧ node.type ∈ types := by
  obtain ⟨present, typed⟩ := List.mem_filter.mp member
  rw [List.contains_iff_mem] at typed
  have nodes := threadFunction_preorder name body 0
  rw [Graph.ofFunction, Graph.ofPiece, nodes, List.mem_cons, List.mem_append,
    List.mem_singleton] at present
  rcases present with rfl | inside | rfl
  · have foreign : "start" ∉ statementTypes := by decide
    exact absurd (inner _ typed) foreign
  · obtain ⟨entry, place, rfl⟩ := List.mem_map.mp inside
    exact ⟨entry, place, rfl, typed⟩
  · have foreign : "end" ∉ statementTypes := by decide
    exact absurd (inner _ typed) foreign

/-! The arcs of a statement among all arcs -/

-- An arc that begins outside of `count` nodes from `first` on and reaches them at the first only.
def Arc.Apart (arc : Arc) (first count : Nat) : Prop :=
  (arc.source < first ∨ first + count ≤ arc.source) ∧
    (arc.target ≤ first ∨ first + count ≤ arc.target)

-- All arcs are those of a statement, told where control goes afterwards, and others apart from it.
structure Located (all : List Arc) (statement : Statement) (index : Nat) (next : Continuation) :
    Prop where
  onward : next.target < index ∨ index + statement.nodeCount ≤ next.target
  split : ∃ others : List Arc, all.Perm (others ++ statement.arcs index next) ∧
    ∀ arc ∈ others, arc.Apart index statement.nodeCount

theorem Located.mem {all : List Arc} {statement : Statement} {index : Nat} {next : Continuation}
    (located : Located all statement index next) {arc : Arc} (member : arc ∈ all) :
    arc.Apart index statement.nodeCount ∨ arc ∈ statement.arcs index next := by
  obtain ⟨-, others, split, apart⟩ := located
  rcases List.mem_append.mp (split.mem_iff.mp member) with outside | own
  · exact .inl (apart arc outside)
  · exact .inr own

theorem Located.own {all : List Arc} {statement : Statement} {index : Nat} {next : Continuation}
    (located : Located all statement index next) {arc : Arc}
    (member : arc ∈ statement.arcs index next) : arc ∈ all := by
  obtain ⟨-, others, split, -⟩ := located
  exact split.mem_iff.mpr (List.mem_append_right _ member)

theorem Located.widen {all inner others : List Arc} {statement : Statement} {index : Nat}
    {next : Continuation} (located : Located inner statement index next)
    (parts : all.Perm (others ++ inner))
    (apart : ∀ arc ∈ others, arc.Apart index statement.nodeCount) :
    Located all statement index next := by
  obtain ⟨onward, rest, split, restApart⟩ := located
  refine ⟨onward, others ++ rest, ?_, ?_⟩
  · rw [List.append_assoc]
    exact parts.trans (split.append_left others)
  · intro arc member
    rcases List.mem_append.mp member with inOthers | inRest
    · exact apart arc inOthers
    · exact restApart arc inRest

-- The arcs of a block, seen from nodes beside it.
theorem Arc.Within.apart {arc : Arc} {first count exit otherFirst otherCount : Nat}
    (within : arc.Within first count exit)
    (beside : otherFirst + otherCount ≤ first ∨ first + count ≤ otherFirst)
    (onward : exit ≤ otherFirst ∨ otherFirst + otherCount ≤ exit) :
    arc.Apart otherFirst otherCount := by
  unfold Arc.Within at within
  unfold Arc.Apart
  omega

theorem arc_apart (next : Continuation) {source first count : Nat} (pending : Option Label)
    (before : source < first) (onward : next.target ≤ first ∨ first + count ≤ next.target) :
    (next.arc source pending).Apart first count :=
  ⟨.inl before, onward⟩

theorem perm_inner_last {α : Type} (head : α) (inner others : List α) :
    (head :: inner ++ others).Perm (head :: others ++ inner) :=
  List.perm_append_comm.cons head

theorem places_located :
    (∀ (statement : Statement) (index : Nat) (next : Continuation),
      next.target < index ∨ index + statement.nodeCount ≤ next.target →
      ∀ entry ∈ statement.places index,
        ∃ onward, Located (statement.arcs index next) entry.1 entry.2 onward) ∧
    ∀ (block : List Statement) (index : Nat) (next : Continuation),
      next.target < index ∨ index + nodeCounts block ≤ next.target →
      ∀ entry ∈ blockPlaces block index,
        ∃ onward, Located (blockArcs block index next) entry.1 entry.2 onward := by
  have itself (statement : Statement) (index : Nat) (next : Continuation)
      (outside : next.target < index ∨ index + statement.nodeCount ≤ next.target) :
      ∃ onward, Located (statement.arcs index next) statement index onward :=
    ⟨next, outside, [], .refl _, by simp⟩
  apply flow_induction
  · intro statement flow index next outside entry member
    rw [places_leaf flow, List.mem_singleton] at member
    subst member
    exact itself statement index next outside
  · intro statement yes no flow yesLocated noLocated index next outside entry member
    rw [places_branch flow, List.mem_cons, List.mem_append] at member
    rcases member with rfl | inYes | inNo
    · exact itself statement index next outside
    · rw [nodeCount_branch flow] at outside
      obtain ⟨onward, located⟩ := yesLocated (index + 1) next (by omega) entry inYes
      have inside := places_inside.2 _ _ entry inYes
      have yesFirst := next.before_target yes (index + 1)
      have noFirst := next.before_target no (index + 1 + nodeCounts yes)
      rw [arcs_branch flow]
      refine ⟨onward, located.widen (perm_inner_last _ _ _) ?_⟩
      intro arc others
      rcases List.mem_cons.mp others with rfl | others
      · exact arc_apart _ _ (by omega) (by omega)
      · rcases List.mem_cons.mp others with rfl | inNo
        · exact arc_apart _ _ (by omega) (by omega)
        · exact (arcs_within.2 _ _ _ arc inNo).apart (by omega) (by omega)
    · rw [nodeCount_branch flow] at outside
      obtain ⟨onward, located⟩ :=
        noLocated (index + 1 + nodeCounts yes) next (by omega) entry inNo
      have inside := places_inside.2 _ _ entry inNo
      have yesFirst := next.before_target yes (index + 1)
      have noFirst := next.before_target no (index + 1 + nodeCounts yes)
      rw [arcs_branch flow, List.append_cons]
      refine ⟨onward, located.widen (.refl _) ?_⟩
      intro arc others
      simp only [List.mem_append, List.mem_cons, List.not_mem_nil, or_false] at others
      rcases others with (rfl | inYes) | rfl
      · exact arc_apart _ _ (by omega) (by omega)
      · exact (arcs_within.2 _ _ _ arc inYes).apart (by omega) (by omega)
      · exact arc_apart _ _ (by omega) (by omega)
  · intro statement inward outward body flow bodyLocated index next outside entry member
    rw [places_loop flow, List.mem_cons] at member
    rcases member with rfl | inBody
    · exact itself statement index next outside
    · have occupied : body ≠ [] := by
        rintro rfl
        simp at inBody
      rw [nodeCount_loop flow] at outside
      obtain ⟨onward, located⟩ :=
        bodyLocated (index + 1) (.back index) (.inl (Nat.lt_succ_self _)) entry inBody
      have inside := places_inside.2 _ _ entry inBody
      rw [arcs_loop flow, loopArcs_of_ne_nil _ _ _ occupied]
      refine ⟨onward, located.widen (perm_inner_last _ _ _) ?_⟩
      intro arc others
      simp only [List.mem_cons, List.not_mem_nil, or_false] at others
      rcases others with rfl | rfl
      · exact arc_apart ⟨index + 1, none⟩ (some inward) (by omega) (.inl inside.1)
      · exact arc_apart _ _ (by omega) (by omega)
  · simp
  · intro statement rest first others index next outside entry member
    rw [nodeCounts] at outside
    have restFirst := next.before_target rest (index + statement.nodeCount)
    rw [blockPlaces_cons, List.mem_append] at member
    rw [blockArcs]
    rcases member with here | later
    · obtain ⟨onward, located⟩ :=
        first index (next.before rest (index + statement.nodeCount)) (by omega) entry here
      have inside := places_inside.1 _ _ entry here
      refine ⟨onward, located.widen List.perm_append_comm ?_⟩
      intro arc inRest
      exact (arcs_within.2 _ _ _ arc inRest).apart (by omega) (by omega)
    · obtain ⟨onward, located⟩ := others _ next (by omega) entry later
      have inside := places_inside.2 _ _ entry later
      refine ⟨onward, located.widen (.refl _) ?_⟩
      intro arc inFirst
      exact (arcs_within.1 _ _ _ arc inFirst).apart (by omega) (by omega)

-- In a function control ends at a node behind all others.
theorem functionArcs_located (body : List Statement) (index : Nat) {entry : Statement × Nat}
    (member : entry ∈ blockPlaces body (index + 1)) :
    ∃ next, Located (functionArcs body index) entry.1 entry.2 next := by
  obtain ⟨next, located⟩ :=
    places_located.2 body (index + 1) ⟨index + 1 + nodeCounts body, none⟩ (.inr (Nat.le_refl _))
      entry member
  have inside := places_inside.2 _ _ entry member
  have first := Continuation.before_target ⟨index + 1 + nodeCounts body, none⟩ body (index + 1)
  simp only at first
  refine ⟨next, located.widen (List.Perm.refl (_ :: [] ++ _)) ?_⟩
  intro arc only
  rw [List.mem_singleton.mp only]
  exact arc_apart _ _ (by omega) (by omega)

/-! Where arcs lead -/

/-- An arc leads past the statements at some places, forward to one of them, or back to a loop that
holds the statement it comes from. -/
inductive Arc.Course (arc : Arc) (places : List (Statement × Nat)) (bound : Nat)
    (next : Continuation) : Prop where
  | past (pending : Option Label) (plain : pending ≠ some .again)
      (same : arc = next.arc arc.source pending)
  | forward (plain : arc.label ≠ some .again) (up : arc.source < arc.target)
      (below : arc.target < bound)
  | back (header : Statement) (inward outward : Label) (body : List Statement)
      (flow : header.flow = .loop inward outward body) (place : (header, arc.target) ∈ places)
      (label : arc.label = some .again) (down : arc.target < arc.source)
      (held : arc.source ≤ arc.target + nodeCounts body)

-- Only an arc that leads past depends on where control goes afterwards.
theorem Arc.Course.redirect {arc : Arc} {places more : List (Statement × Nat)} {bound higher : Nat}
    {next other : Continuation} (course : arc.Course places bound next)
    (known : ∀ entry ∈ places, entry ∈ more) (lower : bound ≤ higher)
    (past : ∀ pending, pending ≠ some .again → arc = next.arc arc.source pending →
      arc.Course more higher other) :
    arc.Course more higher other := by
  cases course with
  | past pending plain same => exact past pending plain same
  | forward plain up below => exact .forward plain up (Nat.lt_of_lt_of_le below lower)
  | back header inward outward body flow place label down held =>
    exact .back header inward outward body flow (known _ place) label down held

theorem Arc.Course.widen {arc : Arc} {places more : List (Statement × Nat)} {bound higher : Nat}
    {next : Continuation} (course : arc.Course places bound next)
    (known : ∀ entry ∈ places, entry ∈ more) (lower : bound ≤ higher) :
    arc.Course more higher next :=
  course.redirect known lower .past

-- What leads to the first statement of a block leads forward, or past the block if it is empty.
theorem before_course (next : Continuation) (block : List Statement) {source first bound : Nat}
    (places : List (Statement × Nat)) {pending : Option Label} (plain : pending ≠ some .again)
    (up : source < first) (below : first + nodeCounts block ≤ bound) :
    ((next.before block first).arc source pending).Course places bound next := by
  by_cases empty : block = []
  · subst empty
    exact .past pending plain rfl
  · have positive : nodeCounts block ≠ 0 := fun zero => empty (nodeCounts_eq_zero.mp zero)
    rw [Continuation.before_of_ne_nil _ _ empty]
    refine .forward plain up ?_
    simp only [Continuation.arc]
    omega

theorem loop_labels {statement : Statement} {inward outward : Label} {body : List Statement}
    (flow : statement.flow = .loop inward outward body) : inward ≠ .again ∧ outward ≠ .again := by
  cases statement <;> simp only [Statement.flow, Flow.loop.injEq, reduceCtorEq] at flow
  all_goals
    obtain ⟨rfl, rfl, -⟩ := flow
    simp

theorem arcs_course :
    (∀ (statement : Statement) (index : Nat) (next : Continuation),
      ∀ arc ∈ statement.arcs index next,
        arc.Course (statement.places index) (index + statement.nodeCount) next) ∧
    ∀ (block : List Statement) (index : Nat) (next : Continuation),
      ∀ arc ∈ blockArcs block index next,
        arc.Course (blockPlaces block index) (index + nodeCounts block) next := by
  apply flow_induction
  · intro statement flow index next arc member
    rw [arcs_leaf flow, List.mem_singleton] at member
    subst member
    exact .past none (by simp) rfl
  · intro statement yes no flow yesCourse noCourse index next arc member
    rw [arcs_branch flow, List.mem_append, List.mem_cons, List.mem_cons] at member
    rw [places_branch flow, nodeCount_branch flow]
    rcases member with (rfl | inYes) | rfl | inNo
    · exact before_course _ _ _ (by simp) (by omega) (by omega)
    · exact (yesCourse _ _ arc inYes).widen (by simp +contextual) (by omega)
    · exact before_course _ _ _ (by simp) (by omega) (by omega)
    · exact (noCourse _ _ arc inNo).widen (by simp +contextual) (by omega)
  · intro statement inward outward body flow bodyCourse index next arc member
    obtain ⟨inwardPlain, outwardPlain⟩ := loop_labels flow
    have past : (next.arc index (some outward)).Course (statement.places index)
        (index + statement.nodeCount) next := .past (some outward) (by simpa) rfl
    rw [arcs_loop flow] at member
    by_cases empty : body = []
    · subst empty
      rw [List.mem_singleton.mp member]
      exact past
    · rw [loopArcs_of_ne_nil _ _ _ empty, List.mem_append, List.mem_cons,
        List.mem_singleton] at member
      rcases member with (rfl | inBody) | rfl
      · have entered := before_course next body (statement.places index)
          (show some inward ≠ some .again by simpa) (Nat.lt_succ_self index)
          (show index + 1 + nodeCounts body ≤ index + statement.nodeCount by
            rw [nodeCount_loop flow]
            omega)
        rwa [Continuation.before_of_ne_nil _ _ empty] at entered
      · rw [places_loop flow, nodeCount_loop flow]
        refine (bodyCourse _ _ arc inBody).redirect (by simp +contextual) (by omega) ?_
        -- What leads past the body leads back to its loop.
        intro pending plain same
        obtain ⟨above, below⟩ := (arcs_within.2 _ _ _ arc inBody).1
        rw [same]
        exact .back statement inward outward body flow
          (by simp [Continuation.arc, Continuation.back]) rfl above
          (by simp only [Continuation.arc, Continuation.back]; omega)
      · exact past
  · intro index next arc member
    simp [blockArcs] at member
  · intro statement rest first others index next arc member
    rw [blockArcs, List.mem_append] at member
    rw [blockPlaces_cons, nodeCounts, ← Nat.add_assoc]
    rcases member with here | later
    · refine (first _ _ arc here).redirect (by simp +contextual) (by omega) ?_
      intro pending plain same
      rw [same]
      exact before_course _ _ _ plain (arcs_within.1 _ _ _ arc here).1.2 (Nat.le_refl _)
    · exact (others _ _ arc later).widen (by simp +contextual) (Nat.le_refl _)

theorem arcs_past :
    (∀ (statement : Statement) (index : Nat) (next : Continuation),
      ∃ source pending, next.arc source pending ∈ statement.arcs index next) ∧
    ∀ (block : List Statement) (index : Nat) (next : Continuation), block ≠ [] →
      ∃ source pending, next.arc source pending ∈ blockArcs block index next := by
  apply flow_induction
  · intro statement flow index next
    exact ⟨index, none, by simp [arcs_leaf flow]⟩
  · intro statement yes no flow yesPast _ index next
    rw [arcs_branch flow]
    by_cases empty : yes = []
    · subst empty
      exact ⟨index, some .yes, by simp⟩
    · obtain ⟨source, pending, member⟩ := yesPast (index + 1) next empty
      exact ⟨source, pending, by simp [member]⟩
  · intro statement inward outward body flow _ index next
    exact ⟨index, some outward, by simp [arcs_loop flow, loopArcs]⟩
  · intro index next nonempty
    exact absurd rfl nonempty
  · intro statement rest first others index next _
    rw [blockArcs]
    by_cases empty : rest = []
    · subst empty
      obtain ⟨source, pending, member⟩ := first index next
      exact ⟨source, pending, List.mem_append_left _ member⟩
    · obtain ⟨source, pending, member⟩ := others (index + statement.nodeCount) next empty
      exact ⟨source, pending, List.mem_append_right _ member⟩

theorem functionArcs_course (body : List Statement) (index : Nat) :
    ∀ arc ∈ functionArcs body index,
      arc.Course (blockPlaces body (index + 1)) (index + 1 + nodeCounts body)
        ⟨index + 1 + nodeCounts body, none⟩ := by
  intro arc member
  rcases List.mem_cons.mp member with rfl | inside
  · exact before_course _ _ _ (by simp) (Nat.lt_succ_self index) (Nat.le_refl _)
  · exact arcs_course.2 _ _ _ arc inside

end ControlFlow
