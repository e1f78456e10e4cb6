import ControlFlow.Proofs.Graph.Arena

set_option autoImplicit false

namespace ControlFlow

structure Visit where
  statement : Statement
  frontier : List Exit
  before : Arena
  -- What the two sides of a branch left through.
  sides : Option (List Exit × List Exit)
  exits : List Exit
  after : Arena

structure Seen where
  exits : List Exit
  visits : List Visit

namespace Arena

abbrev Sided := Seen × Option (List Exit × List Exit)

def quiet (work : Making (List Exit)) : Making Sided := do
  let exits ← work
  return (⟨exits, []⟩, none)

def watched (statement : Statement) (frontier : List Exit) (work : Making Sided) :
    Making Seen := do
  let before ← get
  let inner ← work
  let after ← get
  let exits := inner.1.exits
  return ⟨exits, ⟨statement, frontier, before, inner.2, exits, after⟩ :: inner.1.visits⟩

def besides (both : Seen × Seen) : Sided :=
  (⟨mergeExits both.1.exits both.2.exits, both.1.visits ++ both.2.visits⟩,
    some (both.1.exits, both.2.exits))

def outside (leaving : Label) (body : Nat × Seen) : Sided :=
  (⟨[⟨body.1, some leaving⟩], body.2.visits⟩, none)

def watching : Handling (List Exit → Making Seen) where
  process statement type label details location frontier :=
    watched statement frontier (quiet (process frontier type label details location))
  placeholder statement kind location frontier :=
    watched statement frontier (quiet (placeholder frontier kind location))
  branch statement condition location yes no frontier :=
    watched statement frontier (besides <$> sides frontier condition location yes no)
  loop statement type condition entering leaving location body frontier :=
    watched statement frontier
      (outside leaving <$> around Seen.exits frontier type condition entering location body)
  nothing frontier := return ⟨frontier, []⟩
  andThen first rest frontier := do
    let seen ← first frontier
    let later ← rest seen.exits
    return ⟨later.exits, seen.visits ++ later.visits⟩

end Arena

def Statement.watch (statement : Statement) : List Exit → Making Seen :=
  statement.handle Arena.watching

def watchAll (block : List Statement) : List Exit → Making Seen :=
  handleAll Arena.watching block

theorem watchAll_cons (statement : Statement) (rest : List Statement) (frontier : List Exit) :
    watchAll (statement :: rest) frontier = (do
      let seen ← statement.watch frontier
      let later ← watchAll rest seen.exits
      return ⟨later.exits, seen.visits ++ later.visits⟩) := by
  rw [watchAll, handleAll_cons]
  rfl

section

variable {statement : Statement}

theorem watch_leaf (flow : statement.flow = .leaf) (frontier : List Exit) :
    statement.watch frontier =
      Arena.watched statement frontier (Arena.quiet (statement.make frontier)) := by
  rcases handle_leaf flow with ⟨type, label, details, location, -, handled⟩ |
    ⟨kind, location, handled⟩
  all_goals
    rw [Statement.watch, Statement.make, handled, handled]
    rfl

theorem watch_branch {yes no : List Statement} (flow : statement.flow = .branch yes no) :
    ∃ (condition : String) (location : Location), ∀ frontier,
      statement.watch frontier = Arena.watched statement frontier
        (Arena.besides <$>
          Arena.sides frontier condition location (watchAll yes) (watchAll no)) ∧
      statement.make frontier =
        Arena.branch frontier condition location (makeAll yes) (makeAll no) := by
  obtain ⟨condition, location, handled⟩ := handle_branch flow
  refine ⟨condition, location, fun frontier => ?_⟩
  rw [Statement.watch, Statement.make, handled, handled]
  exact ⟨rfl, rfl⟩

theorem watch_loop {inward outward : Label} {body : List Statement}
    (flow : statement.flow = .loop inward outward body) :
    ∃ (type : String) (condition : Option String) (location : Location), ∀ frontier,
      statement.watch frontier = Arena.watched statement frontier
        (Arena.outside outward <$>
          Arena.around Seen.exits frontier type condition inward location (watchAll body)) ∧
      statement.make frontier =
        Arena.loop frontier type condition inward outward location (makeAll body) := by
  obtain ⟨type, condition, location, -, handled⟩ := handle_loop flow
  refine ⟨type, condition, location, fun frontier => ?_⟩
  rw [Statement.watch, Statement.make, handled, handled]
  exact ⟨rfl, rfl⟩

end

/-! Watching changes nothing -/

namespace Arena

theorem watched_erase (statement : Statement) (frontier : List Exit) (work : Making Sided) :
    Seen.exits <$> watched statement frontier work = (Seen.exits ∘ Prod.fst) <$> work := by
  funext arena
  change EStateM.run _ arena = EStateM.run _ arena
  simp only [watched, map_eq_pure_bind, bind_assoc, pure_bind, EStateM.run_bind, EStateM.run_get,
    Function.comp_apply]

section

variable {α β : Type} (see : α → β)

theorem sides_map (frontier : List Exit) (condition : String) (location : Location)
    (yes no : List Exit → Making α) :
    Prod.map see see <$> sides frontier condition location yes no =
      sides frontier condition location (see <$> yes ·) (see <$> no ·) := by
  simp only [sides, map_bind, bind_map_left, map_pure, Prod.map_apply]

theorem around_map (exitsOf : β → List Exit) (frontier : List Exit) (type : String)
    (condition : Option String) (entering : Label) (location : Location)
    (body : List Exit → Making α) :
    Prod.map id see <$> around (exitsOf ∘ see) frontier type condition entering location body =
      around exitsOf frontier type condition entering location (see <$> body ·) := by
  simp only [around, map_bind, bind_map_left, map_pure, Prod.map_apply, Function.comp_apply, id]

end

theorem branch_erase (frontier : List Exit) (condition : String) (location : Location)
    (yes no : List Exit → Making Seen) :
    (Seen.exits ∘ Prod.fst) <$> besides <$> sides frontier condition location yes no =
      branch frontier condition location (Seen.exits <$> yes ·) (Seen.exits <$> no ·) := by
  rw [branch, ← sides_map]
  simp only [map_eq_pure_bind, bind_assoc, pure_bind]
  rfl

theorem loop_erase (frontier : List Exit) (type : String) (condition : Option String)
    (entering leaving : Label) (location : Location) (body : List Exit → Making Seen) :
    (Seen.exits ∘ Prod.fst) <$> outside leaving <$>
        around Seen.exits frontier type condition entering location body =
      loop frontier type condition entering leaving location (Seen.exits <$> body ·) := by
  rw [loop, ← around_map]
  simp only [map_eq_pure_bind, bind_assoc, pure_bind]
  rfl

end Arena

theorem watch_erase :
    (∀ (statement : Statement) (frontier : List Exit),
      Seen.exits <$> statement.watch frontier = statement.make frontier) ∧
    ∀ (block : List Statement) (frontier : List Exit),
      Seen.exits <$> watchAll block frontier = makeAll block frontier := by
  apply flow_induction
  · intro statement flow frontier
    rw [watch_leaf flow, Arena.watched_erase]
    simp [Arena.quiet]
  · intro statement yes no flow yesErased noErased frontier
    obtain ⟨condition, location, equations⟩ := watch_branch flow
    rw [(equations frontier).1, (equations frontier).2, Arena.watched_erase, Arena.branch_erase]
    simp only [yesErased, noErased]
  · intro statement inward outward body flow erased frontier
    obtain ⟨type, condition, location, equations⟩ := watch_loop flow
    rw [(equations frontier).1, (equations frontier).2, Arena.watched_erase, Arena.loop_erase]
    simp only [erased]
  · intro frontier
    rw [watchAll, makeAll, handleAll_nil, handleAll_nil]
    rfl
  · intro statement rest first others frontier
    simp only [watchAll_cons, makeAll_cons, ← first, ← funext others, map_eq_pure_bind, bind_assoc,
      pure_bind]

/-! What is reserved -/

namespace Arena

def Reserved (arena : Arena) (node : Nat) : Prop :=
  node < arena.slots.length ∧ arena.index.lookup (nodeId node) = some node

/-- Places that control can leave from: there is one, none is listed twice, all are reserved. -/
structure IsFrontier (arena : Arena) (frontier : List Exit) : Prop where
  nonempty : frontier ≠ []
  distinct : frontier.Nodup
  reserved : ∀ e ∈ frontier, arena.Reserved e.node

structure Extends (before after : Arena) : Prop where
  size : before.slots.length ≤ after.slots.length
  kept : ∀ node, before.Reserved node → after.Reserved node

-- Slots may have been filled, none was added.
structure SameIds (before after : Arena) : Prop where
  size : after.slots.length = before.slots.length
  index : after.index = before.index

section

variable {arena middle after : Arena} {frontier : List Exit}

theorem Extends.trans (first : arena.Extends middle) (second : middle.Extends after) :
    arena.Extends after :=
  ⟨first.size.trans second.size, fun node known => second.kept node (first.kept node known)⟩

theorem SameIds.extends (same : arena.SameIds after) : arena.Extends after where
  size := same.size.ge
  kept node known := by
    rw [Reserved, same.size, same.index]
    exact known

theorem SameIds.trans (first : arena.SameIds middle) (second : middle.SameIds after) :
    arena.SameIds after :=
  ⟨second.size.trans first.size, second.index.trans first.index⟩

theorem IsFrontier.extend (holds : arena.IsFrontier frontier) (grows : arena.Extends after) :
    after.IsFrontier frontier where
  nonempty := holds.nonempty
  distinct := holds.distinct
  reserved e member := grows.kept e.node (holds.reserved e member)

theorem isFrontier_singleton {node : Nat} (reserved : arena.Reserved node)
    (label : Option Label) : arena.IsFrontier [⟨node, label⟩] where
  nonempty := List.cons_ne_nil _ _
  distinct := List.nodup_singleton _
  reserved e member := by
    rw [List.mem_singleton] at member
    subst member
    exact reserved

theorem run_reserve (arena : Arena) :
    ∃ next, reserve.run arena = .ok arena.slots.length next ∧ arena.Extends next ∧
      next.slots.length = arena.slots.length + 1 ∧ next.Reserved arena.slots.length := by
  refine ⟨_, rfl, ⟨by simp, ?_⟩, by simp, by simp, by simp⟩
  intro node known
  have other : (nodeId node == nodeId arena.slots.length) = false := by
    rw [beq_eq_false_iff_ne]
    intro same
    exact known.1.ne (nodeId_injective same)
  refine ⟨by simpa using Nat.lt_succ_of_lt known.1, ?_⟩
  rw [List.lookup_cons, other]
  exact known.2

theorem run_addEdges (arcs : List Arc) (arena : Arena) :
    ∃ next, (addEdges arcs).run arena = .ok () next ∧ arena.SameIds next := by
  induction arcs generalizing arena with
  | nil => exact ⟨arena, rfl, rfl, rfl⟩
  | cons arc rest ih =>
    obtain ⟨next, ran, same⟩ := ih
      { arena with
        edges := arena.edges ++ [arc.toEdge arena.edgeCount]
        edgeCount := arena.edgeCount + 1 }
    exact ⟨next, ran, same.size, same.index⟩

theorem run_emit (node : Node) {position : Nat} (own : node.id = nodeId position)
    (reserved : arena.Reserved position) :
    ∃ next, (emit node).run arena = .ok () next ∧ arena.SameIds next := by
  have found : arena.index.lookup node.id = some position := own ▸ reserved.2
  refine ⟨{ arena with slots := arena.slots.set position (some node) }, ?_, by simp, rfl⟩
  simp only [emit, EStateM.run_bind, EStateM.run_get, found]
  rfl

theorem run_size (arena : Arena) : size.run arena = .ok arena.slots.length arena := rfl

theorem run_idsSince (mark : Nat) (arena : Arena) :
    (idsSince mark).run arena = .ok (idRange mark (arena.slots.length - mark)) arena := rfl

-- A node is reserved, and the frontier is led to it.
theorem run_open (frontier : List Exit) (arena : Arena) :
    ∃ middle opened, reserve.run arena = .ok arena.slots.length middle ∧
      (addEdges (connect frontier arena.slots.length none)).run middle = .ok () opened ∧
      arena.Extends opened ∧ opened.slots.length = arena.slots.length + 1 ∧
      opened.Reserved arena.slots.length := by
  obtain ⟨middle, reserves, grows, size, reserved⟩ := run_reserve arena
  obtain ⟨opened, links, same⟩ := run_addEdges (connect frontier arena.slots.length none) middle
  exact ⟨middle, opened, reserves, links, grows.trans same.extends, same.size.trans size,
    same.extends.kept _ reserved⟩

theorem run_process (frontier : List Exit) (type label : String) (details : Option String)
    (location : Location) (arena : Arena) :
    ∃ after, (process frontier type label details location).run arena =
        .ok [⟨arena.slots.length, none⟩] after ∧
      arena.Extends after ∧ after.Reserved arena.slots.length := by
  obtain ⟨middle, opened, reserves, links, grows, -, reserved⟩ := run_open frontier arena
  obtain ⟨after, fills, same⟩ := run_emit ⟨nodeId arena.slots.length, type,
    .process label details location⟩ rfl reserved
  refine ⟨after, ?_, grows.trans same.extends, same.extends.kept _ reserved⟩
  simp only [process, EStateM.run_bind, reserves, links, fills, EStateM.run_pure]

theorem run_placeholder (frontier : List Exit) (kind : String) (location : Location)
    (arena : Arena) :
    ∃ after, (placeholder frontier kind location).run arena =
        .ok [⟨arena.slots.length, none⟩] after ∧
      arena.Extends after ∧ after.Reserved arena.slots.length := by
  obtain ⟨middle, reserves, grows, -, reserved⟩ := run_reserve arena
  let reported : Arena := { middle with
    diagnostics := middle.diagnostics ++ [placeholderMessage kind arena.slots.length] }
  have reports : (report (placeholderMessage kind arena.slots.length)).run middle =
      .ok () reported := rfl
  obtain ⟨opened, links, linked⟩ :=
    run_addEdges (connect frontier arena.slots.length none) reported
  have kept : opened.Reserved arena.slots.length := linked.extends.kept _ reserved
  obtain ⟨after, fills, filled⟩ := run_emit ⟨nodeId arena.slots.length, "expression",
    .process ("<" ++ kind ++ ">") (some "unsupported") location⟩ rfl kept
  have same : middle.SameIds after := SameIds.trans ⟨linked.size, linked.index⟩ filled
  refine ⟨after, ?_, grows.trans same.extends, same.extends.kept _ reserved⟩
  simp only [placeholder, EStateM.run_bind, reserves, reports, links, fills, EStateM.run_pure]

end

end Arena

theorem run_leaf {statement : Statement} (flow : statement.flow = .leaf) (frontier : List Exit)
    (arena : Arena) :
    ∃ after, (statement.make frontier).run arena = .ok [⟨arena.slots.length, none⟩] after ∧
      arena.Extends after ∧ after.Reserved arena.slots.length := by
  rcases handle_leaf flow with ⟨type, label, details, location, -, handled⟩ |
    ⟨kind, location, handled⟩
  · rw [Statement.make, handled]
    exact Arena.run_process frontier type label details location arena
  · rw [Statement.make, handled]
    exact Arena.run_placeholder frontier kind location arena

/-! Watched runs -/

/-- Frontiers are handed on and returned. The two sides of a branch leave through different exits,
so putting them together is putting one list behind the other. -/
structure Visit.Sound (visit : Visit) : Prop where
  handed : visit.before.IsFrontier visit.frontier
  returned : visit.after.IsFrontier visit.exits
  merged : ∀ yes no, visit.statement.flow = .branch yes no →
    ∃ yesExits noExits, visit.sides = some (yesExits, noExits) ∧ yesExits.Disjoint noExits ∧
      mergeExits yesExits noExits = yesExits ++ noExits ∧ visit.exits = yesExits ++ noExits

/-- A run from an arena on which these statements were visited, one after the other. -/
structure Arena.Passes (arena : Arena) (statements : List Statement) (seen : Seen)
    (after : Arena) : Prop where
  grows : arena.Extends after
  exits : after.IsFrontier seen.exits
  sound : ∀ visit ∈ seen.visits, visit.Sound
  visited : seen.visits.map Visit.statement = statements

-- Exits have slots that were added in the run, unless there was nothing to do.
def Arena.Fresh (arena : Arena) (block : List Statement) (frontier exits : List Exit) : Prop :=
  ∀ e ∈ exits, arena.slots.length ≤ e.node ∨ block = [] ∧ e ∈ frontier

section

variable {arena middle last after : Arena} {frontier : List Exit} {statements more : List Statement}
  {seen later : Seen}

theorem Arena.Passes.append (passes : arena.Passes statements seen middle)
    (goesOn : middle.Passes more later after) :
    arena.Passes (statements ++ more) ⟨later.exits, seen.visits ++ later.visits⟩ after where
  grows := passes.grows.trans goesOn.grows
  exits := goesOn.exits
  sound := by
    intro visit member
    rcases List.mem_append.mp member with before | behind
    · exact passes.sound visit before
    · exact goesOn.sound visit behind
  visited := by rw [List.map_append, passes.visited, goesOn.visited]

theorem Arena.Passes.leaveBy (passes : arena.Passes statements seen after)
    (holds : after.IsFrontier frontier) :
    arena.Passes statements ⟨frontier, seen.visits⟩ after :=
  ⟨passes.grows, holds, passes.sound, passes.visited⟩

theorem Arena.Passes.widen (passes : middle.Passes statements seen last)
    (before : arena.Extends middle) (behind : last.Extends after) :
    arena.Passes statements seen after where
  grows := before.trans (passes.grows.trans behind)
  exits := passes.exits.extend behind
  sound := passes.sound
  visited := passes.visited

-- One more statement is visited, around all that its run visits.
theorem watched_passes {work : Making Arena.Sided} {sides : Option (List Exit × List Exit)}
    (statement : Statement) (ran : work.run arena = .ok (seen, sides) after)
    (passes : arena.Passes statements seen after) (holds : arena.IsFrontier frontier)
    (merged : ∀ yes no, statement.flow = .branch yes no →
      ∃ yesExits noExits, sides = some (yesExits, noExits) ∧ yesExits.Disjoint noExits ∧
        mergeExits yesExits noExits = yesExits ++ noExits ∧ seen.exits = yesExits ++ noExits) :
    ∃ visits, (Arena.watched statement frontier work).run arena =
        .ok ⟨seen.exits, visits⟩ after ∧
      arena.Passes (statement :: statements) ⟨seen.exits, visits⟩ after := by
  refine ⟨⟨statement, frontier, arena, sides, seen.exits, after⟩ :: seen.visits, ?_,
    passes.grows, passes.exits, ?_, ?_⟩
  · simp only [Arena.watched, EStateM.run_bind, EStateM.run_get, ran, EStateM.run_pure]
  · intro visit member
    rcases List.mem_cons.mp member with rfl | inside
    · exact ⟨holds, passes.exits, merged⟩
    · exact passes.sound visit inside
  · rw [List.map_cons, passes.visited]

-- What both sides leave through differs by its slot or, if both leave through the branch, by label.
theorem sides_disjoint {index : Nat} {yes no : List Statement} {yesExits noExits : List Exit}
    (size : arena.slots.length = index + 1) (grows : arena.Extends middle)
    (yesHolds : middle.IsFrontier yesExits)
    (yesFresh : arena.Fresh yes [⟨index, some .yes⟩] yesExits)
    (noFresh : middle.Fresh no [⟨index, some .no⟩] noExits) : yesExits.Disjoint noExits := by
  intro e left right
  have below := (yesHolds.reserved e left).1
  have growth := grows.size
  rcases noFresh e right with above | ⟨-, own⟩
  · omega
  · obtain rfl := List.mem_singleton.mp own
    rcases yesFresh _ left with above | ⟨-, same⟩
    · simp only at above
      omega
    · simp at same

theorem isFrontier_append {left right : List Exit} (leftHolds : arena.IsFrontier left)
    (rightHolds : arena.IsFrontier right) (apart : left.Disjoint right) :
    arena.IsFrontier (left ++ right) where
  nonempty := List.append_ne_nil_of_left_ne_nil leftHolds.nonempty right
  distinct := leftHolds.distinct.append rightHolds.distinct apart
  reserved e member :=
    (List.mem_append.mp member).elim (leftHolds.reserved e) (rightHolds.reserved e)

theorem fresh_side {index : Nat} {block : List Statement} {label : Option Label}
    {exits : List Exit} (size : index ≤ arena.slots.length)
    (fresh : arena.Fresh block [⟨index, label⟩] exits) : ∀ e ∈ exits, index ≤ e.node := by
  intro e member
  rcases fresh e member with above | ⟨-, own⟩
  · omega
  · obtain rfl := List.mem_singleton.mp own
    exact le_rfl

end

-- What watching a block comes to, whatever frontier and arena it begins with.
def Watchable (block : List Statement) : Prop :=
  ∀ frontier arena, Arena.IsFrontier arena frontier →
    ∃ seen after, (watchAll block frontier).run arena = .ok seen after ∧
      arena.Passes (blockPreorder block) seen after ∧ arena.Fresh block frontier seen.exits

section

variable {yes no body : List Statement} (frontier : List Exit) (arena : Arena)

theorem sides_passes (yesWatchable : Watchable yes) (noWatchable : Watchable no)
    (condition : String) (location : Location) :
    ∃ yesSeen noSeen after,
      (Arena.sides frontier condition location (watchAll yes) (watchAll no)).run arena =
        .ok (yesSeen, noSeen) after ∧
      arena.Passes (blockPreorder yes ++ blockPreorder no)
        ⟨yesSeen.exits ++ noSeen.exits, yesSeen.visits ++ noSeen.visits⟩ after ∧
      yesSeen.exits.Disjoint noSeen.exits ∧
      ∀ e ∈ yesSeen.exits ++ noSeen.exits, arena.slots.length ≤ e.node := by
  obtain ⟨_, opened, reserves, links, grows, size, reserved⟩ := Arena.run_open frontier arena
  obtain ⟨yesSeen, middle, yesRun, yesPasses, yesFresh⟩ :=
    yesWatchable _ opened (Arena.isFrontier_singleton reserved (some .yes))
  have still := yesPasses.grows.kept _ reserved
  obtain ⟨noSeen, last, noRun, noPasses, noFresh⟩ :=
    noWatchable _ middle (Arena.isFrontier_singleton still (some .no))
  have apart := sides_disjoint size yesPasses.grows yesPasses.exits yesFresh noFresh
  have both := isFrontier_append (yesPasses.exits.extend noPasses.grows) noPasses.exits apart
  obtain ⟨after, fills, filled⟩ := Arena.run_emit ⟨nodeId arena.slots.length, "if",
    .control (some condition)
      [("then", idRange opened.slots.length (middle.slots.length - opened.slots.length)),
       ("else", idRange middle.slots.length (last.slots.length - middle.slots.length))] location⟩
    rfl (noPasses.grows.kept _ still)
  have passes := ((yesPasses.append noPasses).leaveBy both).widen grows filled.extends
  refine ⟨yesSeen, noSeen, after, ?_, passes, apart, ?_⟩
  · simp only [Arena.sides, EStateM.run_bind, reserves, links, Arena.run_size, yesRun,
      Arena.run_idsSince, noRun, fills, EStateM.run_pure]
  · intro e member
    have growth := yesPasses.grows.size
    rcases List.mem_append.mp member with left | right
    · exact fresh_side (by omega) yesFresh e left
    · exact fresh_side (by omega) noFresh e right

theorem around_passes (watchable : Watchable body) (type : String) (condition : Option String)
    (entering leaving : Label) (location : Location) :
    ∃ seen after,
      (Arena.around Seen.exits frontier type condition entering location (watchAll body)).run
        arena = .ok (arena.slots.length, seen) after ∧
      arena.Passes (blockPreorder body) ⟨[⟨arena.slots.length, some leaving⟩], seen.visits⟩
        after := by
  obtain ⟨_, opened, reserves, links, grows, size, reserved⟩ := Arena.run_open frontier arena
  obtain ⟨seen, last, ran, passes, -⟩ :=
    watchable _ opened (Arena.isFrontier_singleton reserved (some entering))
  have still := passes.grows.kept _ reserved
  have leaves := passes.leaveBy (Arena.isFrontier_singleton still (some leaving))
  let ids := idRange opened.slots.length (last.slots.length - opened.slots.length)
  obtain ⟨closed, closes, linked⟩ := Arena.run_addEdges
    (if ids.isEmpty then [] else connect seen.exits arena.slots.length (some .again)) last
  obtain ⟨after, fills, filled⟩ := Arena.run_emit
    ⟨nodeId arena.slots.length, type, .control condition [("body", ids)] location⟩ rfl
    (linked.extends.kept _ still)
  refine ⟨seen, after, ?_, leaves.widen grows (linked.trans filled).extends⟩
  simp only [Arena.around, EStateM.run_bind, reserves, links, Arena.run_size, ran,
    Arena.run_idsSince, ids, closes, fills, EStateM.run_pure]

end

theorem watch_passes :
    (∀ (statement : Statement) (frontier : List Exit) (arena : Arena),
      arena.IsFrontier frontier →
        ∃ seen after, (statement.watch frontier).run arena = .ok seen after ∧
          arena.Passes statement.preorder seen after ∧
          ∀ e ∈ seen.exits, arena.slots.length ≤ e.node) ∧
    ∀ block, Watchable block := by
  apply flow_induction
  · intro statement flow frontier arena holds
    obtain ⟨after, made, grows, reserved⟩ := run_leaf flow frontier arena
    have ran : (Arena.quiet (statement.make frontier)).run arena =
        .ok (⟨[⟨arena.slots.length, none⟩], []⟩, none) after := by
      simp only [Arena.quiet, EStateM.run_bind, made, EStateM.run_pure]
    have passes : arena.Passes [] ⟨[⟨arena.slots.length, none⟩], []⟩ after :=
      ⟨grows, Arena.isFrontier_singleton reserved none, by simp, rfl⟩
    obtain ⟨visits, watches, visited⟩ := watched_passes statement ran passes holds
      (by simp [flow])
    rw [watch_leaf flow, preorder_leaf flow]
    exact ⟨_, after, watches, visited, by simp⟩
  · intro statement yes no flow yesWatchable noWatchable frontier arena holds
    obtain ⟨condition, location, equations⟩ := watch_branch flow
    obtain ⟨yesSeen, noSeen, after, ran, passes, apart, fresh⟩ :=
      sides_passes frontier arena yesWatchable noWatchable condition location
    have merged := mergeExits_eq_append _ _ passes.exits.distinct
    have beside : (Arena.besides <$>
        Arena.sides frontier condition location (watchAll yes) (watchAll no)).run arena =
        .ok (⟨yesSeen.exits ++ noSeen.exits, yesSeen.visits ++ noSeen.visits⟩,
          some (yesSeen.exits, noSeen.exits)) after := by
      rw [map_eq_pure_bind, EStateM.run_bind, ran, ← merged]
      rfl
    obtain ⟨visits, watches, visited⟩ := watched_passes statement beside passes holds
      fun _ _ _ => ⟨yesSeen.exits, noSeen.exits, rfl, apart, merged, rfl⟩
    rw [(equations frontier).1, preorder_branch flow]
    exact ⟨_, after, watches, visited, fresh⟩
  · intro statement inward outward body flow watchable frontier arena holds
    obtain ⟨type, condition, location, equations⟩ := watch_loop flow
    obtain ⟨seen, after, ran, passes⟩ :=
      around_passes frontier arena watchable type condition inward outward location
    have outer : (Arena.outside outward <$> Arena.around Seen.exits frontier type condition inward
        location (watchAll body)).run arena =
        .ok (⟨[⟨arena.slots.length, some outward⟩], seen.visits⟩, none) after := by
      rw [map_eq_pure_bind, EStateM.run_bind, ran]
      rfl
    obtain ⟨visits, watches, visited⟩ := watched_passes statement outer passes holds
      (by simp [flow])
    rw [(equations frontier).1, preorder_loop flow]
    exact ⟨_, after, watches, visited, by simp⟩
  · intro frontier arena holds
    have passes : arena.Passes [] ⟨frontier, []⟩ arena :=
      ⟨⟨le_rfl, fun _ known => known⟩, holds, by simp, rfl⟩
    refine ⟨⟨frontier, []⟩, arena, by rw [watchAll, handleAll_nil]; rfl, passes, ?_⟩
    intro e member
    exact .inr ⟨rfl, member⟩
  · intro statement rest first others frontier arena holds
    obtain ⟨seen, middle, ran, passes, fresh⟩ := first frontier arena holds
    obtain ⟨later, after, goesOn, restPasses, restFresh⟩ := others seen.exits middle passes.exits
    refine ⟨_, after, ?_, passes.append restPasses, ?_⟩
    · simp only [watchAll_cons, EStateM.run_bind, ran, goesOn, EStateM.run_pure]
    · intro e member
      rcases restFresh e member with above | ⟨-, before⟩
      · exact .inl (passes.grows.size.trans above)
      · exact .inl (fresh e before)

theorem frontiers_kept (items : List BodyItem) (frontier : List Exit) (arena : Arena)
    (holds : arena.IsFrontier frontier) :
    ∃ seen after,
      (watchAll (items.map BodyItem.statement) frontier).run arena = .ok seen after ∧
      (makeItems items frontier).run arena = .ok seen.exits after ∧
      seen.visits.map Visit.statement = blockPreorder (items.map BodyItem.statement) ∧
      (∀ visit ∈ seen.visits, visit.Sound) ∧
      after.IsFrontier seen.exits ∧
      (items ≠ [] → ∀ e ∈ seen.exits, after.Reserved e.node ∧ ¬arena.Reserved e.node) := by
  obtain ⟨seen, after, ran, passes, fresh⟩ :=
    watch_passes.2 (items.map BodyItem.statement) frontier arena holds
  have made : (makeItems items frontier).run arena = .ok seen.exits after := by
    rw [makeItems_eq, ← watch_erase.2, map_eq_pure_bind, EStateM.run_bind, ran]
    rfl
  refine ⟨seen, after, ran, made, passes.visited, passes.sound, passes.exits, ?_⟩
  intro nonempty e member
  refine ⟨passes.exits.reserved e member, fun before => ?_⟩
  rcases fresh e member with above | ⟨empty, -⟩
  · exact Nat.not_lt.mpr above before.1
  · exact nonempty (List.map_eq_nil_iff.mp empty)

-- The inner branch has two empty sides, the outer one has one.
def nestedItems : List BodyItem :=
  [.foreign .null,
    .loaded (.branch "a" [.branch "b" [] none .unknown] (some []) .unknown)]

theorem frontiers_kept_nested :
    Arena.begun.IsFrontier [⟨0, none⟩] ∧
    ∃ seen after, (watchAll (nestedItems.map BodyItem.statement) [⟨0, none⟩]).run Arena.begun =
        .ok seen after ∧
      seen.exits = [⟨3, some .yes⟩, ⟨3, some .no⟩, ⟨2, some .no⟩] ∧ seen.visits.length = 3 ∧
      (∀ visit ∈ seen.visits, visit.Sound) ∧
      ∀ e ∈ seen.exits, after.Reserved e.node ∧ ¬Arena.begun.Reserved e.node := by
  have holds : Arena.begun.IsFrontier [⟨0, none⟩] :=
    Arena.isFrontier_singleton ⟨by decide, by decide +kernel⟩ none
  obtain ⟨seen, after, ran, made, visited, sound, -, fresh⟩ :=
    frontiers_kept nestedItems [⟨0, none⟩] Arena.begun holds
  have known : (makeItems nestedItems [⟨0, none⟩]).run' Arena.begun =
      some [⟨3, some .yes⟩, ⟨3, some .no⟩, ⟨2, some .no⟩] := by decide +kernel
  have exits : seen.exits = [⟨3, some .yes⟩, ⟨3, some .no⟩, ⟨2, some .no⟩] := by
    have taken : (makeItems nestedItems [⟨0, none⟩]).run' Arena.begun = some seen.exits := by
      change (match (makeItems nestedItems [⟨0, none⟩]).run Arena.begun with
        | .ok value _ => some value
        | .error _ _ => none) = some seen.exits
      rw [made]
    exact Option.some.inj (taken.symm.trans known)
  have count := congrArg List.length visited
  rw [List.length_map] at count
  exact ⟨holds, seen, after, ran, exits, count, sound, fresh (by simp [nestedItems])⟩

end ControlFlow
