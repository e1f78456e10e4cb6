import ControlFlow.Graph.Thread

set_option autoImplicit false

namespace ControlFlow

-- How a statement takes part in control flow. A loop is entered and left under its own labels.
inductive Flow where
  | leaf
  | branch (yes no : List Statement)
  | loop (inward outward : Label) (body : List Statement)

def Statement.flow : Statement → Flow
  | .branch _ yes no _ => .branch yes (no.getD [])
  | .forLoop _ _ _ body _ => .loop .enter .leave body
  | .whileLoop _ body _ => .loop .yes .no body
  | .function .. | .declaration .. | .ret .. | .expression .. | .unknown .. => .leaf

theorem flow_induction {P : Statement → Prop} {Q : List Statement → Prop}
    (leaf : ∀ statement, statement.flow = .leaf → P statement)
    (branch : ∀ statement yes no, statement.flow = .branch yes no → Q yes → Q no → P statement)
    (loop : ∀ statement inward outward body,
      statement.flow = .loop inward outward body → Q body → P statement)
    (nil : Q [])
    (cons : ∀ statement rest, P statement → Q rest → Q (statement :: rest)) :
    (∀ statement, P statement) ∧ ∀ block, Q block := by
  have single : ∀ statement, P statement := by
    -- A missing side of a branch counts as an empty one.
    refine @Statement.rec P Q (fun side => Q (side.getD [])) ?_ ?_ ?_ ?_ ?_ ?_ ?_ ?_ nil cons nil ?_
    · intro name parameters body returnType location _
      exact leaf _ rfl
    · intro condition yes no location yesCorrect noCorrect
      exact branch _ _ _ rfl yesCorrect noCorrect
    · intro initializer condition incrementor body location correct
      exact loop _ _ _ _ rfl correct
    · intro condition body location correct
      exact loop _ _ _ _ rfl correct
    · intro name type initializer location
      exact leaf _ rfl
    · intro value location
      exact leaf _ rfl
    · intro text location
      exact leaf _ rfl
    · intro tag raw location
      exact leaf _ rfl
    · intro side correct
      exact correct
  refine ⟨single, fun block => ?_⟩
  induction block with
  | nil => exact nil
  | cons statement rest ih => exact cons statement rest (single statement) ih

/-! Handling by flow -/

section

variable {σ : Type} (how : Handling σ)

@[simp] theorem handleAll_nil : handleAll how [] = how.nothing := by
  rw [handleAll]

@[simp] theorem handleAll_cons (statement : Statement) (rest : List Statement) :
    handleAll how (statement :: rest) =
      how.andThen (statement.handle how) (handleAll how rest) := by
  rw [handleAll]

theorem handleElse_eq (side : Option (List Statement)) :
    handleElse how side = handleAll how (side.getD []) := by
  cases side <;> simp [handleElse]

end

section

variable {statement : Statement}

-- A leaf is one node; only an unsupported one, named by its kind, is reported.
theorem handle_leaf (flow : statement.flow = .leaf) :
    (∃ (type label : String) (details : Option String) (location : Location),
      type ∈ ["variable", "return", "expression"] ∧ ∀ {σ : Type} (how : Handling σ),
        statement.handle how = how.process statement type label details location) ∨
    ∃ (kind : String) (location : Location), ∀ {σ : Type} (how : Handling σ),
      statement.handle how = how.placeholder statement kind location := by
  cases statement with
  | branch | forLoop | whileLoop => simp [Statement.flow] at flow
  | function name parameters body returnType location =>
    exact .inl ⟨"expression", _, _, _, by simp, fun how => by rw [Statement.handle]⟩
  | declaration name type initializer location =>
    exact .inl ⟨"variable", _, _, _, by simp, fun how => by rw [Statement.handle]⟩
  | ret value location =>
    exact .inl ⟨"return", _, _, _, by simp, fun how => by rw [Statement.handle]⟩
  | expression text location =>
    exact .inl ⟨"expression", _, _, _, by simp, fun how => by rw [Statement.handle]⟩
  | unknown tag raw location => exact .inr ⟨_, _, fun how => by rw [Statement.handle]⟩

theorem handle_branch {yes no : List Statement} (flow : statement.flow = .branch yes no) :
    ∃ (condition : String) (location : Location), ∀ {σ : Type} (how : Handling σ),
      statement.handle how =
        how.branch statement condition location (handleAll how yes) (handleAll how no) := by
  cases statement <;> simp only [Statement.flow, Flow.branch.injEq, reduceCtorEq] at flow
  obtain ⟨rfl, rfl⟩ := flow
  exact ⟨_, _, fun how => by rw [Statement.handle, handleElse_eq]⟩

theorem handle_loop {inward outward : Label} {body : List Statement}
    (flow : statement.flow = .loop inward outward body) :
    ∃ (type : String) (condition : Option String) (location : Location),
      type = (if inward = .enter then "for" else "while") ∧ ∀ {σ : Type} (how : Handling σ),
        statement.handle how =
          how.loop statement type condition inward outward location (handleAll how body) := by
  cases statement <;> simp only [Statement.flow, Flow.loop.injEq, reduceCtorEq] at flow
  · obtain ⟨rfl, rfl, rfl⟩ := flow
    exact ⟨"for", _, _, rfl, fun how => by rw [Statement.handle]⟩
  · obtain ⟨rfl, rfl, rfl⟩ := flow
    exact ⟨"while", _, _, rfl, fun how => by rw [Statement.handle]⟩

end

/-! Threading by flow -/

theorem threadAll_nil (index : Nat) (frontier : List Exit) :
    threadAll [] index frontier = emptyPiece frontier := by
  rw [threadAll, handleAll_nil]
  rfl

theorem threadAll_cons (statement : Statement) (rest : List Statement) (index : Nat)
    (frontier : List Exit) :
    threadAll (statement :: rest) index frontier =
      (thread statement index frontier).append
        (threadAll rest (index + (thread statement index frontier).nodes.length)
          (thread statement index frontier).exits) := by
  rw [threadAll, handleAll_cons]
  rfl

theorem thread_leaf {statement : Statement} (flow : statement.flow = .leaf) :
    ∃ (type label : String) (details : Option String) (location : Location) (kinds : List String),
      type ∈ ["variable", "return", "expression"] ∧ ∀ index frontier,
        thread statement index frontier =
          processPiece index frontier type label details location
            (kinds.map (placeholderMessage · index)) := by
  rcases handle_leaf flow with ⟨type, label, details, location, known, handled⟩ |
    ⟨kind, location, handled⟩
  · exact ⟨type, label, details, location, [], known, fun index frontier => by
      rw [thread, handled]; rfl⟩
  · exact ⟨"expression", "<" ++ kind ++ ">", some "unsupported", location, [kind], by simp,
      fun index frontier => by rw [thread, handled]; rfl⟩

theorem thread_branch {statement : Statement} {yes no : List Statement}
    (flow : statement.flow = .branch yes no) :
    ∃ (condition : String) (location : Location), ∀ index frontier,
      thread statement index frontier =
        branchPiece index frontier condition location
          (threadAll yes (index + 1) [⟨index, some .yes⟩])
          (threadAll no (index + 1 + (threadAll yes (index + 1) [⟨index, some .yes⟩]).nodes.length)
            [⟨index, some .no⟩]) := by
  obtain ⟨condition, location, handled⟩ := handle_branch flow
  exact ⟨condition, location, fun index frontier => by rw [thread, handled]; rfl⟩

theorem thread_loop {statement : Statement} {inward outward : Label} {body : List Statement}
    (flow : statement.flow = .loop inward outward body) :
    ∃ (type : String) (condition : Option String) (location : Location),
      type = (if inward = .enter then "for" else "while") ∧ ∀ index frontier,
        thread statement index frontier =
          loopPiece index frontier type condition outward location
            (threadAll body (index + 1) [⟨index, some inward⟩]) := by
  obtain ⟨type, condition, location, known, handled⟩ := handle_loop flow
  exact ⟨type, condition, location, known, fun index frontier => by rw [thread, handled]; rfl⟩

/-! How many nodes a statement takes up -/

mutual

def Statement.nodeCount : Statement → Nat
  | .branch _ yes none _ => 1 + nodeCounts yes
  | .branch _ yes (some no) _ => 1 + nodeCounts yes + nodeCounts no
  | .forLoop _ _ _ body _ => 1 + nodeCounts body
  | .whileLoop _ body _ => 1 + nodeCounts body
  | _ => 1

def nodeCounts : List Statement → Nat
  | [] => 0
  | statement :: rest => statement.nodeCount + nodeCounts rest

end

theorem nodeCount_leaf {statement : Statement} (flow : statement.flow = .leaf) :
    statement.nodeCount = 1 := by
  cases statement <;> simp_all [Statement.flow, Statement.nodeCount]

theorem nodeCount_branch {statement : Statement} {yes no : List Statement}
    (flow : statement.flow = .branch yes no) :
    statement.nodeCount = 1 + nodeCounts yes + nodeCounts no := by
  cases statement <;> simp only [Statement.flow, Flow.branch.injEq, reduceCtorEq] at flow
  obtain ⟨rfl, rfl⟩ := flow
  rename_i side location
  cases side <;> simp [Statement.nodeCount, nodeCounts]

theorem nodeCount_loop {statement : Statement} {inward outward : Label} {body : List Statement}
    (flow : statement.flow = .loop inward outward body) :
    statement.nodeCount = 1 + nodeCounts body := by
  cases statement <;> simp_all [Statement.flow, Statement.nodeCount]

theorem nodeCount_pos (statement : Statement) : 0 < statement.nodeCount := by
  cases h : statement.flow with
  | leaf => simp [nodeCount_leaf h]
  | branch yes no => simp only [nodeCount_branch h]; omega
  | loop inward outward body => simp only [nodeCount_loop h]; omega

theorem nodeCounts_eq_zero {block : List Statement} : nodeCounts block = 0 ↔ block = [] := by
  cases block with
  | nil => simp [nodeCounts]
  | cons statement rest =>
    have positive := nodeCount_pos statement
    simp only [nodeCounts, reduceCtorEq, iff_false]
    omega

theorem nodes_length :
    (∀ (statement : Statement) (index : Nat) (frontier : List Exit),
      (thread statement index frontier).nodes.length = statement.nodeCount) ∧
    ∀ (block : List Statement) (index : Nat) (frontier : List Exit),
      (threadAll block index frontier).nodes.length = nodeCounts block := by
  apply flow_induction
  · intro statement flow index frontier
    obtain ⟨type, label, details, location, kinds, -, equation⟩ := thread_leaf flow
    simp [equation, processPiece, nodeCount_leaf flow]
  · intro statement yes no flow yesLength noLength index frontier
    obtain ⟨condition, location, equation⟩ := thread_branch flow
    simp only [equation, branchPiece, List.length_cons, List.length_append, yesLength, noLength,
      nodeCount_branch flow]
    omega
  · intro statement inward outward body flow bodyLength index frontier
    obtain ⟨type, condition, location, -, equation⟩ := thread_loop flow
    simp only [equation, loopPiece, List.length_cons, bodyLength, nodeCount_loop flow]
    omega
  · intro index frontier
    simp [threadAll_nil, emptyPiece, nodeCounts]
  · intro statement rest first others index frontier
    simp [threadAll_cons, Piece.append, nodeCounts, first, others]

@[simp] theorem thread_nodes_length (statement : Statement) (index : Nat) (frontier : List Exit) :
    (thread statement index frontier).nodes.length = statement.nodeCount :=
  nodes_length.1 statement index frontier

@[simp] theorem threadAll_nodes_length (block : List Statement) (index : Nat)
    (frontier : List Exit) :
    (threadAll block index frontier).nodes.length = nodeCounts block :=
  nodes_length.2 block index frontier

/-! Where control leaves -/

theorem addExits_eq_append (merged rest : List Exit) (distinct : (merged ++ rest).Nodup) :
    addExits merged rest = merged ++ rest := by
  induction rest generalizing merged with
  | nil => simp [addExits]
  | cons e rest ih =>
    have fresh : e ∉ merged := by
      intro present
      exact (List.nodup_append.mp distinct).2.2 e present e (by simp) rfl
    rw [addExits, if_neg (by simpa using fresh), ih _ (by simpa using distinct)]
    simp

theorem mergeExits_eq_append (left right : List Exit) (distinct : (left ++ right).Nodup) :
    mergeExits left right = left ++ right := by
  have leftDistinct : ([] ++ left).Nodup := (List.nodup_append.mp distinct).1
  rw [mergeExits, addExits_eq_append [] left leftDistinct, List.nil_append,
    addExits_eq_append left right distinct]

def ExitsPlaced (first count : Nat) (exits : List Exit) : Prop :=
  exits.Nodup ∧ ∀ e ∈ exits, first ≤ e.node ∧ e.node < first + count

theorem exitsPlaced_singleton (node first count : Nat) (label : Option Label)
    (low : first ≤ node) (high : node < first + count) :
    ExitsPlaced first count [⟨node, label⟩] := by
  refine ⟨by simp, ?_⟩
  intro e member
  rw [List.mem_singleton] at member
  subst member
  exact ⟨low, high⟩

-- The exits of one side of a container: its own nodes, or the container if the side is empty.
theorem side_exits {block : List Statement} {first index : Nat} {label : Option Label}
    (placed : block ≠ [] → ExitsPlaced first (nodeCounts block)
      (threadAll block first [⟨index, label⟩]).exits) :
    (threadAll block first [⟨index, label⟩]).exits.Nodup ∧
      ∀ e ∈ (threadAll block first [⟨index, label⟩]).exits,
        e = ⟨index, label⟩ ∨ first ≤ e.node ∧ e.node < first + nodeCounts block := by
  by_cases empty : block = []
  · subst empty
    simp [threadAll_nil, emptyPiece]
  · exact ⟨(placed empty).1, fun e member => .inr ((placed empty).2 e member)⟩

theorem sides_distinct {yes no : List Statement} {index : Nat}
    (yesPlaced : yes ≠ [] → ExitsPlaced (index + 1) (nodeCounts yes)
      (threadAll yes (index + 1) [⟨index, some .yes⟩]).exits)
    (noPlaced : no ≠ [] → ExitsPlaced (index + 1 + nodeCounts yes) (nodeCounts no)
      (threadAll no (index + 1 + nodeCounts yes) [⟨index, some .no⟩]).exits) :
    ((threadAll yes (index + 1) [⟨index, some .yes⟩]).exits ++
      (threadAll no (index + 1 + nodeCounts yes) [⟨index, some .no⟩]).exits).Nodup := by
  obtain ⟨yesDistinct, yesInside⟩ := side_exits yesPlaced
  obtain ⟨noDistinct, noInside⟩ := side_exits noPlaced
  refine List.nodup_append.mpr ⟨yesDistinct, noDistinct, ?_⟩
  rintro e left other right rfl
  -- Two sides that are both empty leave through the branch itself, under different labels.
  rcases yesInside e left with rfl | inside
  · rcases noInside _ right with same | outside
    · simp at same
    · simp only at outside
      omega
  · rcases noInside e right with rfl | outside
    · simp only at inside
      omega
    · omega

theorem exits_placed :
    (∀ (statement : Statement) (index : Nat) (frontier : List Exit),
      ExitsPlaced index statement.nodeCount (thread statement index frontier).exits) ∧
    ∀ (block : List Statement) (index : Nat) (frontier : List Exit), block ≠ [] →
      ExitsPlaced index (nodeCounts block) (threadAll block index frontier).exits := by
  apply flow_induction
  · intro statement flow index frontier
    obtain ⟨type, label, details, location, kinds, -, equation⟩ := thread_leaf flow
    rw [equation, nodeCount_leaf flow]
    exact exitsPlaced_singleton index index 1 none (by omega) (by omega)
  · intro statement yes no flow yesPlaced noPlaced index frontier
    obtain ⟨condition, location, equation⟩ := thread_branch flow
    have yesHere := yesPlaced (index + 1) [⟨index, some .yes⟩]
    have noHere := noPlaced (index + 1 + nodeCounts yes) [⟨index, some .no⟩]
    have distinct := sides_distinct yesHere noHere
    simp only [equation, branchPiece, threadAll_nodes_length, nodeCount_branch flow,
      mergeExits_eq_append _ _ distinct]
    refine ⟨distinct, fun e member => ?_⟩
    rcases List.mem_append.mp member with left | right
    · rcases (side_exits yesHere).2 e left with rfl | inside
      · simp only
        omega
      · omega
    · rcases (side_exits noHere).2 e right with rfl | inside
      · simp only
        omega
      · omega
  · intro statement inward outward body flow _ index frontier
    obtain ⟨type, condition, location, -, equation⟩ := thread_loop flow
    rw [equation, nodeCount_loop flow]
    exact exitsPlaced_singleton index index _ (some outward) (by omega) (by omega)
  · intro index frontier nonempty
    exact absurd rfl nonempty
  · intro statement rest first others index frontier _
    by_cases empty : rest = []
    · subst empty
      simpa [threadAll_cons, threadAll_nil, Piece.append, emptyPiece, nodeCounts]
        using first index frontier
    · have later :=
        others (index + statement.nodeCount) (thread statement index frontier).exits empty
      simp only [threadAll_cons, Piece.append, thread_nodes_length, nodeCounts]
      exact ⟨later.1, fun e member => by have := later.2 e member; omega⟩

theorem branch_exits (yes no : List Statement) (index : Nat) :
    mergeExits (threadAll yes (index + 1) [⟨index, some .yes⟩]).exits
        (threadAll no (index + 1 + nodeCounts yes) [⟨index, some .no⟩]).exits =
      (threadAll yes (index + 1) [⟨index, some .yes⟩]).exits ++
        (threadAll no (index + 1 + nodeCounts yes) [⟨index, some .no⟩]).exits :=
  mergeExits_eq_append _ _ (sides_distinct (exits_placed.2 yes _ _) (exits_placed.2 no _ _))

end ControlFlow
