import ControlFlow.Source.Stmt.Parse

set_option autoImplicit false

namespace ControlFlow.Source

inductive Stmt.Filled : Stmt → Prop
  | function {isAsync : Bool} {decorators : List Expr} {name : String} {formals : Formals}
      {returns : Option Expr} {body : List Stmt} {location : Location} (occupied : body ≠ [])
      (inner : ∀ stmt ∈ body, Stmt.Filled stmt) :
      Stmt.Filled (.function isAsync decorators name formals returns body location)
  | classDef {decorators : List Expr} {name : String} {bases : List Expr} {keywords : List Keyword}
      {body : List Stmt} {location : Location} (occupied : body ≠ [])
      (inner : ∀ stmt ∈ body, Stmt.Filled stmt) :
      Stmt.Filled (.classDef decorators name bases keywords body location)
  | branch {test : Expr} {body otherwise : List Stmt} {location : Location} (occupied : body ≠ [])
      (inner : ∀ stmt ∈ body, Stmt.Filled stmt) (inElse : ∀ stmt ∈ otherwise, Stmt.Filled stmt) :
      Stmt.Filled (.branch test body otherwise location)
  | forLoop {isAsync : Bool} {target source : Expr} {body otherwise : List Stmt}
      {location : Location} (occupied : body ≠ [])
      (inner : ∀ stmt ∈ body, Stmt.Filled stmt) (inElse : ∀ stmt ∈ otherwise, Stmt.Filled stmt) :
      Stmt.Filled (.forLoop isAsync target source body otherwise location)
  | whileLoop {test : Expr} {body otherwise : List Stmt} {location : Location}
      (occupied : body ≠ [])
      (inner : ∀ stmt ∈ body, Stmt.Filled stmt) (inElse : ∀ stmt ∈ otherwise, Stmt.Filled stmt) :
      Stmt.Filled (.whileLoop test body otherwise location)
  | withBlock {isAsync : Bool} {items : List WithItem} {body : List Stmt} {location : Location}
      (occupied : body ≠ []) (inner : ∀ stmt ∈ body, Stmt.Filled stmt) :
      Stmt.Filled (.withBlock isAsync items body location)
  | tryBlock {body : List Stmt} {handlers : List Handler} {otherwise final : List Stmt}
      {location : Location} (occupied : body ≠ [])
      (inner : ∀ stmt ∈ body, Stmt.Filled stmt) (inElse : ∀ stmt ∈ otherwise, Stmt.Filled stmt)
      (inFinal : ∀ stmt ∈ final, Stmt.Filled stmt) :
      Stmt.Filled (.tryBlock body handlers otherwise final location)
  -- What these hold is not shown.
  | tryGroup (body : List Stmt) (handlers : List Handler) (otherwise final : List Stmt)
      (location : Location) : Stmt.Filled (.tryGroup body handlers otherwise final location)
  | matchBlock (subject : Expr) (cases : List Case) (location : Location) :
      Stmt.Filled (.matchBlock subject cases location)
  | assign (targets : List Expr) (value : Expr) (valueLocation location : Location) :
      Stmt.Filled (.assign targets value valueLocation location)
  | annotate (target hint : Expr) (value : Option Expr) (location : Location) :
      Stmt.Filled (.annotate target hint value location)
  | ret (value : Option Expr) (location : Location) : Stmt.Filled (.ret value location)
  | expression (value : Expr) (location : Location) : Stmt.Filled (.expression value location)
  | leaf (leaf : Leaf) (location : Location) : Stmt.Filled (.leaf leaf location)

def AllFilled (block : List Stmt) : Prop := ∀ stmt ∈ block, stmt.Filled

def Occupied (block : List Stmt) : Prop := block ≠ [] ∧ AllFilled block

theorem flatten_filled {blocks : List (List Stmt)} (each : ∀ block ∈ blocks, AllFilled block) :
    AllFilled blocks.flatten := by
  intro stmt member
  obtain ⟨block, inside, here⟩ := List.mem_flatten.mp member
  exact each block inside stmt here

theorem flatten_occupied {blocks : List (List Stmt)} (present : blocks ≠ [])
    (each : ∀ block ∈ blocks, Occupied block) : Occupied blocks.flatten := by
  refine ⟨fun empty => ?_, flatten_filled fun block member => (each block member).2⟩
  obtain ⟨block, member⟩ := List.exists_mem_of_ne_nil blocks present
  exact (each block member).1 (List.flatten_eq_nil_iff.mp empty block member)

namespace Parser

/-! What the results of a parser have in common -/

def Yields {α : Type} (p : Parser α) (good : α → Prop) : Prop :=
  ∀ cursor value rest, p cursor = some (value, rest) → good value

section

variable {α β : Type} {p q : Parser α} {good : α → Prop} {goal : β → Prop}

theorem yields_any (p : Parser α) : p.Yields fun _ => True := fun _ _ _ _ => trivial

theorem yields_refuse : (refuse : Parser α).Yields good := by
  intro cursor value rest result
  cases result

theorem yields_pure {value : α} (holds : good value) : Yields (pure value : Parser α) good := by
  intro cursor found rest result
  cases result
  exact holds

theorem Yields.bind {next : α → Parser β} (first : p.Yields good)
    (later : ∀ value, good value → (next value).Yields goal) : (p >>= next).Yields goal := by
  intro cursor found rest result
  obtain ⟨⟨value, middle⟩, here, there⟩ := Option.bind_eq_some_iff.mp result
  exact later value (first cursor value middle here) middle found rest there

-- The result of the first parser does not matter.
theorem yields_then {next : α → Parser β} (later : ∀ value, (next value).Yields goal) :
    (p >>= next).Yields goal :=
  (yields_any p).bind fun value _ => later value

theorem Yields.ite {c : Prop} [Decidable c] (left : p.Yields good) (right : q.Yields good) :
    (if c then p else q).Yields good := by
  split
  · exact left
  · exact right

theorem Yields.orElse (left : p.Yields good) (right : q.Yields good) : (p <|> q).Yields good := by
  intro cursor value rest result
  change (p cursor <|> q cursor) = some (value, rest) at result
  cases here : p cursor with
  | none =>
    rw [here] at result
    exact right cursor value rest result
  | some found =>
    rw [here] at result
    cases result
    exact left cursor value rest here

theorem Yields.attempt (each : p.Yields good) :
    (attempt p).Yields fun found => ∀ value ∈ found, good value := by
  refine .orElse ?_ (yields_pure (by simp))
  rw [map_eq_pure_bind]
  exact each.bind fun value holds => yields_pure (by simpa using holds)

theorem Yields.manyUpTo (each : p.Yields good) (bound : Nat) :
    (manyUpTo p bound).Yields fun items => ∀ item ∈ items, good item := by
  induction bound with
  | zero => exact yields_pure (by simp)
  | succ bound ih =>
    refine each.attempt.bind fun found holds => ?_
    cases found with
    | none => exact yields_pure (by simp)
    | some item =>
      refine ih.bind fun items others => yields_pure ?_
      exact List.forall_mem_cons.mpr ⟨holds item rfl, others⟩

theorem Yields.many (each : p.Yields good) :
    (many p).Yields fun items => ∀ item ∈ items, good item := by
  intro cursor
  exact each.manyUpTo cursor.left cursor

theorem Yields.many1 (each : p.Yields good) :
    (many1 p).Yields fun items => items ≠ [] ∧ ∀ item ∈ items, good item :=
  each.bind fun _ holds => each.many.bind fun _ others =>
    yields_pure ⟨by simp, List.forall_mem_cons.mpr ⟨holds, others⟩⟩

theorem Yields.separated (each : p.Yields good) (separator : String) :
    (separated separator p).Yields fun items => items ≠ [] ∧ ∀ item ∈ items, good item :=
  each.bind fun _ holds => (yields_then fun _ => each).many.bind fun _ others =>
    yields_pure ⟨by simp, List.forall_mem_cons.mpr ⟨holds, others⟩⟩

end

/-! Statements -/

section

variable {g : Grammar} {line : Parser (List Stmt)}

theorem expressionStmt_filled : (expressionStmt g).Yields Stmt.Filled := by
  refine yields_then fun start => yields_then fun first => yields_then fun assigned => ?_
  refine .ite (yields_then fun more => ?_) (yields_then fun annotated => .ite ?_ ?_)
  · exact .ite (yields_then fun location => yields_pure (.assign ..)) yields_refuse
  · refine .ite yields_refuse (yields_then fun _ => yields_then fun hint => yields_then fun _ => ?_)
    refine .ite (yields_then fun value => ?_) ?_
    · exact yields_then fun location => yields_pure (.annotate ..)
    · exact yields_then fun location => yields_pure (.annotate ..)
  · refine yields_then fun augmented => ?_
    cases augmented with
    | none => exact yields_then fun location => yields_pure (.expression ..)
    | some op =>
      refine .ite yields_refuse (yields_then fun value => ?_)
      exact yields_then fun location => yields_pure (.leaf ..)

theorem simpleStmt_filled : (simpleStmt g).Yields Stmt.Filled := by
  refine yields_then fun start => yields_then fun token => .ite ?_ (.ite ?_ expressionStmt_filled)
  · exact yields_then fun _ => yields_then fun value => yields_then fun location =>
      yields_pure (.ret ..)
  · exact yields_then fun leaf => yields_then fun location => yields_pure (.leaf ..)

theorem simpleLine_occupied : (simpleLine g).Yields Occupied :=
  (simpleStmt_filled.separated ";").bind fun _ occupied =>
    yields_then fun _ => yields_then fun _ => yields_pure occupied

theorem matchStmt_filled : (matchStmt g line).Yields Stmt.Filled := by
  refine yields_then fun start => yields_then fun _ => yields_then fun subject => ?_
  refine yields_then fun _ => yields_then fun _ => yields_then fun _ => yields_then fun cases => ?_
  exact yields_then fun _ => yields_then fun location => yields_pure (.matchBlock ..)

theorem chainBranches_filled (stop : Position) {otherwise : List Stmt}
    {conditions : List (Position × Expr × List Stmt)} (inElse : AllFilled otherwise)
    (each : ∀ entry ∈ conditions, Occupied entry.2.2) :
    AllFilled (chainBranches stop otherwise conditions) := by
  induction conditions with
  | nil => exact inElse
  | cons entry rest ih =>
    obtain ⟨body, others⟩ := List.forall_mem_cons.mp each
    exact List.forall_mem_singleton.mpr (.branch body.1 body.2 (ih others))

section

variable (each : line.Yields Occupied)

include each

theorem block_occupied : (block g line).Yields Occupied := by
  refine yields_then fun _ => yields_then fun _ => .ite ?_ simpleLine_occupied
  refine yields_then fun _ => yields_then fun _ => each.many1.bind fun lines found => ?_
  exact yields_then fun _ => yields_pure (flatten_occupied found.1 found.2)

theorem optionalBlock_filled (word : String) : (optionalBlock g line word).Yields AllFilled := by
  refine yields_then fun _ => .ite ?_ (yields_pure (by simp [AllFilled]))
  intro cursor block rest result
  exact (block_occupied each cursor block rest result).2

theorem condition_occupied (word : String) :
    (condition g line word).Yields fun found => Occupied found.2.2 := by
  refine yields_then fun start => yields_then fun _ => yields_then fun test => ?_
  exact (block_occupied each).bind fun body occupied => yields_pure occupied

theorem ifStmt_occupied : (ifStmt g line).Yields Occupied := by
  refine (condition_occupied each "if").bind fun first here => ?_
  refine (condition_occupied each "elif").many.bind fun rest there => ?_
  refine (optionalBlock_filled each "else").bind fun otherwise inElse => ?_
  refine yields_then fun location => yields_pure ⟨by simp [chainBranches], ?_⟩
  exact chainBranches_filled _ inElse (List.forall_mem_cons.mpr ⟨here, there⟩)

theorem whileStmt_filled : (whileStmt g line).Yields Stmt.Filled := by
  refine (condition_occupied each "while").bind fun found body => ?_
  refine (optionalBlock_filled each "else").bind fun otherwise inElse => ?_
  exact yields_then fun location => yields_pure (.whileLoop body.1 body.2 inElse)

theorem forStmt_filled (start : Position) (isAsync : Bool) :
    (forStmt g line start isAsync).Yields Stmt.Filled := by
  refine yields_then fun _ => yields_then fun target => yields_then fun _ => ?_
  refine yields_then fun source => (block_occupied each).bind fun body occupied => ?_
  refine (optionalBlock_filled each "else").bind fun otherwise inElse => ?_
  exact yields_then fun location => yields_pure (.forLoop occupied.1 occupied.2 inElse)

theorem withStmt_filled (start : Position) (isAsync : Bool) :
    (withStmt g line start isAsync).Yields Stmt.Filled := by
  refine yields_then fun _ => yields_then fun items => ?_
  refine (block_occupied each).bind fun body occupied => ?_
  exact yields_then fun location => yields_pure (.withBlock occupied.1 occupied.2)

theorem tryStmt_filled : (tryStmt g line).Yields Stmt.Filled := by
  refine yields_then fun start => yields_then fun _ => ?_
  refine (block_occupied each).bind fun body occupied => yields_then fun _ => .ite ?_ ?_
  · refine (optionalBlock_filled each "finally").bind fun final inFinal => ?_
    exact yields_then fun location =>
      yields_pure (.tryBlock occupied.1 occupied.2 (by simp) inFinal)
  · refine yields_then fun grouped => yields_then fun handlers => ?_
    refine (optionalBlock_filled each "else").bind fun otherwise inElse => ?_
    refine (optionalBlock_filled each "finally").bind fun final inFinal => ?_
    refine yields_then fun location => .ite (yields_pure (.tryGroup ..)) (yields_pure ?_)
    exact .tryBlock occupied.1 occupied.2 inElse inFinal

theorem functionStmt_filled (decorators : List Expr) (start : Position) (isAsync : Bool) :
    (functionStmt g line decorators start isAsync).Yields Stmt.Filled := by
  refine yields_then fun _ => yields_then fun id => yields_then fun _ => ?_
  refine yields_then fun formals => yields_then fun _ => yields_then fun _ => ?_
  have body (returns : Option Expr) : Yields (do
      let body ← block g line
      return .function isAsync decorators id formals returns body (← since start)) Stmt.Filled :=
    (block_occupied each).bind fun _ occupied => yields_then fun _ =>
      yields_pure (.function occupied.1 occupied.2)
  exact .ite (yields_then body) (yields_then body)

theorem classStmt_filled (decorators : List Expr) :
    (classStmt g line decorators).Yields Stmt.Filled := by
  refine yields_then fun start => yields_then fun _ => yields_then fun id => yields_then fun _ => ?_
  have body (bases : List Expr × List Keyword) : Yields (do
      let body ← block g line
      return .classDef decorators id bases.1 bases.2 body (← since start)) Stmt.Filled :=
    (block_occupied each).bind fun _ occupied => yields_then fun _ =>
      yields_pure (.classDef occupied.1 occupied.2)
  exact .ite (yields_then body) (yields_then body)

theorem asyncStmt_filled : (asyncStmt g line).Yields Stmt.Filled := by
  refine yields_then fun start => yields_then fun _ => yields_then fun _ => ?_
  refine .ite (forStmt_filled each start true) (yields_then fun _ => ?_)
  exact .ite (withStmt_filled each start true) (functionStmt_filled each [] start true)

theorem decoratedStmt_filled : (decoratedStmt g line).Yields Stmt.Filled := by
  refine yields_then fun decorators => yields_then fun _ => ?_
  refine .ite (classStmt_filled each decorators) ?_
  exact yields_then fun start => yields_then fun isAsync =>
    functionStmt_filled each decorators start isAsync

theorem lineStep_occupied : (lineStep g line).Yields Occupied := by
  refine yields_then fun token => ?_
  have one {p : Parser Stmt} (filled : p.Yields Stmt.Filled) :
      Yields (do return [← p]) Occupied :=
    filled.bind fun stmt holds => yields_pure ⟨by simp, List.forall_mem_singleton.mpr holds⟩
  dsimp only
  split
  · exact ifStmt_occupied each
  · exact one (whileStmt_filled each)
  · exact one (yields_then fun start => forStmt_filled each start false)
  · exact one (yields_then fun start => withStmt_filled each start false)
  · exact one (tryStmt_filled each)
  · exact one (yields_then fun start => functionStmt_filled each [] start false)
  · exact one (classStmt_filled each [])
  · exact one (asyncStmt_filled each)
  · exact one (decoratedStmt_filled each)
  · exact .orElse (one matchStmt_filled) simpleLine_occupied
  · exact simpleLine_occupied

end

theorem lineRule_occupied (fuel : Nat) : (lineRule g fuel).Yields Occupied := by
  induction fuel with
  | zero => exact yields_refuse
  | succ fuel ih => exact lineStep_occupied ih

theorem module_filled (fuel : Nat) : (module g fuel).Yields AllFilled :=
  (lineRule_occupied fuel).many.bind fun _ each =>
    yields_then fun _ => yields_pure (flatten_filled fun line member => (each line member).2)

end

end Parser

theorem parseModule_filled {source : List Char} {stmts : List Stmt}
    (parsed : parseModule source = some stmts) : AllFilled stmts := by
  obtain ⟨tokens, -, parsed⟩ := Option.bind_eq_some_iff.mp parsed
  obtain ⟨⟨found, rest⟩, result, same⟩ := Option.bind_eq_some_iff.mp parsed
  cases same
  exact Parser.module_filled _ _ _ _ result

end ControlFlow.Source
