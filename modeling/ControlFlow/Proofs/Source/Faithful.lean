import ControlFlow.Proofs.Graph.Complete
import ControlFlow.Proofs.Source.Filled
import ControlFlow.Source.Stmt.Lower

set_option autoImplicit false

namespace ControlFlow.Source

theorem lower_ne_nil (stmt : Stmt) : stmt.lower ≠ [] := by
  cases stmt with
  | branch test body otherwise location => cases otherwise <;> simp [Stmt.lower]
  | _ => simp [Stmt.lower]

theorem lowerAll_ne_nil {stmts : List Stmt} (occupied : stmts ≠ []) : lowerAll stmts ≠ [] := by
  obtain ⟨stmt, rest, rfl⟩ := List.exists_cons_of_ne_nil occupied
  simp [lowerAll, lower_ne_nil]

theorem lowerAll_complete {stmts : List Stmt}
    (each : ∀ stmt ∈ stmts, ∀ statement ∈ stmt.lower, statement.Complete) :
    ∀ statement ∈ lowerAll stmts, statement.Complete := by
  induction stmts with
  | nil => simp [lowerAll]
  | cons stmt rest ih =>
    obtain ⟨here, others⟩ := List.forall_mem_cons.mp each
    exact List.forall_mem_append.mpr ⟨here, ih others⟩

theorem lowerBody_complete {body : List Stmt}
    (each : ∀ stmt ∈ body, ∀ statement ∈ stmt.lower, statement.Complete) :
    ∀ statement ∈ lowerBody body, statement.Complete := by
  cases body with
  | nil => simp [lowerBody]
  | cons stmt rest =>
    obtain ⟨here, others⟩ := List.forall_mem_cons.mp each
    refine List.forall_mem_append.mpr ⟨?_, lowerAll_complete others⟩
    split
    · simp
    · exact here

theorem lower_complete {stmt : Stmt} (filled : stmt.Filled) :
    ∀ statement ∈ stmt.lower, statement.Complete := by
  induction filled with
  | function _ _ inBody =>
    exact List.forall_mem_singleton.mpr (.function (lowerBody_complete inBody))
  | @branch test body otherwise location occupied _ _ inBody inElse =>
    have yes := lowerAll_complete inBody
    cases otherwise with
    | nil =>
      exact List.forall_mem_singleton.mpr
        (.branch (lowerAll_ne_nil occupied) (by simp) yes (by simp))
    | cons first rest =>
      have no : some (first.lower ++ lowerAll rest) ≠ some [] := by
        simp [lower_ne_nil]
      exact List.forall_mem_singleton.mpr
        (.branch (lowerAll_ne_nil occupied) no yes (lowerAll_complete inElse))
  | forLoop occupied _ _ inBody inElse =>
    exact List.forall_mem_cons.mpr
      ⟨.forLoop (lowerAll_ne_nil occupied) (lowerAll_complete inBody), lowerAll_complete inElse⟩
  | whileLoop occupied _ _ inBody inElse =>
    exact List.forall_mem_cons.mpr
      ⟨.whileLoop (lowerAll_ne_nil occupied) (lowerAll_complete inBody), lowerAll_complete inElse⟩
  | withBlock _ _ inBody =>
    exact List.forall_mem_cons.mpr ⟨.expression .., lowerAll_complete inBody⟩
  | tryBlock _ _ _ _ inBody inElse inFinal =>
    refine List.forall_mem_cons.mpr ⟨.expression .., ?_⟩
    refine List.forall_mem_append.mpr ⟨List.forall_mem_append.mpr ?_, lowerAll_complete inFinal⟩
    exact ⟨lowerAll_complete inBody, lowerAll_complete inElse⟩
  | assign | annotate => exact List.forall_mem_singleton.mpr (.declaration ..)
  | ret => exact List.forall_mem_singleton.mpr (.ret ..)
  | classDef | tryGroup | matchBlock | expression | leaf =>
    exact List.forall_mem_singleton.mpr (.expression ..)

theorem declaration_complete {stmt : Stmt} {owner : String} {declaration : Statement}
    (filled : stmt.Filled) (declared : stmt.declaration? owner = some declaration) :
    declaration.Complete := by
  cases filled with
  | function _ inner =>
    cases declared
    exact .function (lowerBody_complete fun stmt member => lower_complete (inner stmt member))
  | _ => cases declared

theorem declarations_complete {stmt : Stmt} (filled : stmt.Filled) :
    ∀ declaration ∈ stmt.declarations, declaration.Complete := by
  fun_cases Stmt.declarations stmt with
  | case1 decorators name bases keywords body location =>
    intro declaration member
    obtain ⟨method, inside, declared⟩ := List.mem_filterMap.mp member
    cases filled with
    | classDef _ inner => exact declaration_complete (inner method inside) declared
  | case2 => exact List.forall_mem_singleton.mpr (.function (by simp [Statement.Complete.ret]))
  | case3 =>
    intro declaration member
    exact declaration_complete filled (Option.mem_toList.mp member)

theorem program_complete {stmts : List Stmt} (filled : AllFilled stmts) (file : Option String) :
    ∀ function ∈ (Program.mk (stmts.flatMap Stmt.declarations) file).functions,
      ∀ statement ∈ function.body, statement.Complete := by
  intro function member
  obtain ⟨declaration, declared, isFunction⟩ := List.mem_filterMap.mp member
  obtain ⟨stmt, inside, here⟩ := List.mem_flatMap.mp declared
  have complete := declarations_complete (filled stmt inside) declaration here
  cases complete with
  | function inner =>
    cases isFunction
    exact inner
  | _ => cases isFunction

-- A reading that succeeds comes from a tree.
theorem read_ok {code : List Char} {file : Option String} {program : Program}
    (done : (read code file).program = .ok program) :
    ∃ stmts, parseModule code = some stmts ∧
      program = ⟨stmts.flatMap Stmt.declarations, file⟩ := by
  rw [read] at done
  split at done
  · cases done
  · cases parsed : parseModule code with
    | none =>
      rw [parsed] at done
      cases done
    | some stmts =>
      rw [parsed] at done
      dsimp only at done
      split at done
      · cases done
      · cases done
        exact ⟨stmts, rfl, rfl⟩

theorem read_functions_faithful (stamp : Stamp) (file : Option String) :
    (∀ stmts, AllFilled stmts →
      ∀ function ∈ (Program.mk (stmts.flatMap Stmt.declarations) file).functions,
        function.Faithful stamp) ∧
    ∀ code program, (read code file).program = .ok program →
      ∀ function ∈ program.functions, function.Faithful stamp := by
  have fromTree (stmts : List Stmt) (filled : AllFilled stmts) :
      ∀ function ∈ (Program.mk (stmts.flatMap Stmt.declarations) file).functions,
        function.Faithful stamp := by
    intro function member
    exact faithful_of_complete stamp (program_complete filled file function member)
  refine ⟨fromTree, fun code program done => ?_⟩
  obtain ⟨stmts, parsed, rfl⟩ := read_ok done
  exact fromTree stmts (parseModule_filled parsed)

def loopThenReturn : Stmt :=
  .function false [] "f" .empty none
    [.whileLoop (.name "x") [.leaf .pass .unknown] [.ret none .unknown] .unknown] .unknown

def methodSource : List Char := "class A:\n  def f(x):\n    while x:\n      x = g(x)\n".toList

theorem read_functions_faithful_loop :
    AllFilled [loopThenReturn] ∧
    (∃ function ∈ (Program.mk ([loopThenReturn].flatMap Stmt.declarations) none).functions,
      function.body.length = 2 ∧ function.Faithful ⟨"python", "a", 0⟩) ∧
    ∃ program, (read methodSource none).program = .ok program ∧
      ∃ function ∈ program.functions, function.Faithful ⟨"python", "a", 0⟩ := by
  have filled : AllFilled [loopThenReturn] := by
    refine List.forall_mem_singleton.mpr (.function (by simp) ?_)
    refine List.forall_mem_singleton.mpr (.whileLoop (by simp) ?_ ?_)
    · exact List.forall_mem_singleton.mpr (.leaf ..)
    · exact List.forall_mem_singleton.mpr (.ret ..)
  obtain ⟨fromTree, fromText⟩ := read_functions_faithful ⟨"python", "a", 0⟩ none
  refine ⟨filled, ⟨_, .head _, rfl, fromTree _ filled _ (.head _)⟩, ?_⟩
  have counted : (read methodSource none).program.toOption.map
      (fun program => program.functions.length) = some 1 := by decide +kernel
  cases made : (read methodSource none).program with
  | error failure => simp [made, Except.toOption] at counted
  | ok program =>
    have one : program.functions.length = 1 := by
      simpa [made, Except.toOption] using counted
    obtain ⟨function, single⟩ := List.length_eq_one_iff.mp one
    have member : function ∈ program.functions := by simp [single]
    exact ⟨program, rfl, function, member, fromText _ _ made function member⟩

end ControlFlow.Source
