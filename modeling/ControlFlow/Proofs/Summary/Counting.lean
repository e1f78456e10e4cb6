import ControlFlow.Proofs.Graph.Flow
import ControlFlow.Summary.Counting

set_option autoImplicit false

namespace ControlFlow

def numberCalls : Nat → List (String × String × Location) → List Call
  | _, [] => []
  | first, site :: rest =>
      ⟨"call_" ++ toString first, site.1, site.2.1, site.2.2⟩ :: numberCalls (first + 1) rest

theorem numberCalls_append (first : Nat) (left right : List (String × String × Location)) :
    numberCalls first (left ++ right) =
      numberCalls first left ++ numberCalls (first + left.length) right := by
  induction left generalizing first with
  | nil => rfl
  | cons site rest ih =>
    have later : first + 1 + rest.length = first + (rest.length + 1) := by omega
    simp [numberCalls, ih, later]

theorem numberCalls_eq_mapIdx (first : Nat) (sites : List (String × String × Location)) :
    numberCalls first sites =
      sites.mapIdx fun index site =>
        ⟨"call_" ++ toString (first + index), site.1, site.2.1, site.2.2⟩ := by
  induction sites generalizing first with
  | nil => rfl
  | cons site rest ih =>
    simp [numberCalls, ih, List.mapIdx_cons, Nat.add_right_comm, Nat.add_assoc]

def sitesOf (caller : String) (callees : List (String × Location)) :
    List (String × String × Location) :=
  callees.map fun site => (caller, site.1, site.2)

def counted (caller : String) (callees : List (String × Location)) (found : List Call)
    (counters : Counters) : EStateM.Result Failure Counters (List Call) :=
  .ok (found ++ numberCalls counters.calls (sitesOf caller callees))
    { counters with calls := counters.calls + callees.length }

theorem counted_append (caller : String) (left right : List (String × Location))
    (found : List Call) (counters : Counters) :
    counted caller (left ++ right) found counters =
      counted caller right (found ++ numberCalls counters.calls (sitesOf caller left))
        { counters with calls := counters.calls + left.length } := by
  simp [counted, sitesOf, numberCalls_append, Nat.add_assoc]

theorem elseCallees_eq (side : Option (List Statement)) :
    elseCallees side = callees (side.getD []) := by
  cases side <;> simp [elseCallees, callees]

theorem findElseCalls_eq (caller : String) (side : Option (List Statement)) (found : List Call) :
    findElseCalls caller side found = findAllCalls caller (side.getD []) found := by
  cases side <;> simp [findElseCalls, findAllCalls]

theorem findCalls_run (caller : String) :
    (∀ (statement : Statement) (found : List Call) (counters : Counters),
      (statement.findCalls caller found).run counters =
        counted caller statement.callees found counters) ∧
    ∀ (block : List Statement) (found : List Call) (counters : Counters),
      (findAllCalls caller block found).run counters =
        counted caller (callees block) found counters := by
  apply flow_induction
  · intro statement flow found counters
    cases statement with
    | branch | forLoop | whileLoop => simp [Statement.flow] at flow
    | function | declaration | ret | unknown =>
      simp [Statement.findCalls, Statement.callees, counted, sitesOf, numberCalls]
    | expression text location =>
      rw [Statement.findCalls, Statement.callees]
      cases callee? text.toList with
      | none => simp [counted, sitesOf, numberCalls]
      | some name => rfl
  · intro statement yes no flow yesCorrect noCorrect found counters
    cases statement <;> simp only [Statement.flow, Flow.branch.injEq, reduceCtorEq] at flow
    obtain ⟨rfl, rfl⟩ := flow
    rw [Statement.callees, elseCallees_eq, counted_append, Statement.findCalls, EStateM.run_bind,
      yesCorrect]
    simp only [counted, findElseCalls_eq]
    exact noCorrect _ _
  · intro statement inward outward body flow bodyCorrect found counters
    cases statement <;> simp only [Statement.flow, Flow.loop.injEq, reduceCtorEq] at flow
    all_goals
      obtain ⟨rfl, rfl, rfl⟩ := flow
      rw [Statement.findCalls, Statement.callees, bodyCorrect]
  · intro found counters
    simp [findAllCalls, callees, counted, sitesOf, numberCalls]
  · intro statement rest first others found counters
    rw [callees, counted_append, findAllCalls, EStateM.run_bind, first]
    exact others _ _

def summarizeFrom : Nat → List FunctionDecl → List FunctionSummary
  | _, [] => []
  | first, decl :: rest => decl.summarize first :: summarizeFrom (first + 1) rest

theorem summarizeFrom_eq_mapIdx (first : Nat) (decls : List FunctionDecl) :
    summarizeFrom first decls =
      decls.mapIdx fun index decl => decl.summarize (first + index) := by
  induction decls generalizing first with
  | nil => rfl
  | cons decl rest ih =>
    simp [summarizeFrom, ih, List.mapIdx_cons, Nat.add_right_comm, Nat.add_assoc]

theorem callSites_cons (decl : FunctionDecl) (rest : List FunctionDecl) :
    callSites (decl :: rest) = sitesOf decl.name (callees decl.body) ++ callSites rest := by
  simp [callSites, sitesOf]

namespace Counters

theorem summaries_run (decls : List FunctionDecl) (counters : Counters) :
    (summaries decls).run counters =
      .ok (summarizeFrom counters.functions decls, numberCalls counters.calls (callSites decls))
        ⟨counters.functions + decls.length, counters.calls + (callSites decls).length⟩ := by
  induction decls generalizing counters with
  | nil => rfl
  | cons decl rest ih =>
    have one : (function decl).run counters =
        .ok (decl.summarize counters.functions)
          { counters with functions := counters.functions + 1 } := rfl
    have length : (sitesOf decl.name (callees decl.body)).length = (callees decl.body).length := by
      simp [sitesOf]
    simp only [summaries, EStateM.run_bind, one, (findCalls_run decl.name).2, counted, ih,
      EStateM.run_pure, List.nil_append, callSites_cons, numberCalls_append, summarizeFrom, length,
      List.length_append, List.length_cons]
    simp [Nat.add_assoc, Nat.add_comm 1]

end Counters

def Summary.dated (summary : Summary) (timestamp : Int) : Summary :=
  { summary with stamp := { summary.stamp with timestamp := timestamp } }

namespace Counters

def ofSummary (summary : Summary) : Counters :=
  ⟨summary.functions.length, summary.calls.length⟩

-- The summary is complete before its moment is known.
def deliver (summary : Summary) (clock : Moment) : EStateM.Result Failure Counters Summary :=
  match clock.milliseconds with
  | .ok timestamp => .ok (summary.dated timestamp) (ofSummary summary)
  | .error failure => .error failure (ofSummary summary)

theorem count_run (program : Program) (metadata : Metadata) (clock : Moment)
    (counters : Counters) :
    (count program metadata clock).run counters =
      deliver (program.summarize (metadata.stamp 0)) clock := by
  have listed := summaries_run program.functions zero
  have functions : summarizeFrom 0 program.functions =
      (program.summarize (metadata.stamp 0)).functions := by
    simp [summarizeFrom_eq_mapIdx, Program.summarize]
  have calls : numberCalls 0 (callSites program.functions) =
      (program.summarize (metadata.stamp 0)).calls := by
    simp [numberCalls_eq_mapIdx, Program.summarize]
  have shown : (⟨program.functions.length, (callSites program.functions).length⟩ : Counters) =
      ofSummary (program.summarize (metadata.stamp 0)) := by
    simp [ofSummary, Program.summarize]
  simp only [zero, functions, calls, Nat.zero_add, shown] at listed
  simp only [count, zero, EStateM.run_bind, EStateM.run_set, listed, deliver]
  cases clock.milliseconds <;> rfl

theorem summarize_run (program : Except Failure Program) (metadata : Json) (clock : Moment)
    (counters : Counters) :
    (summarize program metadata clock).run counters =
      match Summary.ofProgram program metadata 0 with
      | .error failure => .error failure counters
      | .ok summary => deliver summary clock := by
  rw [summarize, run_liftExcept_bind, Summary.ofProgram]
  cases program with
  | error failure => rfl
  | ok program =>
    simp only [run_liftExcept_bind]
    cases Metadata.load metadata with
    | error failure => rfl
    | ok known => exact count_run program known clock counters

end Counters

end ControlFlow
