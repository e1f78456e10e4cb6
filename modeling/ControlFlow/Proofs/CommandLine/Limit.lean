import ControlFlow.Proofs.CommandLine.Delivery
import ControlFlow.Proofs.Scan
import ControlFlow.Proofs.Settings.Keys

set_option autoImplicit false

namespace ControlFlow

namespace Scan

theorem firstOf_prefix {α : Type} (limit : Int) (items : List α) : firstOf limit items <+: items :=
  List.take_prefix _ items

theorem length_firstOf_negative {α : Type} {limit : Int} (negative : limit < 0) (items : List α) :
    (firstOf limit items).length = items.length - limit.natAbs := by
  rw [firstOf, if_pos negative, List.length_take]
  omega

theorem length_firstOf_positive {α : Type} {limit : Int} (positive : 1 ≤ limit) (items : List α) :
    (firstOf limit items).length = min limit.toNat items.length := by
  rw [firstOf_positive positive, List.length_take]
  omega

-- A limit of zero gives way to the one in force.
theorem length_firstOf_limited {α : Type} {standing : Int} (usable : 1 ≤ standing) (limit : Int)
    (items : List α) :
    let count := (firstOf (if limit = 0 then standing else limit) items).length
    (1 ≤ limit → count = min limit.toNat items.length) ∧
      (limit = 0 → count = min standing.toNat items.length) ∧
      (limit < 0 → count = items.length - limit.natAbs) := by
  refine ⟨fun positive => ?_, fun zero => ?_, fun negative => ?_⟩
  · rw [if_neg (by omega), length_firstOf_positive positive]
  · rw [if_pos zero, length_firstOf_positive usable]
  · rw [if_neg (by omega), length_firstOf_negative negative]

def reportOn (files : Files) (timestamp : Int) (chosen : List Path) : Report where
  attempted := chosen.length
  succeeded := (chosen.filterMap (success? files timestamp)).length
  failed := chosen.filterMap (failure? files timestamp)
  files := chosen.filterMap (success? files timestamp)

end Scan

namespace CommandLine

open Scan (discover firstOf reportOn)

def reportProduct (report : Scan.Report) : Product :=
  ⟨report.toJson.write, [Scan.analyzedLine report]⟩

section

variable {files : Files} (timestamp : Int)

theorem makeReport_ok {root : Path} {settings : Settings} {product : Product}
    (made : (makeReport files timestamp root settings).result = .ok product) :
    ∃ found, (discover files root settings).result = .ok found ∧
      product = reportProduct (reportOn files timestamp (firstOf settings.maxFiles found)) := by
  cases known : (discover files root settings).result with
  | error failure =>
    rw [makeReport, Attempt.bind_result, Scan.run, Attempt.bind_result, known] at made
    cases made
  | ok found =>
    rw [makeReport, Attempt.bind_result_of_ok (Scan.run_result files timestamp root settings known),
      Attempt.bind_result, Attempt.ofExcept_result, Json.written] at made
    refine ⟨found, rfl, ?_⟩
    split at made <;> cases made
    rfl

-- The number of files has no part in the search.
theorem discover_adjust (command : Command) (root : Path) (settings : Settings) :
    discover files root (command.adjust settings) = discover files root settings := by
  cases command with
  | graph | summary => rfl
  | scan path limit =>
    cases limit with
    | none => rfl
    | some limit =>
      rw [Command.adjust]
      split <;> rfl

theorem maxFiles_adjust (path : String) (limit : Int) (settings : Settings) :
    ((Command.scan path (some limit)).adjust settings).maxFiles =
      if limit = 0 then settings.maxFiles else limit := by
  rw [Command.adjust]
  split <;> rfl

theorem scan_delivers {line : List String} {request : Request} {path : String}
    {limit : Option Int} (parsed : Request.parse line = .ok request)
    (asked : request.command = .scan path limit)
    (ended : (run files timestamp line).ending = .exit 0) :
    ∃ settings warnings found,
      Settings.load files (request.settingsPath? files) = .ok (settings, warnings) ∧
      (discover files (Path.ofText path) settings).result = .ok found ∧
      (run files timestamp line).Delivers files request.output
        (reportProduct (reportOn files timestamp
          (firstOf (request.command.adjust settings).maxFiles found))) := by
  have unasked : Request.parse line ≠ .error .help := by
    rw [parsed]
    exact nofun
  rcases run_ends unasked files timestamp with silent | ⟨same, product, again, makes, delivered⟩
  · exact absurd ended silent.ending
  · obtain rfl : same = request := Except.ok.inj (again.symm.trans parsed)
    obtain ⟨settings, warnings, loaded, -, made⟩ := makes
    have shape : same.command.make files timestamp (same.command.adjust settings) =
        makeReport files timestamp (Path.ofText path) (same.command.adjust settings) := by
      rw [asked]
      rfl
    rw [shape] at made
    obtain ⟨found, known, rfl⟩ := makeReport_ok timestamp made
    rw [discover_adjust] at known
    exact ⟨settings, warnings, found, loaded, known, delivered⟩

end

theorem scan_takes_first_files (files : Files) (timestamp : Int) (line : List String)
    (request : Request) (path : String) (limit : Int)
    (parsed : Request.parse line = .ok request) (asked : request.command = .scan path (some limit))
    (ended : (run files timestamp line).ending = .exit 0) :
    ∃ settings warnings found chosen report,
      Settings.load files (request.settingsPath? files) = .ok (settings, warnings) ∧
      (discover files (Path.ofText path) settings).result = .ok found ∧
      chosen <+: found ∧ report = reportOn files timestamp chosen ∧
      (run files timestamp line).Delivers files request.output (reportProduct report) ∧
      (1 ≤ limit → report.attempted = min limit.toNat found.length) ∧
      (limit = 0 → report.attempted = min settings.maxFiles.toNat found.length) ∧
      (limit < 0 → report.attempted = found.length - limit.natAbs) ∧
      ((report.attempted : Int) ≤ max limit 0 ↔ 1 ≤ limit ∨ found.length ≤ limit.natAbs) := by
  obtain ⟨settings, warnings, found, loaded, known, delivered⟩ :=
    scan_delivers timestamp parsed asked ended
  rw [asked, maxFiles_adjust] at delivered
  have usable : 1 ≤ settings.maxFiles := Settings.fits_of_load loaded .maxFiles
  obtain ⟨positive, zero, negative⟩ := Scan.length_firstOf_limited usable limit found
  refine ⟨settings, warnings, found, _, _, loaded, known, Scan.firstOf_prefix _ found, rfl,
    delivered, positive, zero, negative, ?_⟩
  change ((firstOf _ found).length : Int) ≤ max limit 0 ↔ _
  rcases lt_trichotomy limit 0 with below | rfl | above
  · rw [negative below]
    omega
  · rw [zero rfl]
    omega
  · rw [positive above]
    omega

theorem discover_file {files : Files} {root : Path} (present : files.isFile root = true)
    (settings : Settings) : (discover files root settings).result = .ok [root] := by
  rw [discover, if_pos present]
  rfl

theorem one_function_present : oneFunctionFiles.isFile (Path.ofText "a.json") = true := by
  decide +kernel

def generousLine : List String := ["scan", "a.json", "--max-files", "3"]

theorem scan_takes_first_files_generous :
    ∃ report, (run oneFunctionFiles 0 generousLine).Delivers oneFunctionFiles none
      (reportProduct report) ∧ report.attempted = 1 := by
  have parsed : Request.parse generousLine =
      .ok ⟨false, false, none, none, .scan "a.json" (some 3)⟩ := by rfl
  have ended : (run oneFunctionFiles 0 generousLine).ending = .exit 0 := by decide +kernel
  obtain ⟨settings, warnings, found, chosen, report, -, known, -, -, delivered, positive, -⟩ :=
    scan_takes_first_files oneFunctionFiles 0 generousLine _ "a.json" 3 parsed rfl ended
  obtain rfl := Except.ok.inj ((discover_file one_function_present settings).symm.trans known)
  exact ⟨report, delivered, positive (by decide)⟩

def zeroLine : List String := ["scan", "a.json", "--max-files", "0"]

theorem zero_limit_exceeded :
    Request.parse zeroLine = .ok ⟨false, false, none, none, .scan "a.json" (some 0)⟩ ∧
      ∃ report, (run oneFunctionFiles 0 zeroLine).Delivers oneFunctionFiles none
        (reportProduct report) ∧ ¬(report.attempted : Int) ≤ max 0 0 := by
  have parsed : Request.parse zeroLine =
      .ok ⟨false, false, none, none, .scan "a.json" (some 0)⟩ := by rfl
  have ended : (run oneFunctionFiles 0 zeroLine).ending = .exit 0 := by decide +kernel
  obtain ⟨settings, warnings, found, loaded, known, delivered⟩ := scan_delivers 0 parsed rfl ended
  obtain rfl := Except.ok.inj ((discover_file one_function_present settings).symm.trans known)
  have usable : 1 ≤ settings.maxFiles := Settings.fits_of_load loaded .maxFiles
  refine ⟨parsed, _, delivered, ?_⟩
  have taken := Scan.length_firstOf_positive usable [Path.ofText "a.json"]
  change ¬((firstOf settings.maxFiles [Path.ofText "a.json"]).length : Int) ≤ max 0 0
  rw [taken, List.length_singleton]
  omega

end CommandLine

end ControlFlow
