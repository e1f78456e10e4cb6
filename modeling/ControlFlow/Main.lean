import ControlFlow.CommandLine.Run
import Std.Time.DateTime.Timestamp

set_option autoImplicit false

namespace ControlFlow.Main

open CommandLine

def openFile (name : String) : IO Entry := do
  match ← (IO.FS.readBinFile name).toBaseIO with
  | .error _ => return .locked
  | .ok bytes => return .file bytes.toList

def look (name : String) : IO (Option Entry) := do
  match ← (IO.FS.realPath name).toBaseIO with
  | .error _ => return none
  | .ok place =>
      if ← place.isDir then return some .directory
      else return some (← openFile name)

def seeAlong (files : Files) (path : Path) : IO Files := do
  let mut files := files
  let mut location := files.origin path
  for length in List.range path.parts.length do
    let step : Path := { path with parts := path.parts.take (length + 1) }
    location := if step.name = ".." then location.dropLast else location ++ [step.name]
    match ← look step.text with
    | some entry => files := files.plant [] location entry
    | none => return files
  return files

partial def seeBelow (wanted : List String → Bool) (root : Path) (base : List String)
    (files : Files) (parts : List String) : IO Files := do
  let mut files := files
  for entry in ← (← IO.FS.realPath (root.below parts).text).readDir do
    let parts := parts ++ [entry.fileName]
    if ← entry.path.isDir then files ← seeBelow wanted root base files parts
    else if wanted parts then
      files := files.plant base parts (← openFile (root.below parts).text)
  return files

def see (request : Request) : IO Files := do
  let here := (Path.ofText (← IO.currentDir).toString).parts
  let target := request.command.target
  let mut files := (Files.empty here).plant [] here .directory
  files ← seeAlong files target
  for name in [request.config, request.output].filterMap given? do
    files ← seeAlong files (Path.ofText name)
  let beside := if files.isDirectory target then target else target.parent
  files ← seeAlong files (beside.below [Settings.fileName])
  match request.command, files.locate target, Settings.load files (request.settingsPath? files) with
  | .scan .., .ok base, .ok (settings, _) =>
      if files.isDirectory target then
        seeBelow (Scan.isWanted settings target) target base files []
      else return files
  | _, _, _ => return files

def report (outcome : Outcome) : IO Unit := do
  IO.print outcome.printed
  outcome.reported.forM IO.eprintln

def finish : Ending → IO UInt32
  | .exit code => return code.toUInt32
  | .escaped failure => do
      IO.eprintln (failure.category ++ ": " ++ failure.message)
      return 1

def perform (request : Request) : IO UInt32 := do
  let files ← see request
  let now ← Std.Time.Timestamp.now
  let outcome := request.run files now.toMillisecondsSinceUnixEpoch.toInt
  if let (.exit 0, some name) := (outcome.ending, given? request.output) then
    if let .ok bytes := outcome.files.bytes (Path.ofText name) then
      IO.FS.writeBinFile name ⟨bytes.toArray⟩
  report outcome
  finish outcome.ending

end ControlFlow.Main

def main (line : List String) : IO UInt32 := do
  match ControlFlow.CommandLine.Request.parse line with
  | .ok request => ControlFlow.Main.perform request
  | .error _ =>
      let outcome := ControlFlow.CommandLine.run (.empty []) 0 line
      ControlFlow.Main.report outcome
      ControlFlow.Main.finish outcome.ending
