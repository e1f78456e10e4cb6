import ControlFlow.CommandLine.Reading
import ControlFlow.Settings

set_option autoImplicit false

namespace ControlFlow.CommandLine

inductive Command where
  | graph (file : String) (function : Option String) (format : Option Format) (check : Bool)
  | summary (file : String) (explain : Bool)
  | scan (path : String) (maxFiles : Option Int)
  deriving DecidableEq, Repr

structure Request where
  verbose : Bool
  quiet : Bool
  config : Option String
  output : Option String
  command : Command
  deriving DecidableEq, Repr

def programName : String := "flowgraph"

def graphName : String := "micro"

def summaryName : String := "macro"

def scanName : String := "scan"

def helpSwitch : Switch := ⟨.help, ["-h", "--help"], .nothing⟩

def outputSwitch : Switch := ⟨.output, ["-o", "--output"], .text⟩

def mainGrammar : Grammar where
  program := programName
  switches :=
    [helpSwitch, ⟨.verbose, ["-v", "--verbose"], .nothing⟩, ⟨.quiet, ["-q", "--quiet"], .nothing⟩,
      ⟨.config, ["--config"], .text⟩, outputSwitch]
  place := .command [graphName, summaryName, scanName]

def graphGrammar : Grammar where
  program := programName ++ " " ++ graphName
  switches :=
    [helpSwitch, outputSwitch, ⟨.function, ["-f", "--function"], .text⟩,
      ⟨.format, ["--format"], .choice ["json", "dot"]⟩, ⟨.check, ["--check"], .nothing⟩]
  place := .required "file"

def summaryGrammar : Grammar where
  program := programName ++ " " ++ summaryName
  switches := [helpSwitch, outputSwitch, ⟨.explain, ["--explain"], .nothing⟩]
  place := .required "file"

def scanGrammar : Grammar where
  program := programName ++ " " ++ scanName
  switches := [helpSwitch, outputSwitch, ⟨.maxFiles, ["--max-files"], .integer⟩]
  place := .optional

def grammarOf (name : String) : Grammar :=
  if name = graphName then graphGrammar
  else if name = summaryName then summaryGrammar
  else scanGrammar

def commandOf (name : String) (reading : Reading) : Command :=
  let operand := reading.operand.getD "."
  if name = graphName then
    .graph operand (reading.value? .function) ((reading.value? .format).bind Format.ofText?)
      (reading.has .check)
  else if name = summaryName then .summary operand (reading.has .explain)
  else
    .scan operand ((reading.value? .maxFiles).bind fun text => Json.integerOfText? text.toList)

def Request.parse (line : List String) : Except Stop Request := do
  let outer ← mainGrammar.readLine line
  let (name, rest) := outer.command.getD (scanName, [])
  let inner ← (grammarOf name).readLine rest
  let strays := outer.strays ++ inner.strays
  if strays.isEmpty then
    .ok {
      verbose := outer.has .verbose
      quiet := outer.has .quiet
      config := outer.value? .config
      output := inner.value? .output <|> outer.value? .output
      command := commandOf name inner }
  else .error (.fault programName (.unrecognized strays))

def Command.target : Command → Path
  | .graph file .. => Path.ofText file
  | .summary file _ => Path.ofText file
  | .scan path _ => Path.ofText path

end ControlFlow.CommandLine
