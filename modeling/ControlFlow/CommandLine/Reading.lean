import ControlFlow.CommandLine.Word
import ControlFlow.Json.Integer

set_option autoImplicit false

namespace ControlFlow.CommandLine

inductive Stop where
  | help
  | fault (program : String) (fault : Fault)
  deriving DecidableEq, Repr

structure Binding where
  switch : Switch
  value : String
  deriving DecidableEq, Repr

structure Bundle where
  bindings : List Binding
  waiting : Option Switch
  stray : Option String
  deriving DecidableEq, Repr

namespace Bundle

def single (switch : Switch) : Bundle :=
  if switch.want = .nothing then ⟨[⟨switch, ""⟩], none, none⟩ else ⟨[], some switch, none⟩

def cons (switch : Switch) (bundle : Bundle) : Bundle :=
  { bundle with bindings := ⟨switch, ""⟩ :: bundle.bindings }

end Bundle

def Grammar.run (grammar : Grammar) (switch : Switch) (afterEquals : Bool) :
    List Char → Except Fault Bundle
  | [] =>
      if switch.want = .nothing then .error (.unwantedValue switch.names "")
      else .ok ⟨[⟨switch, ""⟩], none, none⟩
  | c :: rest =>
      if switch.want ≠ .nothing then .ok ⟨[⟨switch, String.ofList (c :: rest)⟩], none, none⟩
      else if afterEquals || c = '-' then
        .error (.unwantedValue switch.names (String.ofList (c :: rest)))
      else
        match grammar.named? ['-', c] with
        | none => .ok ⟨[⟨switch, ""⟩], none, some (String.ofList ('-' :: c :: rest))⟩
        | some next =>
            match rest with
            | [] => .ok ((Bundle.single next).cons switch)
            | '=' :: value => (grammar.run next true value).map (Bundle.cons switch)
            | d :: more => (grammar.run next false (d :: more)).map (Bundle.cons switch)

def Grammar.bundle (grammar : Grammar) (switch : Switch) (isShort : Bool) :
    Option Attached → Except Fault Bundle
  | none => .ok (.single switch)
  | some attached =>
      if isShort then grammar.run switch attached.afterEquals attached.text
      else if switch.want = .nothing then
        .error (.unwantedValue switch.names (String.ofList attached.text))
      else .ok ⟨[⟨switch, String.ofList attached.text⟩], none, none⟩

def Binding.check (program : String) (binding : Binding) : Except Stop Unit :=
  match binding.switch.want with
  | .choice among =>
      if among.contains binding.value then .ok ()
      else .error (.fault program (.badChoice binding.switch.names binding.value among))
  | .integer =>
      if (Json.integerOfText? binding.value.toList).isSome then .ok ()
      else .error (.fault program (.badInteger binding.switch.names binding.value))
  | _ => if binding.switch.key = .help then .error .help else .ok ()

-- What has been read: values by switch, the operand, the words of a command and its operands, and
-- the words that have no place.
structure Reading where
  bindings : List Binding
  operand : Option String
  command : Option (String × List String)
  strays : List String
  deriving DecidableEq, Repr

namespace Reading

def empty : Reading := ⟨[], none, none, []⟩

def leave (reading : Reading) (words : List String) : Reading :=
  { reading with strays := reading.strays ++ words }

def take (reading : Reading) (bundle : Bundle) : Reading :=
  { reading with
    bindings := reading.bindings ++ bundle.bindings
    strays := reading.strays ++ bundle.stray.toList }

def value? (reading : Reading) (key : Key) : Option String :=
  (reading.bindings.reverse.find? (fun binding => binding.switch.key = key)).map Binding.value

def has (reading : Reading) (key : Key) : Bool :=
  (reading.value? key).isSome

end Reading

def commandName : String := "command"

-- Reads the words in order. A separator that stands directly before or after the operand belongs to
-- it.
def Grammar.read (grammar : Grammar) : List Word → Reading → Except Stop Reading
  | [], reading => .ok reading
  | word :: rest, reading =>
      match word.role with
      | .unknown => grammar.read rest (reading.leave [word.text])
      | .switch switch isShort attached =>
          match grammar.bundle switch isShort attached with
          | .error fault => .error (.fault grammar.program fault)
          | .ok bundle =>
              match bundle.waiting with
              | none => do
                  bundle.bindings.forM (Binding.check grammar.program)
                  grammar.read rest (reading.take bundle)
              | some switch =>
                  match rest with
                  | [] => .error (.fault grammar.program (.missingValue switch.names))
                  | value :: rest =>
                      if value.role = .operand then do
                        let bindings := bundle.bindings ++ [⟨switch, value.text⟩]
                        bindings.forM (Binding.check grammar.program)
                        grammar.read rest (reading.take ⟨bindings, none, bundle.stray⟩)
                      else .error (.fault grammar.program (.missingValue switch.names))
      | .operand =>
          match grammar.place with
          | .command among =>
              if among.contains word.text then
                .ok { reading with command := some (word.text, rest.map Word.text) }
              else
                .error (.fault grammar.program (.badChoice [commandName] word.text among))
          | _ =>
              if reading.operand.isSome then grammar.read rest (reading.leave [word.text])
              else
                match rest with
                | [] => .ok { reading with operand := some word.text }
                | next :: more =>
                    if next.role = .separator then
                      grammar.read more { reading with operand := some word.text }
                    else grammar.read (next :: more) { reading with operand := some word.text }
      | .separator =>
          match rest with
          | [] =>
              if grammar.place = .optional && reading.operand.isNone then .ok reading
              else .ok (reading.leave [word.text])
          | next :: more =>
              match grammar.place with
              | .command among =>
                  .error (.fault grammar.program (.badChoice [commandName] word.text among))
              | _ =>
                  if reading.operand.isSome then
                    grammar.read (next :: more) (reading.leave [word.text])
                  else grammar.read more { reading with operand := some next.text }

def Grammar.readLine (grammar : Grammar) (line : List String) : Except Stop Reading :=
  match grammar.words line with
  | .error fault => .error (.fault grammar.program fault)
  | .ok words => do
      let reading ← grammar.read words .empty
      match grammar.place with
      | .required name =>
          if reading.operand.isSome then .ok reading
          else .error (.fault grammar.program (.missingOperand name))
      | .command _ =>
          if reading.command.isSome then .ok reading
          else .error (.fault grammar.program (.missingOperand commandName))
      | .optional => .ok reading

end ControlFlow.CommandLine
