import ControlFlow.Text.Digit
import ControlFlow.Text.Quoted

set_option autoImplicit false

namespace ControlFlow.CommandLine

inductive Key where
  | help
  | verbose
  | quiet
  | config
  | output
  | function
  | format
  | check
  | explain
  | maxFiles
  deriving DecidableEq, Repr

inductive Want where
  | nothing
  | text
  | choice (among : List String)
  | integer
  deriving DecidableEq, Repr

structure Switch where
  key : Key
  names : List String
  want : Want
  deriving DecidableEq, Repr

inductive Place where
  | required (name : String)
  | optional
  | command (among : List String)
  deriving DecidableEq, Repr

structure Grammar where
  program : String
  switches : List Switch
  place : Place

inductive Fault where
  | ambiguous (text : String) (names : List String)
  | missingValue (names : List String)
  | unwantedValue (names : List String) (value : String)
  | badChoice (names : List String) (value : String) (among : List String)
  | badInteger (names : List String) (value : String)
  | missingOperand (name : String)
  | unrecognized (words : List String)
  deriving DecidableEq, Repr

def argument (names : List String) (text : String) : String :=
  "argument " ++ "/".intercalate names ++ ": " ++ text

def Fault.message : Fault → String
  | .ambiguous text names =>
      "ambiguous option: " ++ text ++ " could match " ++ ", ".intercalate names
  | .missingValue names => argument names "expected one argument"
  | .unwantedValue names value => argument names ("ignored explicit argument " ++ Text.quote value)
  | .badChoice names value among =>
      argument names
        ("invalid choice: " ++ Text.quote value ++ " (choose from " ++
          ", ".intercalate (among.map Text.quote) ++ ")")
  | .badInteger names value => argument names ("invalid int value: " ++ Text.quote value)
  | .missingOperand name => "the following arguments are required: " ++ name
  | .unrecognized words => "unrecognized arguments: " ++ " ".intercalate words

structure Attached where
  afterEquals : Bool
  text : List Char
  deriving DecidableEq, Repr

inductive Role where
  | operand
  | separator
  | switch (switch : Switch) (isShort : Bool) (attached : Option Attached)
  | unknown
  deriving DecidableEq, Repr

structure Word where
  text : String
  role : Role
  deriving DecidableEq, Repr

def isLong (name : List Char) : Bool :=
  ['-', '-'].isPrefixOf name

def Grammar.names (grammar : Grammar) : List (String × Switch) :=
  grammar.switches.flatMap fun switch => switch.names.map (·, switch)

def Grammar.named? (grammar : Grammar) (name : List Char) : Option Switch :=
  (grammar.names.find? (fun entry => entry.1.toList = name)).map Prod.snd

def cutAtEquals (word : List Char) : List Char × Option Attached :=
  match word.dropWhile (· ≠ '=') with
  | [] => (word, none)
  | _ :: value => (word.takeWhile (· ≠ '='), some ⟨true, value⟩)

def Grammar.completions (grammar : Grammar) (start : List Char) : List (String × Switch) :=
  grammar.names.filter (fun entry => start.isPrefixOf entry.1.toList)

-- A minus sign and digits, with a point among them or not; a line feed may follow.
def isNegativeNumber (word : List Char) : Bool :=
  let isDigit := fun c => (Text.digitValue? c).isSome
  let isEnd := fun rest => rest = [] || rest = ['\n']
  match word with
  | '-' :: number =>
      match number.dropWhile isDigit with
      | '.' :: fraction =>
          fraction.takeWhile isDigit ≠ [] && isEnd (fraction.dropWhile isDigit)
      | rest => number.takeWhile isDigit ≠ [] && isEnd rest
  | _ => false

def strayRole (word : List Char) : Role :=
  if isNegativeNumber word || word.contains ' ' then .operand else .unknown

def Grammar.longRole (grammar : Grammar) (word : List Char) : Except Fault Role :=
  let (start, attached) := cutAtEquals word
  match grammar.completions start with
  | [] => .ok (strayRole word)
  | [(_, switch)] => .ok (.switch switch false attached)
  | many => .error (.ambiguous (String.ofList word) (many.map Prod.fst))

def Grammar.shortRole (grammar : Grammar) (word : List Char) : Role :=
  match grammar.named? (word.take 2) with
  | some switch => .switch switch true (some ⟨false, word.drop 2⟩)
  | none => strayRole word

def Grammar.role (grammar : Grammar) (word : List Char) : Except Fault Role :=
  if word.head? ≠ some '-' then .ok .operand
  else
    match grammar.named? word with
    | some switch => .ok (.switch switch (!isLong word) none)
    | none =>
        if word.length = 1 then .ok .operand
        else
          match cutAtEquals word with
          | (name, some attached) =>
              match grammar.named? name with
              | some switch => .ok (.switch switch (!isLong name) (some attached))
              | none => if isLong word then grammar.longRole word else .ok (grammar.shortRole word)
          | (_, none) =>
              if isLong word then grammar.longRole word else .ok (grammar.shortRole word)

def Grammar.words (grammar : Grammar) : List String → Except Fault (List Word)
  | [] => .ok []
  | text :: rest =>
      if text = "--" then .ok (⟨text, .separator⟩ :: rest.map (⟨·, .operand⟩))
      else do
        let role ← grammar.role text.toList
        let words ← grammar.words rest
        .ok (⟨text, role⟩ :: words)

end ControlFlow.CommandLine
