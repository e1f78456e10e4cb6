import ControlFlow.Failure

set_option autoImplicit false

namespace ControlFlow

inductive Level where
  | critical
  | fatal
  | error
  | warn
  | warning
  | info
  | debug
  | notset
  deriving DecidableEq, Repr

namespace Level

def all : List Level :=
  [.critical, .fatal, .error, .warn, .warning, .info, .debug, .notset]

def name : Level → String
  | .critical => "CRITICAL"
  | .fatal => "FATAL"
  | .error => "ERROR"
  | .warn => "WARN"
  | .warning => "WARNING"
  | .info => "INFO"
  | .debug => "DEBUG"
  | .notset => "NOTSET"

def rank : Level → Nat
  | .critical | .fatal => 50
  | .error => 40
  | .warn | .warning => 30
  | .info => 20
  | .debug => 10
  | .notset => 0

-- The capital of a letter. Beside the basic Latin letters only the dotless i and the long s have a
-- basic Latin capital, and no other letter can be part of a level's name.
def capital (c : Char) : Char :=
  if c = 'ı' then 'I' else if c = 'ſ' then 'S' else c.toUpper

def ofText? (text : String) : Option Level :=
  all.find? (fun level => level.name.toList = text.toList.map capital)

end Level

structure Note where
  level : Level
  origin : String
  text : String
  deriving DecidableEq, Repr

namespace Note

def line (note : Note) : String :=
  note.level.name ++ " " ++ note.origin ++ ": " ++ note.text

def debug (origin text : String) : Note := ⟨.debug, origin, text⟩

def info (origin text : String) : Note := ⟨.info, origin, text⟩

def warning (origin text : String) : Note := ⟨.warning, origin, text⟩

end Note

def logLines (threshold : Level) (notes : List Note) : List String :=
  (notes.filter (fun note => threshold.rank ≤ note.level.rank)).map Note.line

structure Attempt (α : Type) where
  result : Except Failure α
  notes : List Note

namespace Attempt

def succeed {α : Type} (value : α) : Attempt α :=
  ⟨.ok value, []⟩

def ofExcept {α : Type} (result : Except Failure α) : Attempt α :=
  ⟨result, []⟩

def note (notes : List Note) : Attempt Unit :=
  ⟨.ok (), notes⟩

def andThen {α β : Type} (first : Attempt α) (next : α → Attempt β) : Attempt β :=
  match first.result with
  | .ok value => ⟨(next value).result, first.notes ++ (next value).notes⟩
  | .error failure => ⟨.error failure, first.notes⟩

-- The result or the failure as a value: whatever it is, work goes on.
def outcome {α : Type} (attempt : Attempt α) : Attempt (Except Failure α) :=
  ⟨.ok attempt.result, attempt.notes⟩

instance : Monad Attempt where
  pure := succeed
  bind := andThen

@[simp] theorem pure_result {α : Type} (value : α) : (pure value : Attempt α).result = .ok value :=
  rfl

@[simp] theorem ofExcept_result {α : Type} (result : Except Failure α) :
    (ofExcept result).result = result := rfl

@[simp] theorem outcome_result {α : Type} (attempt : Attempt α) :
    attempt.outcome.result = .ok attempt.result := rfl

@[simp] theorem note_result (notes : List Note) : (note notes).result = .ok () := rfl

theorem bind_result {α β : Type} (first : Attempt α) (next : α → Attempt β) :
    (first >>= next).result = first.result >>= fun value => (next value).result := by
  change (andThen first next).result = _
  cases made : first.result <;> simp [andThen, made, bind, Except.bind]

theorem bind_result_of_ok {α β : Type} {first : Attempt α} {next : α → Attempt β} {value : α}
    (made : first.result = .ok value) : (first >>= next).result = (next value).result := by
  rw [bind_result, made]
  rfl

theorem bind_result_eq_ok {α β : Type} {first : Attempt α} {next : α → Attempt β} {value : β} :
    (first >>= next).result = .ok value ↔
      ∃ middle, first.result = .ok middle ∧ (next middle).result = .ok value := by
  change (andThen first next).result = .ok value ↔ _
  cases made : first.result <;> simp [andThen, made]

end Attempt

end ControlFlow
