import ControlFlow.Json.Reader
import ControlFlow.Text.Utf8

set_option autoImplicit false

namespace ControlFlow

inductive Failure where
  | missingRoot
  | rootNotProgram
  | rootBodyNotList
  | notProgram (kind : Json.Kind)
  | metadataNotMapping
  | metadataMissing (keys : List String)
  | noFunctions (file : String)
  | functionNotFound (name file : String)
  | notIterable (kind : Json.Kind)
  | noMember (owner member : String)
  | notIntegerText (text : String)
  | tooManyDigits (count : Nat)
  | longInteger
  | notInteger (kind : Json.Kind)
  | infiniteInteger
  | nanInteger
  | notText (kind : Json.Kind)
  | unknownKey (key : String)
  | invalidSource
  | nullCharacter
  | unprintableField
  | malformedJson (error : Json.ReadError)
  | undecodable (error : Text.Utf8Error)
  | fileNotFound (path : String)
  | isDirectory (path : String)
  | notDirectory (path : String)
  | accessDenied (path : String)
  | noFrontEnd (suffix path : String)
  | nullInPath
  deriving DecidableEq, Repr

namespace Failure

-- The kind of a failure, as reports name it.
def category : Failure → String
  | .missingRoot | .rootNotProgram | .rootBodyNotList | .notProgram _ | .metadataNotMapping
  | .metadataMissing _ => "InvalidInputError"
  | .noFunctions _ | .functionNotFound _ _ => "LookupError"
  | .notIterable _ | .notInteger _ | .notText _ => "TypeError"
  | .noMember _ _ => "AttributeError"
  | .notIntegerText _ | .tooManyDigits _ | .longInteger | .nanInteger | .nullCharacter
  | .unprintableField | .noFrontEnd _ _ | .nullInPath => "ValueError"
  | .infiniteInteger => "OverflowError"
  | .unknownKey _ => "KeyError"
  | .invalidSource => "SyntaxError"
  | .malformedJson error =>
      match error.fault with
      | .tooManyDigits _ => "ValueError"
      | .tooDeep _ => "RecursionError"
      | _ => "JSONDecodeError"
  | .undecodable _ => "UnicodeDecodeError"
  | .fileNotFound _ => "FileNotFoundError"
  | .isDirectory _ => "IsADirectoryError"
  | .notDirectory _ => "NotADirectoryError"
  | .accessDenied _ => "PermissionError"

def isSystem : Failure → Bool
  | .fileNotFound _ | .isDirectory _ | .notDirectory _ | .accessDenied _ => true
  | _ => false

def isValue : Failure → Bool
  | .missingRoot | .rootNotProgram | .rootBodyNotList | .notProgram _ | .metadataNotMapping
  | .metadataMissing _ | .notIntegerText _ | .tooManyDigits _ | .longInteger | .nanInteger
  | .nullCharacter | .unprintableField | .undecodable _ | .noFrontEnd _ _ | .nullInPath => true
  | .malformedJson error => !error.fault.isTooDeep
  | _ => false

def undecodableMessage (error : Text.Utf8Error) : String :=
  let place :=
    if error.size = 1 then
      "byte 0x" ++ Text.hexDigits 2 error.byte ++ " in position " ++ toString error.position
    else
      "bytes in position " ++ toString error.position ++ "-" ++
        toString (error.position + error.size - 1)
  "'utf-8' codec can't decode " ++ place ++ ": " ++ error.fault.reason

def quoteLimit : Nat := 200

def message : Failure → String
  | .missingRoot => "AST root is missing"
  | .rootNotProgram => "AST root must be a mapping with type 'Program'"
  | .rootBodyNotList => "AST root 'body' must be a list of statements"
  | .notProgram kind => "expected a Program, got " ++ kind.name
  | .metadataNotMapping => "metadata must be a mapping with 'language' and 'file'"
  | .metadataMissing keys => "metadata is missing " ++ ", ".intercalate keys
  | .noFunctions file => "no function declarations in " ++ file
  | .functionNotFound name file => "function '" ++ name ++ "' not found in " ++ file
  | .notIterable kind => "'" ++ kind.name ++ "' object is not iterable"
  | .noMember owner member => "'" ++ owner ++ "' object has no attribute '" ++ member ++ "'"
  | .notIntegerText text =>
      "invalid literal for int() with base 10: " ++
        String.ofList ((Text.quote text).toList.take quoteLimit)
  | .tooManyDigits count => Json.digitLimitText count
  | .longInteger =>
      "Exceeds the limit (" ++ toString Json.digitLimit ++
        " digits) for integer string conversion; use sys.set_int_max_str_digits() to increase the limit"
  | .notInteger kind =>
      "int() argument must be a string, a bytes-like object or a real number, not '" ++
        kind.name ++ "'"
  | .infiniteInteger => "cannot convert float infinity to integer"
  | .nanInteger => "cannot convert float NaN to integer"
  | .notText kind => "expected string or bytes-like object, got '" ++ kind.name ++ "'"
  | .unknownKey key => Text.quote key
  | .invalidSource => "invalid syntax"
  | .nullCharacter => "source code string cannot contain null bytes"
  | .unprintableField => "Unable to avoid backslash in f-string expression part"
  | .malformedJson error => error.message
  | .undecodable error => undecodableMessage error
  | .fileNotFound path => "[Errno 2] No such file or directory: " ++ Text.quote path
  | .isDirectory path => "[Errno 21] Is a directory: " ++ Text.quote path
  | .notDirectory path => "[Errno 20] Not a directory: " ++ Text.quote path
  | .accessDenied path => "[Errno 13] Permission denied: " ++ Text.quote path
  | .noFrontEnd suffix path =>
      "no parser for " ++ (if suffix.isEmpty then "extensionless" else suffix) ++ " files: " ++ path
  | .nullInPath => "embedded null byte"

end Failure

@[simp] theorem liftExcept_ok {σ α : Type} (value : α) :
    (liftExcept (.ok value : Except Failure α) : EStateM Failure σ α) = pure value := rfl

-- A failure that comes up in work with a state leaves the state as it was then.
theorem run_liftExcept_bind {σ α β : Type} (result : Except Failure α)
    (next : α → EStateM Failure σ β) (state : σ) :
    (liftExcept result >>= next).run state =
      match result with
      | .ok value => (next value).run state
      | .error failure => .error failure state := by
  cases result <;> rfl

end ControlFlow
