import ControlFlow.Proofs.Files
import ControlFlow.Proofs.Json.Reader
import ControlFlow.Proofs.Text.Utf8
import ControlFlow.Settings

set_option autoImplicit false

namespace ControlFlow

theorem unifyLineEnds_of_notMem {text : List Char} (plain : '\r' ∉ text) :
    Text.unifyLineEnds text = text := by
  fun_induction Text.unifyLineEnds text with
  | case1 => rfl
  | case2 rest ih => simp at plain
  | case3 c rest unlike ih =>
    rw [List.mem_cons, not_or] at plain
    rw [if_neg (Ne.symm plain.1), ih plain.2]

namespace Files

def json (files : Files) (path : Path) : Except Failure Json :=
  files.text path >>= Document.readJson files.nesting

section

variable {files : Files} {path : Path}

theorem bytes_eq_ok_iff (content : List UInt8) :
    files.bytes path = .ok content ↔ files.inspect path = .ok (.file content) := by
  rw [bytes]
  cases files.inspect path with
  | error failure => simp [bind, Except.bind]
  | ok entry => cases entry <;> simp [bind, Except.bind, Entry.bytes]

theorem text_of_bytes {content : List UInt8} (present : files.bytes path = .ok content) :
    files.text path = decode content := by
  rw [text, present]
  rfl

theorem text_of_bytes_error {failure : Failure} (unread : files.bytes path = .error failure) :
    files.text path = .error failure := by
  rw [text, unread]
  rfl

theorem bytes_failure {failure : Failure} (unread : files.bytes path = .error failure) :
    failure.isSystem = true ∨ failure = .nullInPath := by
  rw [bytes] at unread
  cases found : files.inspect path with
  | ok entry =>
    rw [found] at unread
    exact .inl (entry_failure unread)
  | error cause =>
    rw [found] at unread
    cases unread
    rw [inspect, locate] at found
    split at found
    · cases found
      exact .inr rfl
    · cases located : files.follow path (files.origin path) path.parts with
      | error other =>
        rw [located] at found
        cases found
        exact .inl (follow_failure located)
      | ok location =>
        rw [located] at found
        simp only [bind, Except.bind] at found
        split at found <;> cases found
        exact .inl rfl

theorem contains_of_bytes {content : List UInt8} (present : files.bytes path = .ok content) :
    files.contains path = true := by
  rw [contains, (bytes_eq_ok_iff content).mp present]
  rfl

theorem decode_eq_error_iff (content : List UInt8) :
    (∃ failure, decode content = .error failure) ↔
      ¬∃ text : List Char, text.flatMap String.utf8EncodeChar = content := by
  simp only [← Text.decodeUtf8_eq_ok_iff]
  rw [decode]
  cases Text.decodeUtf8 (content.map UInt8.toNat) <;> simp

theorem text_of_encoding {text : List Char} {content : List UInt8}
    (present : files.bytes path = .ok content)
    (encodes : text.flatMap String.utf8EncodeChar = content) (plain : '\r' ∉ text) :
    files.text path = .ok text := by
  rw [text_of_bytes present, decode, (Text.decodeUtf8_eq_ok_iff _ _).mpr encodes]
  simp only [unifyLineEnds_of_notMem plain]

/-- The bytes of a file encode no text. -/
def IsNoText (files : Files) (path : Path) : Prop :=
  ∃ content, files.bytes path = .ok content ∧
    ¬∃ text : List Char, text.flatMap String.utf8EncodeChar = content

/-- The text of a file is refused for the digits of an integer. -/
def HasLongInteger (files : Files) (path : Path) : Prop :=
  ∃ text error count, files.text path = .ok text ∧
    Json.read files.nesting text = .error error ∧ error.fault = .tooManyDigits count

/-- What was read is refused for containers that stand too deep in each other. -/
def IsTooDeep (read : Except Failure Json) : Prop :=
  ∃ error container, read = .error (.malformedJson error) ∧ error.fault = .tooDeep container

def NestsTooDeep (files : Files) (path : Path) : Prop :=
  IsTooDeep (files.json path)

theorem isNoText_iff : files.IsNoText path ↔
    ∃ content failure, files.bytes path = .ok content ∧ decode content = .error failure := by
  simp only [IsNoText, ← decode_eq_error_iff, exists_and_left]

-- A file system failure, bytes that are no text, or a text that is no JSON.
theorem json_failure {failure : Failure} (failed : files.json path = .error failure) :
    files.bytes path = .error failure ∨
      (∃ error, failure = .undecodable error ∧ files.IsNoText path) ∨
      ∃ text error, failure = .malformedJson error ∧ files.text path = .ok text ∧
        Json.read files.nesting text = .error error := by
  rw [json] at failed
  cases found : files.bytes path with
  | error cause =>
    rw [text_of_bytes_error found] at failed
    cases failed
    exact .inl rfl
  | ok content =>
    rw [text_of_bytes found] at failed
    cases decoded : decode content with
    | error cause =>
      rw [decoded] at failed
      cases failed
      obtain ⟨error, rfl⟩ := decode_failure decoded
      exact .inr (.inl ⟨error, rfl, isNoText_iff.mpr ⟨content, _, found, decoded⟩⟩)
    | ok text =>
      rw [decoded] at failed
      change Document.readJson files.nesting text = .error failure at failed
      rw [Document.readJson] at failed
      split at failed
      · cases failed
      next error refused =>
        cases failed
        exact .inr (.inr ⟨text, error, rfl, (text_of_bytes found).trans decoded, refused⟩)

theorem json_of_refused {text : List Char} {error : Json.ReadError}
    (read : files.text path = .ok text) (refused : Json.read files.nesting text = .error error) :
    files.json path = .error (.malformedJson error) := by
  rw [json, read]
  change Document.readJson files.nesting text = _
  rw [Document.readJson, refused]

theorem json_legible {value : Json} (read : files.json path = .ok value) :
    value.isLegible = true := by
  rw [json] at read
  cases found : files.text path with
  | error failure =>
    rw [found] at read
    cases read
  | ok text =>
    rw [found] at read
    change Document.readJson files.nesting text = .ok value at read
    rw [Document.readJson] at read
    split at read <;> cases read
    next known => exact Json.read_legible known

theorem nestsTooDeep_of_brackets (rest : List Char)
    (read : files.text path = .ok (List.replicate (files.nesting + 1) '[' ++ rest)) :
    files.NestsTooDeep path := by
  obtain ⟨error, refused, deep⟩ := Json.read_of_brackets files.nesting rest
  exact ⟨error, .arr, json_of_refused read refused, deep⟩

theorem brackets_of_nestsTooDeep (deep : files.NestsTooDeep path) :
    ∃ text, files.text path = .ok text ∧ files.nesting < text.countP Json.isOpening := by
  obtain ⟨error, container, read, fault⟩ := deep
  rcases json_failure read with unread | ⟨_, other, -⟩ | ⟨text, _, same, known, refused⟩
  · rcases bytes_failure unread with system | other
    · cases system
    · cases other
  · cases other
  · cases same
    exact ⟨text, known, Json.read_deep refused fault⟩

theorem passes_of_json {failure : Failure} (failed : files.json path = .error failure)
    (shallow : ¬files.NestsTooDeep path) : (failure.isSystem || failure.isValue) = true := by
  rcases json_failure failed with unread | ⟨error, rfl, -⟩ | ⟨text, error, rfl, -⟩
  · exact text_failure (text_of_bytes_error unread)
  · rfl
  · cases fault : error.fault with
    | tooDeep container => exact absurd ⟨error, container, failed, fault⟩ shallow
    | _ => simp [Failure.isSystem, Failure.isValue, fault, Json.Fault.isTooDeep]

end

end Files

namespace Settings

-- Loading lets these pass; it makes a warning of every other failure.
def isPassedOn : Failure → Bool
  | .undecodable _ => true
  | .malformedJson error => !error.fault.isSyntactic
  | _ => false

theorem isPassedOn_malformedJson (error : Json.ReadError) :
    isPassedOn (.malformedJson error) = !error.fault.isSyntactic := rfl

def troubleText (files : Files) (path : Path) (failure : Failure) : String :=
  if files.contains path then "Failed to parse " ++ path.text ++ ": " ++ failure.message
  else "Config file not found: " ++ path.text ++ ", using defaults"

section

variable {files : Files} {path : Path}

theorem isPassedOn_of_bytes {failure : Failure} (unread : files.bytes path = .error failure) :
    isPassedOn failure = false := by
  rcases Files.bytes_failure unread with system | rfl
  · cases failure <;> first | rfl | cases system
  · rfl

theorem load_of_bytes {content : List UInt8} (present : files.bytes path = .ok content) :
    load files (some path) = Files.decode content >>= ofText files.nesting path := by
  rw [load, if_pos (Files.contains_of_bytes present), present]

theorem load_of_bytes_error {failure : Failure} (unread : files.bytes path = .error failure) :
    load files (some path) = .ok (default, [troubleText files path failure]) := by
  rw [load, troubleText, unread]
  split <;> rfl

theorem load_eq (files : Files) (path : Path) :
    load files (some path) =
      match files.json path with
      | .ok (.obj fields) => .ok (ofFields fields, warnings path fields)
      | .ok _ => .ok (default, ["Invalid " ++ path.text ++ ": expected a JSON object"])
      | .error failure =>
          if isPassedOn failure then .error failure
          else .ok (default, [troubleText files path failure]) := by
  cases found : files.bytes path with
  | error failure =>
    have held : files.json path = .error failure := by
      rw [Files.json, Files.text_of_bytes_error found]
      rfl
    simp only [load_of_bytes_error found, held, isPassedOn_of_bytes found]
    rfl
  | ok content =>
    rw [load_of_bytes found, Files.json, Files.text_of_bytes found]
    cases decoded : Files.decode content with
    | error failure =>
      obtain ⟨error, rfl⟩ := Files.decode_failure decoded
      rfl
    | ok text =>
      simp only [bind, Except.bind, ofText, Document.readJson]
      cases Json.read files.nesting text with
      | ok value => cases value <;> rfl
      | error error =>
        simp only [isPassedOn_malformedJson, troubleText, Files.contains_of_bytes found, if_true]
        cases error.fault.isSyntactic <;> rfl

theorem load_eq_error_iff (failure : Failure) :
    load files (some path) = .error failure ↔
      files.json path = .error failure ∧ isPassedOn failure = true := by
  rw [load_eq]
  split
  next fields held => simp [held]
  next value other held => simp [held]
  next cause held =>
    rw [held]
    cases passed : isPassedOn cause with
    | false =>
      simp only [Bool.false_eq_true, if_false, reduceCtorEq, Except.error.injEq, false_iff, not_and]
      rintro rfl
      simp [passed]
    | true =>
      simp only [if_true, Except.error.injEq]
      constructor
      · rintro rfl
        exact ⟨rfl, passed⟩
      · exact And.left

theorem default_of_no_object (unlike : ∀ fields, files.json path ≠ .ok (.obj fields))
    {settings : Settings} {warnings : List String}
    (loaded : load files (some path) = .ok (settings, warnings)) :
    settings = default ∧ ∃ warning, warnings = [warning] := by
  rw [load_eq] at loaded
  split at loaded
  next fields held => exact absurd held (unlike fields)
  next value other held =>
    cases loaded
    exact ⟨rfl, _, rfl⟩
  next failure held =>
    split at loaded <;> cases loaded
    exact ⟨rfl, _, rfl⟩

end

theorem isSyntactic_eq_false_iff (fault : Json.Fault) :
    fault.isSyntactic = false ↔
      (∃ count, fault = .tooManyDigits count) ∨ ∃ container, fault = .tooDeep container := by
  cases fault <;> simp [Json.Fault.isSyntactic]

section

variable {files : Files} {path : Path}

theorem load_failure {failure : Failure} (failed : load files (some path) = .error failure) :
    failure.category = "UnicodeDecodeError" ∧ files.IsNoText path ∨
      failure.category = "ValueError" ∧ files.HasLongInteger path ∨
      failure.category = "RecursionError" ∧ files.NestsTooDeep path := by
  obtain ⟨held, passed⟩ := (load_eq_error_iff failure).mp failed
  rcases Files.json_failure held with unread | ⟨error, rfl, noText⟩ |
    ⟨text, error, rfl, read, refused⟩
  · simp [isPassedOn_of_bytes unread] at passed
  · exact .inl ⟨rfl, noText⟩
  · rw [isPassedOn_malformedJson, Bool.not_eq_true', isSyntactic_eq_false_iff] at passed
    rcases passed with ⟨count, many⟩ | ⟨container, deep⟩
    · refine .inr (.inl ⟨?_, text, error, count, read, refused, many⟩)
      simp only [Failure.category, many]
    · refine .inr (.inr ⟨?_, error, container, held, deep⟩)
      simp only [Failure.category, deep]

theorem load_fails
    (cause : files.IsNoText path ∨ files.HasLongInteger path ∨ files.NestsTooDeep path) :
    ∃ failure, load files (some path) = .error failure := by
  simp only [load_eq_error_iff]
  rcases cause with noText | ⟨text, error, count, read, refused, many⟩ |
    ⟨error, container, held, deep⟩
  · obtain ⟨content, failure, found, refused⟩ := Files.isNoText_iff.mp noText
    obtain ⟨error, rfl⟩ := Files.decode_failure refused
    refine ⟨.undecodable error, ?_, rfl⟩
    rw [Files.json, Files.text_of_bytes found, refused]
    rfl
  · refine ⟨.malformedJson error, Files.json_of_refused read refused, ?_⟩
    rw [isPassedOn_malformedJson, many]
    rfl
  · refine ⟨.malformedJson error, held, ?_⟩
    rw [isPassedOn_malformedJson, deep]
    rfl

end

theorem settings_load_fails_exactly (files : Files) :
    load files none = .ok (default, []) ∧
    ∀ path : Path,
      (∀ failure, load files (some path) = .error failure →
        failure.category = "UnicodeDecodeError" ∧ files.IsNoText path ∨
          failure.category = "ValueError" ∧ files.HasLongInteger path ∨
          failure.category = "RecursionError" ∧ files.NestsTooDeep path) ∧
      (files.IsNoText path ∨ files.HasLongInteger path ∨ files.NestsTooDeep path →
        ∃ failure, load files (some path) = .error failure) ∧
      (files.HasLongInteger path → ∃ text count, files.text path = .ok text ∧
        Json.digitLimit < count ∧ Json.HasDigits text count) ∧
      (files.NestsTooDeep path → ∃ text, files.text path = .ok text ∧
        files.nesting < text.countP Json.isOpening) ∧
      (∀ fields, files.json path = .ok (.obj fields) →
        load files (some path) = .ok (ofFields fields, warnings path fields)) ∧
      ((∀ fields, files.json path ≠ .ok (.obj fields)) →
        ∀ settings warnings, load files (some path) = .ok (settings, warnings) →
          settings = default ∧ ∃ warning, warnings = [warning]) := by
  refine ⟨rfl, fun path => ⟨fun _ => load_failure, load_fails, ?_, ?_, ?_, ?_⟩⟩
  · rintro ⟨text, error, count, read, refused, many⟩
    exact ⟨text, count, read, Json.read_digits refused many⟩
  · exact Files.brackets_of_nestsTooDeep
  · intro fields held
    rw [load_eq, held]
  · exact fun unlike settings warnings => default_of_no_object unlike

def longInteger : List Char :=
  '1' :: List.replicate Json.digitLimit '1'

def longIntegerFiles : Files :=
  (Files.empty []).put ["c.json"] (.file (0x31 :: List.replicate Json.digitLimit 0x31))

theorem settings_load_fails_exactly_long_integer :
    longIntegerFiles.HasLongInteger (Path.ofText "c.json") ∧
      ∃ failure, load longIntegerFiles (some (Path.ofText "c.json")) = .error failure := by
  have text : longIntegerFiles.text (Path.ofText "c.json") = .ok longInteger := by
    refine Files.text_of_encoding rfl ?_ (by simp [longInteger])
    simp [longInteger, List.flatMap_replicate, String.utf8EncodeChar]
  obtain ⟨error, read, many⟩ : ∃ error,
      Json.read longIntegerFiles.nesting longInteger = .error error ∧
        error.fault = .tooManyDigits ((List.replicate Json.digitLimit '1').length + 1) := by
    refine Json.read_of_digits (by decide) (by decide) ?_ (by simp) _
    intro c member
    rw [List.eq_of_mem_replicate member]
    decide
  have long : longIntegerFiles.HasLongInteger (Path.ofText "c.json") :=
    ⟨longInteger, error, _, text, read, many⟩
  exact ⟨long, ((settings_load_fails_exactly longIntegerFiles).2 _).2.1 (.inr (.inl long))⟩

def undecodableFiles : Files :=
  (Files.empty []).put ["c.json"] (.file [0xff])

theorem undecodable_settings_fail :
    undecodableFiles.isFile (Path.ofText "c.json") = true ∧
      ∀ settings warnings,
        load undecodableFiles (some (Path.ofText "c.json")) ≠ .ok (settings, warnings) := by
  refine ⟨by decide +kernel, fun settings warnings loaded => ?_⟩
  have failed : load undecodableFiles (some (Path.ofText "c.json")) =
      .error (.undecodable ⟨.invalidStart, 0xff, 0, 1⟩) := by
    rfl
  cases failed.symm.trans loaded

end Settings

end ControlFlow
