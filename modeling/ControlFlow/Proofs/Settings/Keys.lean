import ControlFlow.Proofs.Settings.Loading
import Mathlib.Data.List.DropRight

set_option autoImplicit false

namespace ControlFlow

namespace Text

def IsTrim (word : List Char) : Prop :=
  (∃ first ∈ word.head?, isBlank first = false) ∧ ∃ last ∈ word.getLast?, isBlank last = false

instance (word : List Char) : Decidable (IsTrim word) :=
  decidable_of_iff
    (word.head?.any (!isBlank ·) = true ∧ word.getLast?.any (!isBlank ·) = true)
    (by simp [IsTrim, Option.any_eq_true])

def Pads (text word : List Char) : Prop :=
  ∃ before after, text = before ++ word ++ after ∧ (∀ c ∈ before, isBlank c = true) ∧
    (∀ c ∈ after, isBlank c = true) ∧ IsTrim word

theorem IsTrim.ne_nil {word : List Char} (trim : IsTrim word) : word ≠ [] := by
  rintro rfl
  obtain ⟨⟨first, begins, -⟩, -⟩ := trim
  cases begins

theorem isTrim_of_pads {text word : List Char} (pads : Pads text word) : IsTrim word := by
  obtain ⟨before, after, -, -, -, trim⟩ := pads
  exact trim

theorem strip_of_pads {text word : List Char} (pads : Pads text word) : strip text = word := by
  obtain ⟨before, after, rfl, early, late, ⟨first, begins, solid⟩,
    last, ends, firm⟩ := pads
  obtain ⟨rest, rfl⟩ := List.head?_eq_some_iff.mp begins
  have start : (before ++ first :: rest ++ after).dropWhile isBlank = first :: rest ++ after := by
    rw [List.append_assoc, List.dropWhile_append_of_pos early, List.cons_append,
      List.dropWhile_cons_of_neg (by simp [solid])]
  have finish : ((first :: rest ++ after).reverse).dropWhile isBlank = (first :: rest).reverse := by
    obtain ⟨others, turned⟩ := List.head?_eq_some_iff.mp (List.head?_reverse ▸ ends)
    rw [List.reverse_append, List.dropWhile_append_of_pos (by simpa using late), turned,
      List.dropWhile_cons_of_neg (by simp [firm])]
  rw [strip, stripWhere, start, finish, List.reverse_reverse]

theorem strip_eq_rdropWhile (text : List Char) :
    strip text = (text.dropWhile isBlank).rdropWhile isBlank := rfl

theorem isTrim_strip {text : List Char} (solid : strip text ≠ []) : IsTrim (strip text) := by
  rw [strip_eq_rdropWhile] at solid ⊢
  obtain ⟨first, rest, here⟩ := List.exists_cons_of_ne_nil solid
  have ends := List.rdropWhile_last_not isBlank (text.dropWhile isBlank) solid
  have begins : isBlank first = false := by
    obtain ⟨tail, whole⟩ := List.rdropWhile_prefix isBlank (text.dropWhile isBlank)
    have stops := List.head?_dropWhile_not isBlank text
    rw [← whole, here] at stops
    simpa using stops
  refine ⟨⟨first, ?_, begins⟩, _, List.getLast?_eq_some_getLast solid, by simpa using ends⟩
  rw [here]
  rfl

theorem pads_strip {text : List Char} (solid : strip text ≠ []) : Pads text (strip text) := by
  refine ⟨text.takeWhile isBlank, (text.dropWhile isBlank).rtakeWhile isBlank, ?_, ?_, ?_,
    isTrim_strip solid⟩
  · rw [List.append_assoc, strip_eq_rdropWhile, List.rdropWhile_append_rtakeWhile,
      List.takeWhile_append_dropWhile]
  · exact fun c => List.mem_takeWhile_imp
  · exact fun c => List.mem_rtakeWhile_imp

end Text

namespace Settings

inductive Key where
  | maxFiles
  | extensions
  | excluded
  | level
  | format
  deriving DecidableEq

namespace Key

def all : List Key :=
  [.maxFiles, .extensions, .excluded, .level, .format]

@[reducible] def Value : Key → Type
  | .maxFiles => Int
  | .extensions | .excluded => List String
  | .level => Level
  | .format => Format

def name : Key → String
  | .maxFiles => "max_files"
  | .extensions => "extensions"
  | .excluded => "exclude_dirs"
  | .level => "log_level"
  | .format => "output_format"

def mayBeNull : Key → Bool
  | .extensions | .excluded => false
  | .maxFiles | .level | .format => true

def accept : (key : Key) → Json → Option key.Value
  | .maxFiles => positive?
  | .extensions | .excluded => words?
  | .level => level?
  | .format => format?

def judged : (key : Key) → List (String × Json) → Verdict key.Value
  | .maxFiles => judgeMaxFiles
  | .extensions => judgeExtensions
  | .excluded => judgeExcluded
  | .level => judgeLevel
  | .format => judgeFormat

def complaint (fields : List (String × Json)) : Key → String
  | .maxFiles => "max_files must be a positive integer"
  | .extensions => "extensions must be a string or a list of strings"
  | .excluded => "exclude_dirs must be a string or a list of strings"
  | .level => "unknown log_level " ++ (Json.get fields "log_level").quoted
  | .format => "output_format must be 'json' or 'dot'"

def given? (key : Key) (fields : List (String × Json)) : Option Json :=
  match Json.lookup fields key.name with
  | some .null => if key.mayBeNull then none else some .null
  | found => found

theorem judged_of_mayBeNull {key : Key} (null : key.mayBeNull = true)
    (fields : List (String × Json)) :
    key.judged fields = judgeGiven key.accept (Json.get fields key.name) := by
  cases key with
  | maxFiles | level | format => rfl
  | extensions | excluded => cases null

theorem judged_of_not_mayBeNull {key : Key} (null : key.mayBeNull = false)
    (fields : List (String × Json)) :
    key.judged fields = judgePresent key.accept (Json.lookup fields key.name) := by
  cases key with
  | maxFiles | level | format => cases null
  | extensions | excluded => rfl

theorem judged_eq (key : Key) (fields : List (String × Json)) :
    key.judged fields =
      match key.given? fields with
      | none => .absent
      | some found => .ofOption (key.accept found) := by
  rw [given?]
  cases null : key.mayBeNull with
  | true =>
    rw [judged_of_mayBeNull null, Json.get]
    rcases Json.lookup fields key.name with _ | value
    · rfl
    · cases value <;> rfl
  | false =>
    rw [judged_of_not_mayBeNull null]
    rcases Json.lookup fields key.name with _ | value
    · rfl
    · cases value <;> rfl

end Key

/-! What is accepted -/

inductive Names : Json → String → Prop where
  | text {text word : String} (pads : Text.Pads text.toList word.toList) : Names (.str text) word

-- The words that the items of a list name, in order; other items are passed over.
inductive Lists : List Json → List String → Prop where
  | nil : Lists [] []
  | word {item : Json} {word : String} {items : List Json} {words : List String}
      (names : Names item word) (others : Lists items words) : Lists (item :: items) (word :: words)
  | skip {item : Json} {items : List Json} {words : List String}
      (nothing : ∀ word, ¬Names item word) (others : Lists items words) :
      Lists (item :: items) words

inductive Yields : Json → List String → Prop where
  | word {item : Json} {word : String} (names : Names item word) : Yields item [word]
  | list {items : List Json} {words : List String} (lists : Lists items words) :
      Yields (.arr items) words

theorem word?_eq_some_iff (text word : String) :
    word? text = some word ↔ Text.Pads text.toList word.toList := by
  constructor
  · intro found
    rw [word?] at found
    split at found
    · cases found
    next unlike =>
      obtain rfl := Option.some.inj found
      rw [String.toList_ofList]
      exact Text.pads_strip unlike
  · intro pads
    have stripped := Text.strip_of_pads pads
    rw [word?, stripped]
    split
    next none => exact absurd none (Text.isTrim_of_pads pads).ne_nil
    next => rw [String.ofList_toList]

def named? : Json → Option String
  | .str text => word? text
  | _ => none

theorem named?_eq_some_iff (item : Json) (word : String) :
    named? item = some word ↔ Names item word := by
  constructor
  · intro found
    cases item with
    | str text => exact .text ((word?_eq_some_iff text word).mp found)
    | _ => cases found
  · rintro ⟨pads⟩
    exact (word?_eq_some_iff _ word).mpr pads

theorem filterMap_named?_eq_iff (items : List Json) (words : List String) :
    items.filterMap named? = words ↔ Lists items words := by
  constructor
  · rintro rfl
    induction items with
    | nil => exact .nil
    | cons item items ih =>
      cases found : named? item with
      | none =>
        rw [List.filterMap_cons_none found]
        refine .skip (fun word names => ?_) ih
        rw [← named?_eq_some_iff, found] at names
        cases names
      | some word =>
        rw [List.filterMap_cons_some found]
        exact .word ((named?_eq_some_iff item word).mp found) ih
  · intro lists
    induction lists with
    | nil => rfl
    | word names others ih =>
      rw [List.filterMap_cons_some ((named?_eq_some_iff _ _).mpr names), ih]
    | skip nothing others ih =>
      rw [List.filterMap_cons_none, ih]
      rw [Option.eq_none_iff_forall_ne_some]
      exact fun word found => nothing word ((named?_eq_some_iff _ word).mp found)

theorem words?_eq_some_iff (found : Json) (words : List String) :
    words? found = some words ↔ Yields found words := by
  have list (items : List Json) : words? (.arr items) = some (items.filterMap named?) := rfl
  have single (text : String) : words? (.str text) = (named? (.str text)).map ([·]) := rfl
  constructor
  · intro accepted
    cases found with
    | str text =>
      rw [single, Option.map_eq_some_iff] at accepted
      obtain ⟨word, named, rfl⟩ := accepted
      exact .word ((named?_eq_some_iff _ word).mp named)
    | arr items =>
      rw [list, Option.some.injEq] at accepted
      exact .list ((filterMap_named?_eq_iff items words).mp accepted)
    | _ => cases accepted
  · intro yields
    cases yields with
    | word names =>
      have named := (named?_eq_some_iff _ _).mpr names
      cases names
      rw [single, named, Option.map_some]
    | list lists => rw [list, (filterMap_named?_eq_iff _ _).mpr lists]

theorem level_ofText?_eq_some_iff (text : String) (level : Level) :
    Level.ofText? text = some level ↔ level.name.toList = text.toList.map Level.capital := by
  rw [Level.ofText?]
  constructor
  · intro found
    simpa using List.find?_some found
  · intro spelt
    rw [← spelt]
    cases level <;> rfl

theorem format_ofText?_eq_some_iff (text : String) (format : Format) :
    Format.ofText? text = some format ↔ format.name = text := by
  rw [Format.ofText?]
  constructor
  · intro found
    simpa using List.find?_some found
  · rintro rfl
    cases format <;> rfl

namespace Key

def Accepts : (key : Key) → Json → key.Value → Prop
  | .maxFiles, found, count => found = .int count ∧ 1 ≤ count
  | .extensions, found, words => Yields found words
  | .excluded, found, words => Yields found words
  | .level, found, known =>
      ∃ text, found = .str text ∧ known.name.toList = text.toList.map Level.capital
  | .format, found, known => found = .str known.name

theorem accept_eq_some_iff (key : Key) (found : Json) (value : key.Value) :
    key.accept found = some value ↔ key.Accepts found value := by
  cases key with
  | maxFiles =>
    cases found with
    | int n =>
      simp only [accept, positive?, Accepts, Option.ite_none_right_eq_some, Option.some.injEq,
        Json.int.injEq]
      constructor
      · rintro ⟨positive, rfl⟩
        exact ⟨rfl, positive⟩
      · rintro ⟨rfl, positive⟩
        exact ⟨positive, rfl⟩
    | _ => simp [accept, positive?, Accepts]
  | extensions => exact words?_eq_some_iff found value
  | excluded => exact words?_eq_some_iff found value
  | level => cases found <;> simp [accept, level?, Accepts, level_ofText?_eq_some_iff]
  | format =>
    cases found <;> simp [accept, format?, Accepts, format_ofText?_eq_some_iff, @eq_comm String]

/-- The value of the key is accepted and stands for this one. -/
def Gives (key : Key) (fields : List (String × Json)) (value : key.Value) : Prop :=
  ∃ found, key.given? fields = some found ∧ key.Accepts found value

def Rejected (key : Key) (fields : List (String × Json)) : Prop :=
  ∃ found, key.given? fields = some found ∧ ∀ value, ¬key.Accepts found value

theorem not_accepts_null (key : Key) (value : key.Value) : ¬key.Accepts .null value := by
  rw [← accept_eq_some_iff]
  cases key <;> exact nofun

theorem rejected_of_null (key : Key) {fields : List (String × Json)}
    (null : Json.lookup fields key.name = some .null) :
    key.Rejected fields ↔ key = .extensions ∨ key = .excluded := by
  have given : key.given? fields = if key.mayBeNull then none else some .null := by
    rw [given?, null]
  rw [Rejected, given]
  cases key <;> simp [mayBeNull, not_accepts_null]

theorem judged_eq_accepted_iff (key : Key) (fields : List (String × Json)) (value : key.Value) :
    key.judged fields = .accepted value ↔ key.Gives fields value := by
  rw [judged_eq, Gives]
  cases key.given? fields with
  | none => simp
  | some found =>
    simp only [Option.some.injEq, exists_eq_left', ← accept_eq_some_iff]
    cases key.accept found <;> simp [Verdict.ofOption]

theorem judged_eq_rejected_iff (key : Key) (fields : List (String × Json)) :
    key.judged fields = .rejected ↔ key.Rejected fields := by
  rw [judged_eq, Rejected]
  cases key.given? fields with
  | none => simp
  | some found =>
    simp only [Option.some.injEq, exists_eq_left', ← accept_eq_some_iff]
    cases key.accept found <;> simp [Verdict.ofOption]

theorem judged_congr (key : Key) {fields others : List (String × Json)}
    (same : Json.lookup fields key.name = Json.lookup others key.name) :
    key.judged fields = key.judged others := by
  rw [judged_eq, judged_eq, given?, given?, same]

end Key

def value (settings : Settings) : (key : Key) → key.Value
  | .maxFiles => settings.maxFiles
  | .extensions => settings.extensions
  | .excluded => settings.excluded
  | .level => settings.level
  | .format => settings.format

theorem value_ofFields (fields : List (String × Json)) (key : Key) :
    (ofFields fields).value key = (key.judged fields).getD (default.value key) := by
  cases key <;> rfl

theorem warnings_eq (path : Path) (fields : List (String × Json)) :
    warnings path fields =
      Key.all.flatMap fun key => complain (key.judged fields) path (key.complaint fields) := by
  simp only [warnings, Key.all, List.flatMap_cons, List.flatMap_nil, List.append_nil,
    List.append_assoc]
  rfl

theorem value_ofFields_of_gives {fields : List (String × Json)} {key : Key} {value : key.Value}
    (gives : key.Gives fields value) : (ofFields fields).value key = value := by
  rw [value_ofFields, (key.judged_eq_accepted_iff fields value).mpr gives]
  rfl

theorem value_ofFields_of_not_gives {fields : List (String × Json)} {key : Key}
    (nothing : ∀ value, ¬key.Gives fields value) :
    (ofFields fields).value key = default.value key := by
  rw [value_ofFields]
  cases judged : key.judged fields with
  | accepted value =>
    exact absurd ((key.judged_eq_accepted_iff fields value).mp judged) (nothing value)
  | absent => rfl
  | rejected => rfl

def Verdict.isRejected {α : Type} : Verdict α → Bool
  | .rejected => true
  | _ => false

theorem Verdict.isRejected_iff {α : Type} (verdict : Verdict α) :
    verdict.isRejected = true ↔ verdict = .rejected := by
  cases verdict <;> simp [isRejected]

theorem complaints_eq (path : Path) (fields : List (String × Json)) (keys : List Key) :
    keys.flatMap (fun key => complain (key.judged fields) path (key.complaint fields)) =
      (keys.filter fun key => (key.judged fields).isRejected).map
        fun key => path.text ++ ": " ++ key.complaint fields := by
  induction keys with
  | nil => rfl
  | cons key keys ih =>
    rw [List.flatMap_cons, ih, List.filter_cons]
    cases key.judged fields <;> rfl

/-! Values that can be used -/

def Key.Fits : (key : Key) → key.Value → Prop
  | .maxFiles, count => 1 ≤ count
  | .extensions, words => ∀ word ∈ words, Text.IsTrim word.toList
  | .excluded, words => ∀ word ∈ words, Text.IsTrim word.toList
  | .level, known =>
      (∀ c ∈ known.name.toList, 'A' ≤ c ∧ c ≤ 'Z') ∧ Level.ofText? known.name = some known
  | .format, known => known.name = "json" ∨ known.name = "dot"

theorem isTrim_of_names {item : Json} {word : String} (names : Names item word) :
    Text.IsTrim word.toList := by
  obtain ⟨pads⟩ := names
  exact Text.isTrim_of_pads pads

theorem isTrim_of_yields {found : Json} {words : List String} (yields : Yields found words) :
    ∀ word ∈ words, Text.IsTrim word.toList := by
  cases yields with
  | word names => simpa using isTrim_of_names names
  | list lists =>
    induction lists with
    | nil => simp
    | word names others ih => exact List.forall_mem_cons.mpr ⟨isTrim_of_names names, ih⟩
    | skip nothing others ih => exact ih

theorem Key.fits_level (known : Level) : Key.level.Fits known := by
  constructor
  · have capitals : known.name.toList.all (fun c => 'A' ≤ c && c ≤ 'Z') = true := by
      cases known <;> decide +kernel
    simpa using capitals
  · cases known <;> decide +kernel

theorem Key.fits_format (known : Format) : Key.format.Fits known := by
  cases known
  · exact .inl rfl
  · exact .inr rfl

theorem Key.fits_of_accepts (key : Key) {found : Json} {value : key.Value}
    (accepts : key.Accepts found value) : key.Fits value := by
  cases key with
  | maxFiles => exact accepts.2
  | extensions => exact isTrim_of_yields accepts
  | excluded => exact isTrim_of_yields accepts
  | level => exact fits_level value
  | format => exact fits_format value

theorem Key.fits_default (key : Key) : key.Fits (default.value key) := by
  cases key with
  | maxFiles => exact (by decide : (1 : Int) ≤ 200)
  | extensions =>
    exact (by decide +kernel : ∀ word ∈ default.extensions, Text.IsTrim word.toList)
  | excluded => exact (by decide +kernel : ∀ word ∈ default.excluded, Text.IsTrim word.toList)
  | level => exact fits_level _
  | format => exact fits_format _

theorem fits_ofFields (fields : List (String × Json)) (key : Key) :
    key.Fits ((ofFields fields).value key) := by
  by_cases given : ∃ value, key.Gives fields value
  · obtain ⟨value, found, here, accepts⟩ := given
    rw [value_ofFields_of_gives ⟨found, here, accepts⟩]
    exact key.fits_of_accepts accepts
  · rw [value_ofFields_of_not_gives (not_exists.mp given)]
    exact key.fits_default

theorem fits_of_load {files : Files} {path : Option Path} {settings : Settings}
    {warnings : List String} (loaded : load files path = .ok (settings, warnings)) (key : Key) :
    key.Fits (settings.value key) := by
  cases path with
  | none =>
    cases loaded
    exact key.fits_default
  | some path =>
    rw [load_eq] at loaded
    split at loaded
    next fields held =>
      cases loaded
      exact fits_ofFields fields key
    next =>
      cases loaded
      exact key.fits_default
    next =>
      split at loaded <;> cases loaded
      exact key.fits_default

theorem settings_keys_judged_alone (files : Files) (path : Path) (fields : List (String × Json))
    (holds : files.json path = .ok (.obj fields)) :
    ∃ settings warnings, load files (some path) = .ok (settings, warnings) ∧
      (∀ key : Key, key.Fits (settings.value key)) ∧
      (∀ (key : Key) (value : key.Value), key.Gives fields value → settings.value key = value) ∧
      (∀ key : Key, (∀ value, ¬key.Gives fields value) →
        settings.value key = default.value key) ∧
      (∀ (others : Files) (place : Path) (payload : List (String × Json)),
        others.json place = .ok (.obj payload) →
        ∃ changed notes, load others (some place) = .ok (changed, notes) ∧
          ∀ key : Key, Json.lookup payload key.name = Json.lookup fields key.name →
            changed.value key = settings.value key) ∧
      (∃ rejected : List Key, rejected.Sublist Key.all ∧
        (∀ key, key ∈ rejected ↔ key.Rejected fields) ∧
        warnings = rejected.map fun key => path.text ++ ": " ++ key.complaint fields) ∧
      (∀ key : Key, Json.lookup fields key.name = some .null →
        (key.Rejected fields ↔ key = .extensions ∨ key = .excluded)) ∧
      settings.extra = fields.filter fun field => field.1 ∉ Key.all.map Key.name := by
  have loaded (files : Files) (path : Path) (fields : List (String × Json))
      (holds : files.json path = .ok (.obj fields)) :
      load files (some path) = .ok (ofFields fields, warnings path fields) := by
    rw [load_eq, holds]
  refine ⟨ofFields fields, warnings path fields, loaded files path fields holds,
    fits_ofFields fields, fun _ _ => value_ofFields_of_gives, fun _ => value_ofFields_of_not_gives,
    ?_, ?_, ?_, ?_⟩
  · intro others place payload holds
    refine ⟨ofFields payload, warnings place payload, loaded others place payload holds, ?_⟩
    intro key same
    rw [value_ofFields, value_ofFields, key.judged_congr same]
  · refine ⟨_, List.filter_sublist, fun key => ?_,
      (warnings_eq path fields).trans (complaints_eq path fields Key.all)⟩
    rw [List.mem_filter, Verdict.isRejected_iff, key.judged_eq_rejected_iff,
      and_iff_right (by cases key <;> decide)]
  · exact fun key => key.rejected_of_null
  · have known : knownKeys = Key.all.map Key.name := rfl
    simp only [ofFields, known, List.contains_eq_mem, decide_not]

def mixedPath : Path := ⟨"", [".flowgraph.json"]⟩

def mixedText : String :=
  "\x7b\"max_files\": 5, \"extensions\": null, \"log_level\": \"debug\", \"theme\": \"dark\"\x7d"

def mixedFiles : Files :=
  (Files.empty []).put [".flowgraph.json"] (.file mixedText.toByteArray.data.toList)

def mixedFields : List (String × Json) :=
  [("max_files", .int 5), ("extensions", .null), ("log_level", .str "debug"),
    ("theme", .str "dark")]

theorem settings_keys_judged_alone_mixed :
    ∃ settings warnings, load mixedFiles (some mixedPath) = .ok (settings, warnings) ∧
      settings.maxFiles = 5 ∧ settings.level = .debug ∧
      settings.extensions = default.extensions ∧ settings.extra = [("theme", .str "dark")] ∧
      warnings = [".flowgraph.json: extensions must be a string or a list of strings"] := by
  have holds : mixedFiles.json mixedPath = .ok (.obj mixedFields) := by rfl
  obtain ⟨settings, warnings, loaded, -, given, missing, -, told, -, extra⟩ :=
    settings_keys_judged_alone mixedFiles mixedPath mixedFields holds
  obtain ⟨rejected, part, exactly, rfl⟩ := told
  have only : rejected = [.extensions] := by
    refine List.perm_singleton.mp ?_
    refine (List.perm_ext_iff_of_nodup (part.nodup (by decide)) (by simp)).mpr ?_
    intro key
    rw [exactly, ← key.judged_eq_rejected_iff, List.mem_singleton]
    cases key <;> decide +kernel
  refine ⟨settings, _, loaded, ?_, ?_, ?_, extra, ?_⟩
  · exact given .maxFiles 5 ⟨.int 5, rfl, rfl, by decide⟩
  · exact given .level .debug ⟨.str "debug", rfl, "debug", rfl, by decide +kernel⟩
  · refine missing .extensions ?_
    rintro value ⟨found, here, accepts⟩
    obtain rfl : Json.null = found := Option.some.inj here
    exact Key.not_accepts_null .extensions value accepts
  · rw [only]
    decide +kernel

end Settings

end ControlFlow
