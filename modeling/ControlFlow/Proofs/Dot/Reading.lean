import ControlFlow.Graph.Dot
import Mathlib.Data.List.Basic

set_option autoImplicit false

namespace ControlFlow.Dot

/-! What a drawing shows -/

structure Shape where
  id : String
  label : String
  style : String
  deriving DecidableEq, Repr

structure Cluster where
  number : Nat
  label : String
  members : List Shape
  deriving DecidableEq, Repr

structure Arrow where
  source : String
  target : String
  label : Option String
  deriving DecidableEq, Repr

structure Drawing where
  name : String
  clusters : List Cluster
  loose : List Shape
  arrows : List Arrow
  deriving DecidableEq, Repr

/-! Writing -/

def escaped (text : String) : String :=
  String.ofList (text.toList.flatMap escapeChar)

def inQuotes (text : String) : String :=
  "\"" ++ escaped text ++ "\""

def Shape.line (indent : String) (shape : Shape) : String :=
  indent ++ shape.id ++ " [label=" ++ inQuotes shape.label ++ ", " ++ shape.style ++ "];"

def Cluster.lines (cluster : Cluster) : List String :=
  ["  subgraph cluster_" ++ toString cluster.number ++ " \x7b",
    "    label=" ++ inQuotes cluster.label ++ ";"] ++
    cluster.members.map (Shape.line "    ") ++ ["  \x7d"]

def Arrow.line (arrow : Arrow) : String :=
  let attributes :=
    match arrow.label with
    | some label => " [label=" ++ inQuotes label ++ "]"
    | none => ""
  "  " ++ arrow.source ++ " -> " ++ arrow.target ++ attributes ++ ";"

def Drawing.lines (drawing : Drawing) : List String :=
  header (escaped drawing.name) ++ drawing.clusters.flatMap Cluster.lines ++
    drawing.loose.map (Shape.line "  ") ++ drawing.arrows.map Arrow.line ++ ["\x7d"]

/-! Reading -/

abbrev Reader (τ : Type) := StateT (List τ) Option

def Reader.all {τ α : Type} (reader : Reader τ α) (input : List τ) : Option α :=
  match reader.run input with
  | some (value, []) => some value
  | _ => none

def many {τ α : Type} (item : Reader τ α) : Reader τ (List α) := fun input =>
  match item.run input with
  | none => some ([], input)
  | some (first, rest) =>
      if rest.length < input.length then
        (many item rest).map fun (more, rest) => (first :: more, rest)
      else some ([], input)
termination_by input => input.length

def perhaps {τ α : Type} (reader : Reader τ α) : Reader τ (Option α) := fun input =>
  match reader.run input with
  | some (value, rest) => some (some value, rest)
  | none => some (none, input)

def expect (text : String) : Reader Char Unit :=
  fun line => (line.dropPrefix? text.toList).map (Prod.mk ())

def word (accepts : Char → Bool) : Reader Char String := fun line =>
  if (line.takeWhile accepts).isEmpty then none
  else some (String.ofList (line.takeWhile accepts), line.dropWhile accepts)

def isIdentifierChar (c : Char) : Bool :=
  c.isAlphanum || c == '_'

def identifier : Reader Char String :=
  word isIdentifierChar

def keyword (text : String) : Reader Char Unit := do
  guard ((← identifier) = text)

def number : Reader Char Nat := do
  return Nat.ofDigitChars 10 (← word Char.isDigit).toList 0

def unquote : List Char → Option (List Char × List Char)
  | [] => none
  | '"' :: rest => some ([], rest)
  | '\\' :: c :: rest => (unquote rest).map fun (text, rest) => (c :: text, rest)
  | c :: rest => (unquote rest).map fun (text, rest) => (c :: text, rest)

def quotation : Reader Char String := do
  expect "\""
  return String.ofList (← unquote)

def shape (indent : String) : Reader Char Shape := do
  expect indent
  let id ← identifier
  expect " [label="
  let label ← quotation
  expect ", "
  let style ← word (· != ']')
  expect "];"
  return ⟨id, label, style⟩

def attributes : Reader Char String := do
  expect " [label="
  let label ← quotation
  expect "]"
  return label

def arrow : Reader Char Arrow := do
  expect "  "
  let source ← identifier
  expect " -> "
  let target ← identifier
  let label ← perhaps attributes
  expect ";"
  return ⟨source, target, label⟩

def line {α : Type} (reader : Reader Char α) : Reader (List Char) α
  | [] => none
  | first :: rest => (reader.all first).map (·, rest)

def clusterHead : Reader Char Nat := do
  expect "  "
  keyword "subgraph"
  expect " cluster_"
  let index ← number
  expect " \x7b"
  return index

def caption : Reader Char String := do
  expect "    label="
  let label ← quotation
  expect ";"
  return label

def cluster : Reader (List Char) Cluster := do
  let index ← line clusterHead
  let label ← line caption
  let members ← many (line (shape "    "))
  line (expect "  \x7d")
  return ⟨index, label, members⟩

def title : Reader Char String := do
  expect "digraph "
  let name ← quotation
  expect " \x7b"
  return name

def drawing : Reader (List Char) Drawing := do
  let name ← line title
  line (expect "  node [shape=box];")
  let clusters ← many cluster
  let loose ← many (line (shape "  "))
  let arrows ← many (line arrow)
  line (expect "\x7d")
  return ⟨name, clusters, loose, arrows⟩

def Drawing.read (text : String) : Option Drawing :=
  drawing.all (text.toList.splitOn '\n')

/-! Readers -/

section

variable {τ α β : Type} {reader : Reader τ α} {next : α → Reader τ β} {input rest : List τ}
  {value : α}

theorem run_bind (first : reader.run input = some (value, rest)) :
    (reader >>= next).run input = (next value).run rest := by
  rw [StateT.run_bind, first]
  rfl

theorem run_bind_none (refused : reader.run input = none) :
    (reader >>= next).run input = none := by
  rw [StateT.run_bind, refused]
  rfl

theorem perhaps_run_eq (reader : Reader τ α) (input : List τ) :
    (perhaps reader).run input =
      match reader.run input with
      | some (value, rest) => some (some value, rest)
      | none => some (none, input) := rfl

theorem perhaps_run (read : reader.run input = some (value, rest)) :
    (perhaps reader).run input = some (some value, rest) := by
  rw [perhaps_run_eq, read]

theorem perhaps_run_none (refused : reader.run input = none) :
    (perhaps reader).run input = some (none, input) := by
  rw [perhaps_run_eq, refused]

theorem many_run (write : α → List τ) {items : List α}
    (reads : ∀ item ∈ items, ∀ rest, reader.run (write item ++ rest) = some (item, rest))
    (written : ∀ item ∈ items, write item ≠ []) (refused : reader.run rest = none) :
    (many reader).run (items.flatMap write ++ rest) = some (items, rest) := by
  induction items with
  | nil =>
    rw [List.flatMap_nil, List.nil_append, StateT.run, many, refused]
  | cons item items ih =>
    have more := ih (fun item member => reads item (List.mem_cons_of_mem _ member))
      (fun item member => written item (List.mem_cons_of_mem _ member))
    have longer : (items.flatMap write ++ rest).length <
        (write item ++ (items.flatMap write ++ rest)).length := by
      have := List.length_pos_of_ne_nil (written item List.mem_cons_self)
      simp only [List.length_append]
      omega
    rw [StateT.run] at more
    rw [List.flatMap_cons, List.append_assoc, StateT.run, many, reads item List.mem_cons_self]
    simp only [longer, if_true, more, Option.map_some]

end

/-! Parts of a line -/

theorem expect_run (text : String) (rest : List Char) :
    (expect text).run (text.toList ++ rest) = some ((), rest) := by
  have found := List.dropPrefix?_append_of_beq rest (beq_self_eq_true text.toList)
  simp only [expect, StateT.run, found, Option.map_some]

theorem expect_run_self (text : String) : (expect text).run text.toList = some ((), []) := by
  simpa using expect_run text []

theorem word_run {accepts : Char → Bool} {text : String} (nonempty : text ≠ "")
    (accepted : ∀ c ∈ text.toList, accepts c) {rest : List Char}
    (stops : ∀ c ∈ rest.head?, accepts c = false) :
    (word accepts).run (text.toList ++ rest) = some (text, rest) := by
  have taken : (text.toList ++ rest).takeWhile accepts = text.toList := by
    rw [List.takeWhile_append_of_pos accepted]
    cases rest <;> simp_all
  have dropped : (text.toList ++ rest).dropWhile accepts = rest := by
    rw [List.dropWhile_append_of_pos accepted]
    cases rest <;> simp_all
  simp [word, StateT.run, taken, dropped, nonempty]

theorem unquote_escaped (text rest : List Char) :
    unquote (text.flatMap escapeChar ++ '"' :: rest) = some (text, rest) := by
  induction text with
  | nil => rfl
  | cons c text ih =>
    rw [List.flatMap_cons, List.append_assoc]
    by_cases backslash : c = '\\'
    · simp [escapeChar, backslash, unquote, ih]
    · by_cases quote : c = '"'
      · simp [escapeChar, quote, unquote, ih]
      · simp [escapeChar, backslash, quote, unquote, ih]

theorem quotation_run (label : String) (rest : List Char) :
    quotation.run ((inQuotes label).toList ++ rest) = some (label, rest) := by
  have content : StateT.run unquote ((escaped label).toList ++ ("\"".toList ++ rest)) =
      some (label.toList, rest) := by
    rw [escaped, String.toList_ofList]
    exact unquote_escaped label.toList rest
  simp only [inQuotes, String.toList_append, List.append_assoc]
  rw [quotation, run_bind (expect_run _ _), run_bind content, String.ofList_toList]
  rfl

def IsIdentifier (text : String) : Prop :=
  text ≠ "" ∧ ∀ c ∈ text.toList, isIdentifierChar c = true

theorem identifier_run {id : String} (plain : IsIdentifier id) {rest : List Char}
    (stops : ∀ c ∈ rest.head?, isIdentifierChar c = false) :
    identifier.run (id.toList ++ rest) = some (id, rest) :=
  word_run plain.1 plain.2 stops

theorem toString_isDigit (index : Nat) : ∀ c ∈ (toString index).toList, c.isDigit = true := by
  intro c member
  rw [Nat.toString_eq_repr, Nat.toList_repr] at member
  exact Nat.isDigit_of_mem_toDigits (by decide) (by decide) member

theorem number_run (index : Nat) {rest : List Char}
    (stops : ∀ c ∈ rest.head?, c.isDigit = false) :
    number.run ((toString index).toList ++ rest) = some (index, rest) := by
  rw [number, run_bind (word_run (by simp) (toString_isDigit index) stops), Nat.toString_eq_repr,
    Nat.toList_repr, Nat.ofDigitChars_ten_toDigits]
  rfl

theorem keyword_run {text : String} (plain : IsIdentifier text) {rest : List Char}
    (stops : ∀ c ∈ rest.head?, isIdentifierChar c = false) :
    (keyword text).run (text.toList ++ rest) = some ((), rest) := by
  rw [keyword, run_bind (identifier_run plain stops)]
  simp [guard]

/-! Lines -/

def Unbroken (text : String) : Prop :=
  ∀ c ∈ text.toList, Text.isLineBreak c = false

-- Looked through character by character: a decision over all characters would never end.
instance (text : String) : Decidable (Unbroken text) :=
  decidable_of_iff (text.toList.all (!Text.isLineBreak ·) = true) (by simp [Unbroken])

structure Shape.Readable (shape : Shape) : Prop where
  id : IsIdentifier shape.id
  label : Unbroken shape.label
  styled : shape.style ≠ ""
  style : ∀ c ∈ shape.style.toList, (c != ']') = true
  unbroken : Unbroken shape.style

structure Cluster.Readable (cluster : Cluster) : Prop where
  label : Unbroken cluster.label
  members : ∀ shape ∈ cluster.members, shape.Readable

structure Arrow.Readable (arrow : Arrow) : Prop where
  source : IsIdentifier arrow.source
  target : IsIdentifier arrow.target
  label : ∀ label ∈ arrow.label, Unbroken label

structure Drawing.Readable (drawing : Drawing) : Prop where
  name : Unbroken drawing.name
  clusters : ∀ cluster ∈ drawing.clusters, cluster.Readable
  loose : ∀ shape ∈ drawing.loose, shape.Readable
  arrows : ∀ arrow ∈ drawing.arrows, arrow.Readable

theorem Shape.line_run {shape : Shape} (readable : shape.Readable) (indent : String) :
    (Dot.shape indent).run (shape.line indent).toList = some (shape, []) := by
  simp only [Shape.line, String.toList_append, List.append_assoc]
  rw [Dot.shape, run_bind (expect_run _ _),
    run_bind (identifier_run readable.id (by simp [isIdentifierChar])), run_bind (expect_run _ _),
    run_bind (quotation_run _ _), run_bind (expect_run _ _),
    run_bind (word_run readable.styled readable.style (by simp)), run_bind (expect_run_self _)]
  rfl

theorem attributes_run (label : String) (rest : List Char) :
    attributes.run (" [label=".toList ++ ((inQuotes label).toList ++ ("]".toList ++ rest))) =
      some (label, rest) := by
  rw [attributes, run_bind (expect_run _ _), run_bind (quotation_run _ _),
    run_bind (expect_run _ _)]
  rfl

theorem Arrow.line_run {arrow : Arrow} (readable : arrow.Readable) :
    Dot.arrow.run arrow.line.toList = some (arrow, []) := by
  obtain ⟨source, target, label⟩ := arrow
  simp only [Arrow.line, String.toList_append, List.append_assoc]
  rw [Dot.arrow, run_bind (expect_run _ _),
    run_bind (identifier_run readable.source (by simp [isIdentifierChar])),
    run_bind (expect_run _ _)]
  cases label with
  | none =>
    rw [run_bind (identifier_run readable.target (by simp [isIdentifierChar])),
      run_bind (perhaps_run_none rfl)]
    rfl
  | some label =>
    simp only [String.toList_append, List.append_assoc]
    rw [run_bind (identifier_run readable.target (by simp [isIdentifierChar])),
      run_bind (perhaps_run (attributes_run _ _)), run_bind (expect_run_self _)]
    rfl

theorem clusterHead_run (index : Nat) :
    clusterHead.run ("  subgraph cluster_" ++ toString index ++ " \x7b").toList =
      some (index, []) := by
  have parts : "  subgraph cluster_" = "  " ++ "subgraph" ++ " cluster_" := rfl
  have plain : IsIdentifier "subgraph" := ⟨by decide, List.all_eq_true.mp (by decide)⟩
  simp only [parts, String.toList_append, List.append_assoc]
  rw [clusterHead, run_bind (expect_run _ _),
    run_bind (keyword_run plain (by simp [isIdentifierChar])), run_bind (expect_run _ _),
    run_bind (number_run index (by simp)), run_bind (expect_run_self _)]
  rfl

theorem caption_run (label : String) :
    caption.run ("    label=" ++ inQuotes label ++ ";").toList = some (label, []) := by
  simp only [String.toList_append, List.append_assoc]
  rw [caption, run_bind (expect_run _ _), run_bind (quotation_run _ _),
    run_bind (expect_run_self _)]
  rfl

theorem title_run (name : String) :
    title.run ("digraph \"" ++ escaped name ++ "\" \x7b").toList = some (name, []) := by
  have parts : "digraph \"" ++ escaped name ++ "\" \x7b" =
      "digraph " ++ inQuotes name ++ " \x7b" := by
    have opening : "digraph \"" = "digraph " ++ "\"" := rfl
    have closing : "\" \x7b" = "\"" ++ " \x7b" := rfl
    simp only [opening, closing, inQuotes, String.append_assoc]
  rw [parts]
  simp only [String.toList_append, List.append_assoc]
  rw [title, run_bind (expect_run _ _), run_bind (quotation_run _ _), run_bind (expect_run_self _)]
  rfl

/-! Refusals -/

theorem shape_refuses_arrow {arrow : Arrow} (readable : arrow.Readable) :
    (shape "  ").run arrow.line.toList = none := by
  simp only [Arrow.line, String.toList_append, List.append_assoc]
  rw [shape, run_bind (expect_run _ _),
    run_bind (identifier_run readable.source (by simp [isIdentifierChar])), run_bind_none rfl]

-- A node of that name is still no cluster, because of what comes after it.
theorem clusterHead_refuses {id : String} (plain : IsIdentifier id) {rest : List Char}
    (stops : ∀ c ∈ rest.head?, isIdentifierChar c = false)
    (other : (expect " cluster_").run rest = none) :
    clusterHead.run ("  ".toList ++ (id.toList ++ rest)) = none := by
  rw [clusterHead, run_bind (expect_run _ _)]
  by_cases same : id = "subgraph"
  · subst same
    rw [run_bind (keyword_run plain stops), run_bind_none other]
  · apply run_bind_none
    rw [keyword, run_bind (identifier_run plain stops)]
    simp only [guard, same, if_false]
    rfl

theorem clusterHead_refuses_shape {shape : Shape} (readable : shape.Readable) :
    clusterHead.run (shape.line "  ").toList = none := by
  simp only [Shape.line, String.toList_append, List.append_assoc]
  exact clusterHead_refuses readable.id (by simp [isIdentifierChar]) rfl

theorem clusterHead_refuses_arrow {arrow : Arrow} (readable : arrow.Readable) :
    clusterHead.run arrow.line.toList = none := by
  simp only [Arrow.line, String.toList_append, List.append_assoc]
  exact clusterHead_refuses readable.source (by simp [isIdentifierChar]) rfl

/-! Line by line -/

section

variable {α : Type} {reader : Reader Char α}

theorem line_run {text : String} {value : α} (read : reader.run text.toList = some (value, []))
    (rest : List (List Char)) : (line reader).run (text.toList :: rest) = some (value, rest) := by
  simp only [StateT.run, line, Reader.all] at read ⊢
  rw [read]
  rfl

theorem line_refuses {lines : List String}
    (refused : ∀ text ∈ lines, reader.run text.toList = none) :
    (line reader).run (lines.map String.toList) = none := by
  cases lines with
  | nil => rfl
  | cons first rest =>
    have first := refused first List.mem_cons_self
    simp only [StateT.run, line, Reader.all, List.map_cons] at first ⊢
    rw [first]
    rfl

theorem many_lines_run (write : α → String) {items : List α} {rest : List (List Char)}
    (reads : ∀ item ∈ items, reader.run (write item).toList = some (item, []))
    (refused : (line reader).run rest = none) :
    (many (line reader)).run ((items.map write).map String.toList ++ rest) = some (items, rest) := by
  have split : (items.map write).map String.toList =
      items.flatMap fun item => [(write item).toList] := by
    rw [List.map_map, List.map_eq_flatMap]
    rfl
  rw [split]
  exact many_run _ (fun item member => line_run (reads item member)) (by simp) refused

end

theorem Cluster.lines_run {cluster : Cluster} (readable : cluster.Readable)
    (rest : List (List Char)) :
    Dot.cluster.run (cluster.lines.map String.toList ++ rest) = some (cluster, rest) := by
  have closing : (line (shape "    ")).run ("  \x7d".toList :: rest) = none := rfl
  have members := many_lines_run (Shape.line "    ")
    (fun shape member => Shape.line_run (readable.members shape member) "    ") closing
  simp only [Cluster.lines, List.map_append, List.map_cons, List.map_nil, List.append_assoc,
    List.cons_append, List.nil_append]
  rw [Dot.cluster, run_bind (line_run (clusterHead_run _) _), run_bind (line_run (caption_run _) _),
    run_bind members, run_bind (line_run (expect_run_self _) _)]
  rfl

theorem cluster_refuses {lines : List String}
    (refused : ∀ text ∈ lines, clusterHead.run text.toList = none) :
    cluster.run (lines.map String.toList) = none :=
  run_bind_none (line_refuses refused)

theorem Drawing.lines_run {drawing : Drawing} (readable : drawing.Readable) :
    Dot.drawing.run (drawing.lines.map String.toList) = some (drawing, []) := by
  -- What comes after the clusters is no cluster, and what comes after the nodes is no node.
  have noShape : ∀ text ∈ drawing.arrows.map Arrow.line ++ ["\x7d"],
      (shape "  ").run text.toList = none := by
    simp only [List.forall_mem_append, List.forall_mem_map, List.forall_mem_singleton]
    exact ⟨fun arrow member => shape_refuses_arrow (readable.arrows arrow member), rfl⟩
  have noCluster : ∀ text ∈ drawing.loose.map (Shape.line "  ") ++
      (drawing.arrows.map Arrow.line ++ ["\x7d"]), clusterHead.run text.toList = none := by
    simp only [List.forall_mem_append, List.forall_mem_map, List.forall_mem_singleton]
    exact ⟨fun shape member => clusterHead_refuses_shape (readable.loose shape member),
      fun arrow member => clusterHead_refuses_arrow (readable.arrows arrow member), rfl⟩
  have clusters := many_run (fun cluster => cluster.lines.map String.toList)
    (fun cluster member => Cluster.lines_run (readable.clusters cluster member))
    (fun cluster _ => by simp [Cluster.lines]) (cluster_refuses noCluster)
  have loose := many_lines_run (Shape.line "  ")
    (fun shape member => Shape.line_run (readable.loose shape member) "  ") (line_refuses noShape)
  have closing : (line arrow).run ["\x7d".toList] = none := rfl
  have arrows := many_lines_run Arrow.line
    (fun arrow member => Arrow.line_run (readable.arrows arrow member)) closing
  simp only [List.map_append, List.map_cons, List.map_nil] at clusters loose
  simp only [Drawing.lines, header, List.map_append, List.map_cons, List.map_nil, List.append_assoc,
    List.cons_append, List.nil_append, List.map_flatMap]
  rw [Dot.drawing, run_bind (line_run (title_run _) _), run_bind (line_run (expect_run_self _) _),
    run_bind clusters, run_bind loose, run_bind arrows, run_bind (line_run (expect_run_self _) _)]
  rfl

/-! Line ends -/

@[simp] theorem unbroken_append (first second : String) :
    Unbroken (first ++ second) ↔ Unbroken first ∧ Unbroken second := by
  simp [Unbroken, or_imp, forall_and]

theorem unbroken_of_accepted {accepts : Char → Bool} (apart : Text.lineBreaks.any accepts = false)
    {text : String} (accepted : ∀ c ∈ text.toList, accepts c = true) : Unbroken text := by
  intro c member
  by_contra breaks
  have listed : c ∈ Text.lineBreaks := by simpa [Text.isLineBreak] using breaks
  exact List.any_eq_false.mp apart c listed (accepted c member)

theorem IsIdentifier.unbroken {id : String} (plain : IsIdentifier id) : Unbroken id :=
  unbroken_of_accepted (by decide) plain.2

theorem unbroken_number (index : Nat) : Unbroken (toString index) :=
  unbroken_of_accepted (by decide) (toString_isDigit index)

theorem unbroken_escaped {text : String} (unbroken : Unbroken text) : Unbroken (escaped text) := by
  intro c member
  simp only [escaped, String.toList_ofList, List.mem_flatMap] at member
  obtain ⟨original, inside, shown⟩ := member
  -- What is added is a backslash; the character itself stays.
  have kept : c = '\\' ∨ c = original := by
    grind [escapeChar]
  rcases kept with rfl | rfl
  · decide
  · exact unbroken c inside

theorem unbroken_ellipsize (limit : Int) (text : List Char) :
    Unbroken (String.ofList (Text.ellipsize limit (Text.firstLine text))) := by
  have line : ∀ c ∈ Text.firstLine text, Text.isLineBreak c = false := by
    intro c member
    simpa using List.all_eq_true.mp List.all_takeWhile c member
  intro c member
  rw [String.toList_ofList, Text.ellipsize] at member
  split at member
  · rcases List.mem_append.mp member with kept | dot
    · exact line c (List.mem_of_mem_take kept)
    · obtain rfl : c = '.' := by simpa using dot
      decide
  · exact line c member

theorem Shape.line_unbroken {shape : Shape} (readable : shape.Readable) {indent : String}
    (blank : Unbroken indent) : Unbroken (shape.line indent) := by
  simp only [Shape.line, inQuotes, unbroken_append, blank, readable.id.unbroken,
    unbroken_escaped readable.label, readable.unbroken]
  decide

theorem Arrow.line_unbroken {arrow : Arrow} (readable : arrow.Readable) :
    Unbroken arrow.line := by
  obtain ⟨source, target, label⟩ := arrow
  simp only [Arrow.line, unbroken_append, readable.source.unbroken, readable.target.unbroken]
  cases label with
  | none => decide
  | some label =>
    simp only [inQuotes, unbroken_append, unbroken_escaped (readable.label label rfl)]
    decide

theorem Cluster.lines_unbroken {cluster : Cluster} (readable : cluster.Readable) :
    ∀ text ∈ cluster.lines, Unbroken text := by
  have members : ∀ shape ∈ cluster.members, Unbroken (shape.line "    ") :=
    fun shape member => Shape.line_unbroken (readable.members shape member) (by decide)
  simp only [Cluster.lines, List.forall_mem_append, List.forall_mem_map, List.forall_mem_cons,
    inQuotes, unbroken_append, unbroken_number, unbroken_escaped readable.label]
  exact ⟨⟨by decide, members⟩, by decide⟩

theorem Drawing.lines_unbroken {drawing : Drawing} (readable : drawing.Readable) :
    ∀ text ∈ drawing.lines, Unbroken text := by
  have clusters : ∀ text ∈ drawing.clusters.flatMap Cluster.lines, Unbroken text := by
    intro text member
    obtain ⟨cluster, known, inside⟩ := List.mem_flatMap.mp member
    exact Cluster.lines_unbroken (readable.clusters cluster known) text inside
  have loose : ∀ shape ∈ drawing.loose, Unbroken (shape.line "  ") :=
    fun shape member => Shape.line_unbroken (readable.loose shape member) (by decide)
  have arrows : ∀ arrow ∈ drawing.arrows, Unbroken arrow.line :=
    fun arrow member => Arrow.line_unbroken (readable.arrows arrow member)
  simp only [Drawing.lines, header, List.forall_mem_append, List.forall_mem_map,
    List.forall_mem_cons, unbroken_append, unbroken_escaped readable.name]
  exact ⟨⟨⟨⟨by decide, clusters⟩, loose⟩, arrows⟩, by decide⟩

theorem newline_of_break {lines : List String} (unbroken : ∀ text ∈ lines, Unbroken text) :
    ∀ c ∈ ("\n".intercalate lines).toList, Text.isLineBreak c = true → c = '\n' := by
  rw [String.toList_intercalate]
  induction lines with
  | nil => simp
  | cons first rest ih =>
    intro c member breaks
    have outside : c ∉ first.toList := by
      intro inside
      simp [unbroken first List.mem_cons_self c inside] at breaks
    cases rest with
    | nil => exact absurd (by simpa using member) outside
    | cons second rest =>
      rw [List.map_cons, List.map_cons, List.intercalate_cons_cons, List.mem_append,
        List.mem_append] at member
      rcases member with (inside | newline) | later
      · exact absurd inside outside
      · simpa using newline
      · exact ih (fun text listed => unbroken text (List.mem_cons_of_mem _ listed)) c later breaks

theorem read_lines {drawing : Drawing} (readable : drawing.Readable) :
    Drawing.read ("\n".intercalate drawing.lines) = some drawing := by
  have apart : ∀ line ∈ drawing.lines.map String.toList, '\n' ∉ line := by
    rw [List.forall_mem_map]
    intro text member inside
    exact absurd (Drawing.lines_unbroken readable text member '\n' inside) (by decide)
  have split := List.splitOn_intercalate '\n' apart (by simp [Drawing.lines, header])
  have newline : "\n".toList = ['\n'] := rfl
  rw [Drawing.read, String.toList_intercalate, newline, split, Reader.all,
    Drawing.lines_run readable]

end ControlFlow.Dot
