import ControlFlow.Proofs.CommandLine.Ending

set_option autoImplicit false

namespace ControlFlow.CommandLine

/-! The words before the command -/

section

variable {grammar : Grammar}

theorem words_cons {text : String} {rest : List String} {words : List Word}
    (scanned : grammar.words (text :: rest) = .ok words) :
    (text = "--" ∧ words = ⟨text, .separator⟩ :: rest.map (⟨·, .operand⟩)) ∨
      text ≠ "--" ∧ ∃ role more, grammar.role text.toList = .ok role ∧
        grammar.words rest = .ok more ∧ words = ⟨text, role⟩ :: more := by
  rw [Grammar.words] at scanned
  split at scanned
  next separator => exact .inl ⟨separator, (Except.ok.inj scanned).symm⟩
  next ordinary =>
    cases role : grammar.role text.toList with
    | error fault => simp [role, bind, Except.bind] at scanned
    | ok found =>
      cases later : grammar.words rest with
      | error fault => simp [role, later, bind, Except.bind] at scanned
      | ok more =>
        simp only [role, later, bind, Except.bind, Except.ok.injEq] at scanned
        exact .inr ⟨ordinary, found, more, rfl, rfl, scanned.symm⟩

theorem map_text_words {line : List String} {words : List Word}
    (scanned : grammar.words line = .ok words) : words.map Word.text = line := by
  induction line generalizing words with
  | nil =>
    cases scanned
    rfl
  | cons text rest ih =>
    obtain ⟨-, rfl⟩ | ⟨-, role, more, -, later, rfl⟩ := words_cons scanned
    · simp [Function.comp_def]
    · simp [ih later]

-- The role of a word does not depend on the words behind it.
theorem words_take {line : List String} {words : List Word}
    (scanned : grammar.words line = .ok words) (count : Nat) :
    grammar.words (line.take count) = .ok (words.take count) := by
  induction line generalizing words count with
  | nil =>
    cases scanned
    simp [Grammar.words]
  | cons text rest ih =>
    cases count with
    | zero => rfl
    | succ count =>
      rw [List.take_succ_cons, Grammar.words]
      obtain ⟨separator, rfl⟩ | ⟨ordinary, role, more, found, later, rfl⟩ := words_cons scanned
      · simp [separator]
      · simp [ordinary, found, ih later, bind, Except.bind]

/-- Words fall into those before the command, the command, and what is left to it; whatever is left
to it, the rest is read alike. -/
def CutAt (grammar : Grammar) (words : List Word) (reading result : Reading) (name : String)
    (rest : List String) : Prop :=
  ∃ before after, words = before ++ ⟨name, .operand⟩ :: after ∧ after.map Word.text = rest ∧
    ∀ tail, grammar.read (before ++ ⟨name, .operand⟩ :: tail) reading =
      .ok { result with command := some (name, tail.map Word.text) }

theorem CutAt.after {words first : List Word} {reading next result : Reading} {name : String}
    {rest : List String}
    (passes : ∀ tail, grammar.read (first ++ tail) reading = grammar.read tail next)
    (cut : CutAt grammar words next result name rest) :
    CutAt grammar (first ++ words) reading result name rest := by
  obtain ⟨before, after, rfl, left, reads⟩ := cut
  refine ⟨first ++ before, after, by simp, left, ?_⟩
  intro tail
  rw [List.append_assoc, passes, reads]

theorem cutAt_of_read {among : List String} (place : grammar.place = .command among)
    {words : List Word} {reading result : Reading} {name : String} {rest : List String}
    (fresh : reading.command = none) (reads : grammar.read words reading = .ok result)
    (named : result.command = some (name, rest)) :
    CutAt grammar words reading result name rest := by
  fun_induction Grammar.read grammar words reading with
  | case1 | case14 | case15 =>
    -- The words end before a command.
    cases reads
    simp [Reading.leave, fresh] at named
  | case2 word tail reading role ih =>
    have passes (tail : List Word) : grammar.read ([word] ++ tail) reading =
        grammar.read tail (reading.leave [word.text]) := by
      rw [List.singleton_append, Grammar.read.eq_def]
      simp [role]
    exact (ih fresh reads).after passes
  | case4 word tail reading switch isShort attached role bundle bundled ready ih =>
    cases checked : bundle.bindings.forM (Binding.check grammar.program) with
    | error stop => simp [checked, bind, Except.bind] at reads
    | ok accepted =>
      have passes (tail : List Word) : grammar.read ([word] ++ tail) reading =
          grammar.read tail (reading.take bundle) := by
        rw [List.singleton_append, Grammar.read.eq_def]
        simp [role, bundled, ready, checked, bind, Except.bind]
      simp only [checked, bind, Except.bind] at reads
      exact (ih fresh reads).after passes
  | case6 word reading switch isShort attached role bundle bundled waiting waits value tail operand
      bindings ih =>
    cases checked : bindings.forM (Binding.check grammar.program) with
    | error stop => simp [checked, bind, Except.bind] at reads
    | ok accepted =>
      have passes (tail : List Word) : grammar.read ([word, value] ++ tail) reading =
          grammar.read tail (reading.take ⟨bindings, none, bundle.stray⟩) := by
        simp only [List.cons_append, List.nil_append, Grammar.read, role, bundled, waits, operand]
        simp [bindings, checked, bind, Except.bind]
      simp only [checked, bind, Except.bind] at reads
      exact (ih fresh reads).after passes
  | case8 word tail reading role names commands known =>
    cases reads
    cases named
    refine ⟨[], tail, by simp [← role], rfl, ?_⟩
    intro other
    rw [List.nil_append, Grammar.read.eq_def]
    simpa [commands] using known
  | case10 | case11 | case12 | case13 | case17 | case18 =>
    -- The grammar has an operand and no command.
    simp_all
  | _ => cases reads

theorem readLine_iff {among : List String} (place : grammar.place = .command among)
    {line : List String} {words : List Word} (scanned : grammar.words line = .ok words)
    {result : Reading} :
    grammar.readLine line = .ok result ↔
      grammar.read words .empty = .ok result ∧ result.command.isSome := by
  rw [Grammar.readLine]
  cases found : grammar.read words .empty with
  | error stop => simp [scanned, found, bind, Except.bind]
  | ok reading =>
    simp only [scanned, found, place, bind, Except.bind]
    split
    next present =>
      constructor
      · rintro ⟨⟩
        exact ⟨rfl, present⟩
      · exact And.left
    next absent =>
      simp only [reduceCtorEq, false_iff, not_and]
      rintro ⟨⟩
      exact absent

theorem readLine_cut {among : List String} (place : grammar.place = .command among)
    {line : List String} {result : Reading} (reads : grammar.readLine line = .ok result) :
    ∃ head name rest, line = head ++ name :: rest ∧ result.command = some (name, rest) ∧
      grammar.readLine (head ++ [name]) = .ok { result with command := some (name, []) } := by
  cases scanned : grammar.words line with
  | error fault => simp [Grammar.readLine, scanned] at reads
  | ok words =>
    obtain ⟨found, present⟩ := (readLine_iff place scanned).mp reads
    obtain ⟨⟨name, rest⟩, named⟩ := Option.isSome_iff_exists.mp present
    obtain ⟨before, after, rfl, rfl, cut⟩ := cutAt_of_read place rfl found named
    obtain rfl := map_text_words scanned
    have short : grammar.words (before.map Word.text ++ [name]) =
        .ok (before ++ [⟨name, .operand⟩]) := by
      simpa [List.take_append, List.take_of_length_le] using words_take scanned (before.length + 1)
    refine ⟨before.map Word.text, name, after.map Word.text, by simp, named, ?_⟩
    exact (readLine_iff place short).mpr ⟨cut [], rfl⟩

theorem readLine_append {among : List String} (place : grammar.place = .command among)
    {head rest : List String} {name : String} {words : List Word} {result : Reading}
    (scanned : grammar.words (head ++ name :: rest) = .ok words)
    (reads : grammar.readLine (head ++ [name]) = .ok result)
    (named : result.command = some (name, [])) :
    grammar.readLine (head ++ name :: rest) = .ok { result with command := some (name, rest) } := by
  have short : grammar.words (head ++ [name]) = .ok (words.take (head.length + 1)) := by
    simpa [List.take_append, List.take_of_length_le] using words_take scanned (head.length + 1)
  obtain ⟨found, -⟩ := (readLine_iff place short).mp reads
  obtain ⟨before, after, split, last, cut⟩ := cutAt_of_read place rfl found named
  obtain rfl := List.map_eq_nil_iff.mp last
  have whole : words = before ++ ⟨name, .operand⟩ :: words.drop (head.length + 1) := by
    simpa [split] using (List.take_append_drop (head.length + 1) words).symm
  have left : (words.drop (head.length + 1)).map Word.text = rest := by
    rw [List.map_drop, map_text_words scanned]
    simp [List.drop_append]
  rw [readLine_iff place scanned]
  refine ⟨?_, rfl⟩
  rw [whole, cut, left]

end

structure Cut (line : List String) where
  head : List String
  command : String
  rest : List String
  outer : Reading
  inner : Reading
  whole : line = head ++ command :: rest
  before : mainGrammar.readLine (head ++ [command]) = .ok outer
  named : outer.command = some (command, [])
  after : (grammarOf command).readLine rest = .ok inner

def Cut.output {line : List String} (cut : Cut line) : Option String :=
  cut.inner.value? .output <|> cut.outer.value? .output

section

variable {line : List String} {request : Request}

theorem nonempty_cut (parsed : Request.parse line = .ok request) : Nonempty (Cut line) := by
  rw [Request.parse] at parsed
  cases reads : mainGrammar.readLine line with
  | error stop => simp [reads, bind, Except.bind] at parsed
  | ok outer =>
    obtain ⟨head, name, rest, whole, named, before⟩ := readLine_cut rfl reads
    cases after : (grammarOf name).readLine rest with
    | error stop => simp [reads, named, after, bind, Except.bind] at parsed
    | ok inner => exact ⟨⟨head, name, rest, _, inner, whole, before, rfl, after⟩⟩

theorem output_eq (parsed : Request.parse line = .ok request) (cut : Cut line) :
    request.output = cut.output := by
  obtain ⟨head, name, rest, outer, inner, rfl, before, named, after⟩ := cut
  cases scanned : mainGrammar.words (head ++ name :: rest) with
  | error fault => simp [Request.parse, Grammar.readLine, scanned, bind, Except.bind] at parsed
  | ok words =>
    have reads := readLine_append rfl scanned before named
    simp only [Request.parse, reads, Option.getD_some, after, bind, Except.bind] at parsed
    split at parsed
    next =>
      cases parsed
      rfl
    next => cases parsed

end

/-! Runs -/

structure Outcome.Silent (files : Files) (outcome : Outcome) : Prop where
  ending : outcome.ending ≠ .exit 0
  printed : outcome.printed = ""
  untouched : outcome.files = files

theorem Outcome.Reports.silent {files : Files} {outcome : Outcome}
    (reports : outcome.Reports files) : outcome.Silent files :=
  ⟨by simp [reports.ending], reports.printed, reports.untouched⟩

theorem failed_silent (files : Files) (reported : List String) (failure : Failure) :
    (failed files reported failure).Silent files := by
  cases handled : isHandled failure with
  | true => exact (failed_reports files reported handled).silent
  | false => constructor <;> simp [failed, handled]

/-- What a request comes to, under the settings that hold for it. -/
def Request.Makes (files : Files) (timestamp : Int) (request : Request) (product : Product) :
    Prop :=
  ∃ settings warnings, Settings.load files (request.settingsPath? files) = .ok (settings, warnings) ∧
    request.command.refusal? files = none ∧
    (request.command.make files timestamp (request.command.adjust settings)).result = .ok product

theorem request_run_ends (files : Files) (timestamp : Int) (request : Request) :
    (request.run files timestamp).Silent files ∨
      ∃ product, request.Makes files timestamp product ∧
        (request.run files timestamp).Delivers files request.output product := by
  rw [Request.run]
  cases loaded : Settings.load files (request.settingsPath? files) with
  | error failure => exact .inl (by constructor <;> simp)
  | ok setup =>
    obtain ⟨settings, warnings⟩ := setup
    cases accepted : request.command.refusal? files with
    | some refusal =>
      simp only [Request.perform, accepted]
      exact .inl (by constructor <;> simp)
    | none =>
      cases made :
          (request.command.make files timestamp (request.command.adjust settings)).result with
      | error failure =>
        obtain ⟨reported, ended⟩ := perform_error warnings accepted made
        simp only [ended]
        exact .inl (failed_silent files reported failure)
      | ok product =>
        rcases perform_ok warnings accepted made with delivered | reports
        · exact .inr ⟨product, ⟨settings, warnings, loaded, accepted, made⟩, delivered⟩
        · exact .inl reports.silent

theorem run_ends {line : List String} (unasked : Request.parse line ≠ .error .help) (files : Files)
    (timestamp : Int) :
    (run files timestamp line).Silent files ∨
      ∃ request product, Request.parse line = .ok request ∧
        request.Makes files timestamp product ∧
        (run files timestamp line).Delivers files request.output product := by
  rw [run]
  cases parsed : Request.parse line with
  | error stop =>
    cases stop with
    | help => contradiction
    | fault program fault => exact .inl (by constructor <;> simp)
  | ok request =>
    rcases request_run_ends files timestamp request with silent | ⟨product, makes, delivered⟩
    · exact .inl silent
    · exact .inr ⟨request, product, rfl, makes, delivered⟩

theorem run_delivers (files : Files) (timestamp : Int) (line : List String)
    (unasked : Request.parse line ≠ .error .help) :
    ((run files timestamp line).ending ≠ .exit 0 →
      (run files timestamp line).printed = "" ∧ (run files timestamp line).files = files) ∧
    ((run files timestamp line).ending = .exit 0 →
      ∃ request product, Request.parse line = .ok request ∧
        request.Makes files timestamp product ∧ Nonempty (Cut line) ∧
        ∀ cut : Cut line,
          (∀ path, cut.output = some path → path ≠ "" →
            (run files timestamp line).printed = "" ∧
            ∃ location, files.locate (Path.ofText path) = .ok location ∧
              files.Rewrites (run files timestamp line).files location
                (product.text ++ "\n").toUTF8.toList) ∧
          (cut.output = none ∨ cut.output = some "" →
            (run files timestamp line).printed = product.text ++ "\n" ∧
            (run files timestamp line).files = files)) := by
  rcases run_ends unasked files timestamp with silent | ⟨request, product, parsed, makes, delivered⟩
  · exact ⟨fun _ => ⟨silent.printed, silent.untouched⟩, fun ended => absurd ended silent.ending⟩
  · refine ⟨fun ended => absurd delivered.ending ended, fun _ => ?_⟩
    refine ⟨request, product, parsed, makes, nonempty_cut parsed, fun cut => ?_⟩
    have placed := delivered.placed
    rw [output_eq parsed cut] at placed
    constructor
    · intro path wanted nonempty
      have named : given? cut.output = some path := by
        rw [wanted, given?]
        simp [nonempty]
      rw [named] at placed
      exact ⟨placed.1, Files.write_rewrites placed.2⟩
    · intro unwanted
      have nowhere : given? cut.output = none := by
        rcases unwanted with absent | blank
        · rw [absent]
          rfl
        · rw [blank]
          rfl
      rw [nowhere] at placed
      exact placed

def twiceDirected : List String :=
  ["-o", "x.txt", "micro", "a.json", "-o", "y.txt"]

def twiceDirectedCut : Cut twiceDirected where
  head := ["-o", "x.txt"]
  command := "micro"
  rest := ["a.json", "-o", "y.txt"]
  outer := ⟨[⟨outputSwitch, "x.txt"⟩], none, some ("micro", []), []⟩
  inner := ⟨[⟨outputSwitch, "y.txt"⟩], some "a.json", none, []⟩
  whole := rfl
  before := by rfl
  named := rfl
  after := by rfl

theorem run_delivers_twice_directed :
    (run oneFunctionFiles 0 twiceDirected).ending = .exit 0 ∧
      (run oneFunctionFiles 0 twiceDirected).printed = "" ∧
      ∃ request product, Request.parse twiceDirected = .ok request ∧
        request.Makes oneFunctionFiles 0 product ∧
        (run oneFunctionFiles 0 twiceDirected).files.lookup ["y.txt"] =
          some (.file (product.text ++ "\n").toUTF8.toList) ∧
        (run oneFunctionFiles 0 twiceDirected).files.lookup ["x.txt"] = none := by
  have ended : (run oneFunctionFiles 0 twiceDirected).ending = .exit 0 := by decide +kernel
  have unasked : Request.parse twiceDirected ≠ .error .help := by decide +kernel
  obtain ⟨request, product, parsed, makes, -, placed⟩ :=
    (run_delivers oneFunctionFiles 0 twiceDirected unasked).2 ended
  obtain ⟨silent, location, located, rewrites⟩ :=
    (placed twiceDirectedCut).1 "y.txt" (by decide +kernel) (by decide)
  obtain rfl : ["y.txt"] = location := by
    have known : oneFunctionFiles.locate (Path.ofText "y.txt") = .ok ["y.txt"] := by decide +kernel
    exact Except.ok.inj (known.symm.trans located)
  refine ⟨ended, silent, request, product, parsed, makes, rewrites.content, ?_⟩
  rw [rewrites.elsewhere _ (by decide)]
  decide +kernel

end ControlFlow.CommandLine
