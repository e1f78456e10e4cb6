import ControlFlow.Proofs.Dot.Sheet
import ControlFlow.Proofs.Graph.Arena
import ControlFlow.Proofs.Json.Reader
import ControlFlow.Proofs.Summary.Counting
import ControlFlow.Session

set_option autoImplicit false

namespace ControlFlow

namespace Session

inductive Operation where
  | build (name body metadata : Json) (clock : Moment)
  | transform (program : Except Failure Program) (metadata function : Json) (clock : Moment)
  | summarize (program : Except Failure Program) (metadata : Json) (clock : Moment)
  | draw (graph : Option Graph) (name : Json)

inductive Answer where
  | graph (result : Except Failure Graph)
  | summary (result : Except Failure Summary)
  | text (result : Except Failure String)

def perform (session : Session) : Operation → Answer × Session
  | .build name body metadata clock => (session.build name body metadata clock).map .graph id
  | .transform program metadata function clock =>
      (session.transform program metadata (.ofJson function) clock).map .graph id
  | .summarize program metadata clock => (session.summarize program metadata clock).map .summary id
  | .draw graph name => (session.draw graph name).map .text id

def after (session : Session) : List Operation → Session
  | [] => session
  | operation :: rest => (session.perform operation).2.after rest

-- A text can always be shown, and of the other values those without an integer that is too long.
def Operation.IsNamed : Operation → Prop
  | .build name _ _ _ => name.isLegible
  | .transform .. | .summarize .. | .draw .. => True

-- The graph that an operation is about to make, its moment aside.
def Operation.graph? : Operation → Option Graph
  | .build name body metadata _ => (Graph.ofWire name body metadata 0).toOption
  | .transform program metadata function _ =>
      (Graph.ofProgram program metadata (.ofJson function) 0).toOption
  | .summarize .. | .draw .. => none

/-- The arena is untouched, or cleared, or holds all of the operation's graph. Only a build that is
not named leaves the slot of a start. -/
inductive Leaves (operation : Operation) (before : Arena) : Arena → Prop where
  | untouched : Leaves operation before before
  | cleared : Leaves operation before .empty
  | begun (unnamed : ¬operation.IsNamed) : Leaves operation before .begun
  | filled (graph : Graph) (whole : operation.graph? = some graph) :
      Leaves operation before (.ofGraph graph)

section

variable {operation : Operation} {before after : Arena}

theorem Leaves.consistent_or_begun (leaves : Leaves operation before after)
    (known : before.Consistent ∨ before = .begun) : after.Consistent ∨ after = .begun := by
  cases leaves with
  | untouched => exact known
  | cleared => exact .inl Arena.empty_consistent
  | begun unnamed => exact .inr rfl
  | filled graph whole => exact .inl (Arena.ofGraph_consistent graph)

end

theorem settle_deliver (session : Session) (graph : Graph) (clock : Moment) :
    (session.settle (Arena.deliver graph clock)).2.arena = .ofGraph graph := by
  rw [Arena.deliver]
  cases clock.milliseconds <;> rfl

theorem build_leaves (session : Session) (name body metadata : Json) (clock : Moment) :
    Leaves (.build name body metadata clock) session.arena
      (session.build name body metadata clock).2.arena := by
  rw [build, Arena.build_run]
  cases valid : Metadata.load metadata with
  | error failure => exact .untouched
  | ok known =>
    cases loaded : bodyOfJson body with
    | error failure => exact .cleared
    | ok items =>
      cases made : Graph.ofWire name body metadata 0 with
      | error failure =>
        refine .begun fun named : name.isLegible = true => ?_
        rw [ofWire_loaded loaded, valid, Json.text, if_pos named] at made
        cases made
      | ok graph =>
        simp only [settle_deliver]
        exact .filled graph (by simp [Operation.graph?, made, Except.toOption])

theorem transform_leaves (session : Session) (program : Except Failure Program)
    (metadata function : Json) (clock : Moment) :
    Leaves (.transform program metadata function clock) session.arena
      (session.transform program metadata (.ofJson function) clock).2.arena := by
  rw [transform, Arena.transform_run]
  cases made : Graph.ofProgram program metadata (.ofJson function) 0 with
  | error failure => exact .untouched
  | ok graph =>
    simp only [settle_deliver]
    exact .filled graph (by simp [Operation.graph?, made, Except.toOption])

theorem summarize_arena (session : Session) (program : Except Failure Program) (metadata : Json)
    (clock : Moment) : (session.summarize program metadata clock).2.arena = session.arena := by
  rw [summarize]
  split <;> rfl

theorem draw_arena (session : Session) (graph : Option Graph) (name : Json) :
    (session.draw graph name).2.arena = session.arena := by
  rw [draw]
  split <;> rfl

theorem perform_leaves (session : Session) (operation : Operation) :
    Leaves operation session.arena (session.perform operation).2.arena := by
  cases operation with
  | build name body metadata clock => exact build_leaves session name body metadata clock
  | transform program metadata function clock =>
    exact transform_leaves session program metadata function clock
  | summarize program metadata clock =>
    exact summarize_arena session program metadata clock ▸ .untouched
  | draw graph name => exact draw_arena session graph name ▸ .untouched

theorem after_consistent_or_begun (session : Session)
    (known : session.arena.Consistent ∨ session.arena = .begun) (history : List Operation) :
    (session.after history).arena.Consistent ∨ (session.after history).arena = .begun := by
  induction history generalizing session with
  | nil => exact known
  | cons operation rest ih =>
    exact ih _ ((perform_leaves session operation).consistent_or_begun known)

/-! Answers -/

-- So the condition on names is needed: the start's slot stays open.
theorem build_without_name {name body metadata : Json} {known : Metadata} {items : List BodyItem}
    (valid : Metadata.load metadata = .ok known) (loaded : bodyOfJson body = .ok items)
    (unnamed : name.isLegible = false) (clock : Moment) (session : Session) :
    session.build name body metadata clock =
      (.error .longInteger, { session with arena := .begun }) := by
  rw [build, Arena.build_run, ofWire_loaded loaded, valid, loaded, Json.text, unnamed]
  rfl

end Session

/-! Failures -/

/-- A clock whose seconds are a whole number, or a double that is still one when it is multiplied by
a thousand. -/
def Json.CountsSeconds : Json → Prop
  | .int _ => True
  | .float seconds => ∃ negative mantissa exponent,
      seconds.scaleBy 1000 = .finite negative mantissa exponent
  | _ => False

theorem milliseconds_of_countsSeconds {clock : Json} (counts : clock.CountsSeconds) :
    ∃ timestamp, (Moment.ofClock clock).milliseconds = .ok timestamp := by
  cases clock with
  | int seconds => exact ⟨_, rfl⟩
  | float seconds =>
    obtain ⟨negative, mantissa, exponent, product⟩ := counts
    simp [Moment.ofClock, product]
  | null | bool | str | arr | obj => cases counts

namespace Session

theorem settle_deliver_readable (session : Session) (graph : Graph) {clock : Moment}
    {timestamp : Int} (readable : clock.milliseconds = .ok timestamp) :
    (session.settle (Arena.deliver graph clock)).1 = .ok (graph.dated timestamp) := by
  simp [Arena.deliver, readable, settle]

section

variable {session : Session} {clock : Moment} {timestamp : Int} {failure : Failure}

theorem failed_transform (readable : clock.milliseconds = .ok timestamp)
    {program : Except Failure Program} {metadata : Json} {selection : Selection}
    (failed : (session.transform program metadata selection clock).1 = .error failure) :
    (session.transform program metadata selection clock).2.arena = session.arena := by
  rw [transform, Arena.transform_run] at failed ⊢
  cases made : Graph.ofProgram program metadata selection 0 with
  | error cause => rfl
  | ok graph =>
    simp only [made, settle_deliver_readable session graph readable] at failed
    cases failed

theorem failed_summarize (readable : clock.milliseconds = .ok timestamp)
    {program : Except Failure Program} {metadata : Json}
    (failed : (session.summarize program metadata clock).1 = .error failure) :
    (session.summarize program metadata clock).2.toCounters = session.toCounters := by
  rw [summarize, Counters.summarize_run] at failed ⊢
  cases made : Summary.ofProgram program metadata 0 with
  | error cause => rfl
  | ok summary =>
    simp only [made, Counters.deliver, readable] at failed
    cases failed

theorem failed_build (readable : clock.milliseconds = .ok timestamp) {name body metadata : Json}
    (failed : (session.build name body metadata clock).1 = .error failure) :
    Metadata.load metadata = .error failure ∧
        (session.build name body metadata clock).2.arena = session.arena ∨
      (∃ known, Metadata.load metadata = .ok known) ∧
        ((session.build name body metadata clock).2.arena = .empty ∨
          name.text = .error failure ∧
            (session.build name body metadata clock).2.arena = .begun) := by
  rw [build, Arena.build_run] at failed ⊢
  cases valid : Metadata.load metadata with
  | error cause =>
    rw [valid] at failed
    cases failed
    exact .inl ⟨rfl, rfl⟩
  | ok known =>
    refine .inr ⟨⟨known, rfl⟩, ?_⟩
    rw [valid] at failed
    cases loaded : bodyOfJson body with
    | error cause => exact .inl rfl
    | ok items =>
      rw [loaded, ofWire_loaded loaded, valid] at failed
      rw [ofWire_loaded loaded, valid]
      cases shown : name.text with
      | error cause =>
        rw [shown] at failed
        cases failed
        exact .inr ⟨rfl, rfl⟩
      | ok text =>
        rw [shown] at failed
        have done := settle_deliver_readable session
          (.ofFunction text (items.map BodyItem.statement) (known.stamp 0)) readable
        exact absurd (failed.symm.trans done) (by simp)

end

theorem failed_step_leaves_no_graph (history : List Operation) (clock : Json) :
    let session := initial.after history
    let moment := Moment.ofClock clock
    (clock.CountsSeconds →
      (∀ program metadata function failure,
        (session.transform program metadata (.ofJson function) moment).1 = .error failure →
          (session.transform program metadata (.ofJson function) moment).2.arena =
            session.arena) ∧
      (∀ program metadata failure,
        (session.summarize program metadata moment).1 = .error failure →
          (session.summarize program metadata moment).2.toCounters = session.toCounters) ∧
      ∀ name body metadata failure,
        (session.build name body metadata moment).1 = .error failure →
          Metadata.load metadata = .error failure ∧
              (session.build name body metadata moment).2.arena = session.arena ∨
            (∃ known, Metadata.load metadata = .ok known) ∧
              ((session.build name body metadata moment).2.arena = .empty ∨
                name.text = .error failure ∧
                  (session.build name body metadata moment).2.arena = .begun)) ∧
      ∀ operation, Leaves operation session.arena (session.perform operation).2.arena ∧
        ((session.perform operation).2.arena.Consistent ∨
          (session.perform operation).2.arena = .begun) := by
  intro session moment
  have known : session.arena.Consistent ∨ session.arena = .begun :=
    after_consistent_or_begun initial (.inl Arena.empty_consistent) history
  refine ⟨?_, ?_⟩
  · intro counts
    obtain ⟨timestamp, readable⟩ := milliseconds_of_countsSeconds counts
    exact ⟨fun _ _ _ _ => failed_transform readable, fun _ _ _ => failed_summarize readable,
      fun _ _ _ _ => failed_build readable⟩
  · intro operation
    have leaves := perform_leaves session operation
    exact ⟨leaves, leaves.consistent_or_begun known⟩

theorem failed_step_leaves_no_graph_after_build :
    let session := initial.after [.build (.str "f") (.arr [.int 3]) noteMetadata (0 : Int)]
    session.arena.slots.length = 3 ∧
      (session.transform (Program.ofJson (functionTree "f" [])) noteMetadata (.ofJson (.str "g"))
        (.ofClock (.int 0))).2.arena = session.arena ∧
      (session.build (.str "f") (.bool true) noteMetadata (.ofClock (.int 0))).2.arena = .empty := by
  intro session
  obtain ⟨⟨transforms, -, builds⟩, -⟩ := And.imp_left (fun part => part trivial)
    (failed_step_leaves_no_graph
      [.build (.str "f") (.arr [.int 3]) noteMetadata (0 : Int)] (.int 0))
  refine ⟨rfl, transforms _ _ (.str "g") (.functionNotFound "g" "note.py") rfl, ?_⟩
  rcases builds (.str "f") (.bool true) noteMetadata (.notIterable .bool) rfl with refused | cleared
  · cases refused.1
  · exact cleared.2.resolve_right fun unshown => by cases unshown.1

-- Two to the power of 1023 seconds are a double, a thousand times as many are not.
def remoteClock : Json := .float (.finite false 4503599627370496 971)

theorem remote_clock_leaves_graph :
    let step := initial.transform (Program.ofJson (functionTree "f" [])) noteMetadata
      (.ofJson .null) (.ofClock remoteClock)
    step.1 = .error .infiniteInteger ∧ step.2.arena ≠ initial.arena := by
  intro step
  have slots : step.2.arena.slots.length = 2 := by decide +kernel
  refine ⟨by decide +kernel, ?_⟩
  intro same
  rw [same] at slots
  cases slots

end Session

end ControlFlow
