import ControlFlow.Graph.Arena
import ControlFlow.Graph.Dot.Sheet
import ControlFlow.Summary.Counting

set_option autoImplicit false

namespace ControlFlow

structure Session extends Counters where
  arena : Arena
  drawing : List String

namespace Session

def initial : Session := ⟨.zero, .empty, []⟩

def settle (session : Session) : EStateM.Result Failure Arena Graph →
    Except Failure Graph × Session
  | .ok graph arena => (.ok graph, { session with arena := arena })
  | .error failure arena => (.error failure, { session with arena := arena })

def build (session : Session) (name body metadata : Json) (clock : Moment) :
    Except Failure Graph × Session :=
  session.settle ((Arena.build name body metadata clock).run session.arena)

def transform (session : Session) (program : Except Failure Program) (metadata : Json)
    (selection : Selection) (clock : Moment) : Except Failure Graph × Session :=
  session.settle ((Arena.transform program metadata selection clock).run session.arena)

def summarize (session : Session) (program : Except Failure Program) (metadata : Json)
    (clock : Moment) : Except Failure Summary × Session :=
  match (Counters.summarize program metadata clock).run session.toCounters with
  | .ok summary counters => (.ok summary, { session with toCounters := counters })
  | .error failure counters => (.error failure, { session with toCounters := counters })

-- Draws a graph, or what stands where a graph should be.
def draw (session : Session) (graph : Option Graph) (name : Json) :
    Except Failure String × Session :=
  match (Dot.draft graph name).run session.drawing with
  | .ok text lines => (.ok text, { session with drawing := lines })
  | .error failure lines => (.error failure, { session with drawing := lines })

end Session

end ControlFlow
