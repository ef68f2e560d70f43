import VirtualAdapter.Note

/-!
# Actions

An action turns a state into an answer, a new state and notes.  Actions join
in sequence; their notes follow each other in the same order.
-/

namespace VirtualAdapter

/-- What an action gives back. -/
structure Reply (State Value : Type) where
  /-- The answer. -/
  value : Value
  /-- The state afterwards. -/
  state : State
  /-- What it leaves behind, first things first. -/
  notes : List Note

/-- A step of the program. -/
def Action (State Value : Type) : Type := State → Reply State Value

namespace Action

variable {State Value Other : Type}

/-- Answer without doing anything. -/
def answer (value : Value) : Action State Value :=
  fun state => ⟨value, state, []⟩

/-- Go on with the answer of an action. -/
def andThen
    (action : Action State Value)
    (continuation : Value → Action State Other) : Action State Other :=
  fun state =>
    let first := action state
    let second := continuation first.value first.state
    ⟨second.value, second.state, first.notes ++ second.notes⟩

instance : Monad (Action State) where
  pure := answer
  bind := andThen

/-- Read the state. -/
def current : Action State State := fun state => ⟨state, state, []⟩

/-- Read a part of the state. -/
def inspect (reading : State → Value) : Action State Value :=
  fun state => ⟨reading state, state, []⟩

/-- Change the state. -/
def change (step : State → State) : Action State Unit :=
  fun state => ⟨(), step state, []⟩

/-- Leave notes behind. -/
def leave (notes : List Note) : Action State Unit :=
  fun state => ⟨(), state, notes⟩

/-- Leave an event of the trace behind. -/
def trace
    (level : TraceLevel)
    (message : String)
    (fields : List (String × String) := []) : Action State Unit :=
  leave [.traced level message fields]

/-- Do an action that leaves no trace; its records are kept. -/
def untraced (action : Action State Value) : Action State Value :=
  fun state =>
    let reply := action state
    { reply with notes := (Note.records reply.notes).map .record }

/-- Do an action and answer also what it leaves behind. -/
def listen (action : Action State Value) : Action State (Value × List Note) :=
  fun state =>
    let reply := action state
    ⟨(reply.value, reply.notes), reply.state, reply.notes⟩

/-- Do an action on a part of a larger state. -/
def on
    {Whole : Type}
    (part : Whole → State)
    (replace : Whole → State → Whole)
    (action : Action State Value) : Action Whole Value :=
  fun whole =>
    let reply := action (part whole)
    ⟨reply.value, replace whole reply.state, reply.notes⟩

/-- The state after an action. -/
abbrev after (action : Action State Value) (state : State) : State :=
  (action state).state

end Action
end VirtualAdapter
