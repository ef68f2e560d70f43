import VirtualAdapter.Host.State

/-!
# Actions, one step at a time

What a joined action answers and leaves follows from its parts.  Notes are not
looked at: they never influence a later call.
-/

namespace VirtualAdapter
namespace Action

variable {State Value Other : Type}

section Parts

variable (state : State)

@[simp]
theorem value_bind
    (action : Action State Value)
    (continuation : Value → Action State Other) :
    ((action >>= continuation) state).value =
      (continuation (action state).value (action state).state).value := rfl

@[simp]
theorem state_bind
    (action : Action State Value)
    (continuation : Value → Action State Other) :
    ((action >>= continuation) state).state =
      (continuation (action state).value (action state).state).state := rfl

@[simp]
theorem state_andThen
    (action : Action State Value)
    (continuation : Value → Action State Other) :
    (action.andThen continuation state).state =
      (continuation (action state).value (action state).state).state := rfl

@[simp]
theorem value_pure (value : Value) :
    ((pure value : Action State Value) state).value = value := rfl

@[simp]
theorem state_pure (value : Value) :
    ((pure value : Action State Value) state).state = state := rfl

@[simp]
theorem state_answer (value : Value) :
    ((answer value : Action State Value) state).state = state := rfl

@[simp]
theorem value_inspect (reading : State → Value) :
    (inspect reading state).value = reading state := rfl

@[simp]
theorem state_inspect (reading : State → Value) :
    (inspect reading state).state = state := rfl

@[simp]
theorem state_change (step : State → State) :
    (change step state).state = step state := rfl

@[simp]
theorem state_trace
    (level : TraceLevel)
    (message : String)
    (fields : List (String × String)) :
    (trace level message fields state).state = state := rfl

/-- What an action leaves comes before what follows it leaves. -/
theorem bind_apply
    (action : Action State Value)
    (continuation : Value → Action State Other) :
    (action >>= continuation) state =
      { continuation (action state).value (action state).state with
        notes := (action state).notes ++
          (continuation (action state).value (action state).state).notes } :=
  rfl

theorem pure_apply (value : Value) :
    (pure value : Action State Value) state = ⟨value, state, []⟩ :=
  rfl

end Parts

/-- What follows an action that is known to leave no notes. -/
theorem bind_of_reply
    {state next : State}
    {value : Value}
    {action : Action State Value}
    (reply : action state = ⟨value, next, []⟩)
    (continuation : Value → Action State Other) :
    (action >>= continuation) state = continuation value next := by
  show action.andThen continuation state = _
  unfold andThen
  rw [reply]
  rfl

/-- Whatever the state is, the answer satisfies a condition. -/
def Answers
    (valid : Value → Prop)
    (action : Action State Value) : Prop :=
  ∀ state, valid (action state).value

theorem Answers.bind
    {valid : Other → Prop}
    {action : Action State Value}
    {continuation : Value → Action State Other}
    (rest : ∀ value, (continuation value).Answers valid) :
    (action >>= continuation).Answers valid :=
  fun state => rest (action state).value (action state).state

theorem Answers.pure
    {valid : Value → Prop}
    {value : Value}
    (holds : valid value) : (Pure.pure value : Action State Value).Answers valid :=
  fun _ => holds

end Action

namespace Host

variable {State Value : Type} (host : Host State)

@[simp]
theorem value_ask (action : Action State Value) :
    (ask action host).value = (action host.driver).value := rfl

@[simp]
theorem state_ask (action : Action State Value) :
    (ask action host).state =
      { host with driver := (action host.driver).state } := rfl

@[simp]
theorem state_changeDriver (step : State → State) :
    (changeDriver step host).state =
      { host with driver := step host.driver } := rfl

@[simp]
theorem value_freshNumber :
    (freshNumber host).value = host.lastNumber + 1 := rfl

@[simp]
theorem state_freshNumber :
    (freshNumber host).state =
      { host with lastNumber := host.lastNumber + 1 } := rfl

@[simp]
theorem value_manager? (id : ManagerId) :
    (manager? id host).value = host.managers.get? id := rfl

@[simp]
theorem state_manager? (id : ManagerId) :
    (manager? id host).state = host := rfl

@[simp]
theorem value_adapter? (id : AdapterId) :
    (adapter? id host).value = host.adapters.get? id := rfl

@[simp]
theorem state_adapter? (id : AdapterId) :
    (adapter? id host).state = host := rfl

@[simp]
theorem value_session? (id : SessionId) :
    (session? id host).value = host.sessions.get? id := rfl

@[simp]
theorem state_session? (id : SessionId) :
    (session? id host).state = host := rfl

@[simp]
theorem value_packet? (id : PacketId) :
    (packet? id host).value = host.packets.get? id := rfl

@[simp]
theorem state_packet? (id : PacketId) :
    (packet? id host).state = host := rfl

@[simp]
theorem state_changeManager
    (id : ManagerId)
    (step : Manager → Manager) :
    (changeManager id step host).state =
      { host with managers := host.managers.update id step } := rfl

@[simp]
theorem state_changeAdapter
    (id : AdapterId)
    (step : Adapter → Adapter) :
    (changeAdapter id step host).state =
      { host with adapters := host.adapters.update id step } := rfl

@[simp]
theorem state_count
    (id : SessionId)
    (step : SessionStats → SessionStats) :
    (count id step host).state =
      { host with
        sessions := host.sessions.update id fun session =>
          { session with stats := step session.stats } } := rfl

end Host
end VirtualAdapter
