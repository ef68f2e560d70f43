import VirtualAdapter.IoError

/-!
# Errors of the library

Every call that can be refused says why with one of these causes.  System
errors convert to causes and back; four kinds have a cause of their own, all
others are carried along.
-/

namespace VirtualAdapter

/-- Why a call was refused. -/
inductive Error
  /-- The driver reported a failure. -/
  | driver (message : String)
  /-- No adapter has this name. -/
  | notFound (name : String)
  /-- Something limited is used up; the call may succeed later. -/
  | resourceExhausted (what : String)
  /-- No packet is there; the call may succeed later. -/
  | wouldBlock
  /-- The session is over and every later call is refused, too. -/
  | sessionEnded
  /-- The time allowed for the call is over. -/
  | timedOut
  /-- The caller's own event ended the call. -/
  | interrupted
  /-- An argument is not acceptable. -/
  | invalidArgument (message : String)
  /-- The call breaks a rule that the caller has to keep. -/
  | contractViolation (message : String)
  /-- A system error without a cause of its own here. -/
  | io (error : IoError)
  deriving DecidableEq

namespace Error

/-- The name of a cause. -/
def name : Error → String
  | driver _ => "Driver"
  | notFound _ => "NotFound"
  | resourceExhausted _ => "ResourceExhausted"
  | wouldBlock => "WouldBlock"
  | sessionEnded => "SessionEnded"
  | timedOut => "TimedOut"
  | interrupted => "Interrupted"
  | invalidArgument _ => "InvalidArgument"
  | contractViolation _ => "ContractViolation"
  | io _ => "Io"

/-- The text of an error. -/
def message : Error → String
  | driver message => "driver error: " ++ message
  | notFound name => "adapter not found: " ++ name
  | resourceExhausted what => "resource exhausted: " ++ what
  | wouldBlock => "no packet available"
  | sessionEnded => "session has ended"
  | timedOut => "operation timed out"
  | interrupted => "operation interrupted"
  | invalidArgument message => "invalid argument: " ++ message
  | contractViolation message => "contract violation: " ++ message
  | io error => "I/O error: " ++ error.text

/-- The same call may succeed later. -/
def isTransient : Error → Bool
  | wouldBlock | resourceExhausted _ => true
  | _ => false

/-- No later call can succeed. -/
def isTerminal : Error → Bool
  | sessionEnded => true
  | _ => false

/-- The system error behind an error. -/
def source? : Error → Option IoError
  | io error => some error
  | _ => none

/-- The cause that a system error stands for. -/
def ofIo (error : IoError) : Error :=
  match error.kind with
  | .wouldBlock => .wouldBlock
  | .timedOut => .timedOut
  | .interrupted => .interrupted
  | .notFound => .notFound error.text
  | _ => .io error

/-- The system error that stands for a cause. -/
def toIo (error : Error) : IoError :=
  match error with
  | .io error => error
  | .wouldBlock => .bare .wouldBlock
  | .timedOut => .bare .timedOut
  | .interrupted => .custom .interrupted error.message
  | .sessionEnded => .custom .unexpectedEof error.message
  | .notFound _ => .custom .notFound error.message
  | .invalidArgument _ => .custom .invalidInput error.message
  | .driver _ | .resourceExhausted _ | .contractViolation _ =>
      .custom .other error.message

/-- The refusal of a second session on one adapter. -/
def sessionBusy : Error :=
  .contractViolation "adapter already has an active session"

end Error

/-- How a call can end without a result. -/
inductive Failure
  /-- The call was refused. -/
  | refused (error : Error)
  /-- The call broke off; only the message that it left is known. -/
  | crashed (message : String)
  deriving DecidableEq

/-- The outcome of a call that can fail. -/
abbrev Outcome (Value : Type) := Except Failure Value

namespace Failure

/-- The failure of a call that is limited to a time beyond the last moment of
the clock. -/
def beyondClock : Failure := .crashed "overflow when adding duration to instant"

/-- The text of a failure. -/
def message : Failure → String
  | refused error => error.message
  | crashed message => message

end Failure

/-- The outcome of a refused call. -/
abbrev refuse {Value : Type} (error : Error) : Outcome Value :=
  .error (.refused error)

end VirtualAdapter
