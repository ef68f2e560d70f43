/-!
# Driver log records

A driver reports what it does as records of three levels with a time stamp.
-/

namespace VirtualAdapter

/-- How serious a record is. -/
inductive LogLevel
  | info
  | warn
  | error
  deriving DecidableEq

namespace LogLevel

/-- The name of a level. -/
def text : LogLevel → String
  | info => "info"
  | warn => "warn"
  | error => "error"

/-- The rank of a level, the least serious first. -/
def rank : LogLevel → Nat
  | info => 0
  | warn => 1
  | error => 2

/-- Levels compare by how serious they are. -/
def order (left right : LogLevel) : Ordering :=
  compare left.rank right.rank

/-- The level of a driver's code; unknown codes are errors. -/
def ofCode (code : Int) : LogLevel :=
  if code = 0 then info else if code = 1 then warn else error

end LogLevel

/-- A moment after the Unix epoch. -/
structure Timestamp where
  /-- Whole seconds. -/
  seconds : Nat
  /-- The rest in nanoseconds. -/
  nanoseconds : Nat
  deriving DecidableEq

namespace Timestamp

/-- The Unix epoch in ticks of 100 nanoseconds since the start of 1601. -/
def unixEpochTicks : Nat := 116444736000000000

/-- The moment of a tick count; earlier ones count as the Unix epoch. -/
def ofTicks (ticks : UInt64) : Timestamp :=
  let elapsed := ticks.toNat - unixEpochTicks
  ⟨elapsed / 10000000, elapsed % 10000000 * 100⟩

end Timestamp

/-- Where a driver's records go. -/
inductive Sink
  /-- Into the trace of the program. -/
  | trace
  /-- To a receiver that puts its tag before each record. -/
  | tagged (tag : String)
  deriving DecidableEq

/-- The choice of a manager for the records of its driver. -/
inductive Logger
  /-- The records become events of the trace. -/
  | trace
  /-- The records go to a receiver of the caller. -/
  | custom (tag : String)
  /-- The records are dropped. -/
  | disabled
  deriving DecidableEq

namespace Logger

/-- The sink that a driver is given. -/
def sink? : Logger → Option Sink
  | trace => some .trace
  | custom tag => some (.tagged tag)
  | disabled => none

/-- The description of a choice. -/
def text : Logger → String
  | trace => "Logger::Tracing"
  | custom _ => "Logger::Custom(..)"
  | disabled => "Logger::Disabled"

end Logger
end VirtualAdapter
