import VirtualAdapter.Log

/-!
# Notes

What a call leaves behind besides its answer and the changed state: events of
the trace and records for a receiver of the caller.  Notes never influence a
later call.
-/

namespace VirtualAdapter

/-- How important an event of the trace is. -/
inductive TraceLevel
  | trace
  | debug
  | info
  | warn
  | error
  deriving DecidableEq

/-- The name of a level. -/
def TraceLevel.text : TraceLevel → String
  | trace => "TRACE"
  | debug => "DEBUG"
  | info => "INFO"
  | warn => "WARN"
  | error => "ERROR"

/-- An event of the trace. -/
structure TraceEvent where
  /-- How important it is. -/
  level : TraceLevel
  /-- It is a record of the driver and no event of the library. -/
  fromDriver : Bool := false
  /-- What happened. -/
  message : String
  /-- The circumstances by name. -/
  fields : List (String × String) := []
  deriving DecidableEq

/-- An event on one line: level, message and fields. -/
def TraceEvent.text (event : TraceEvent) : String :=
  event.level.text ++ (if event.fromDriver then " [driver] " else " ") ++
    event.message ++
    String.join (event.fields.map fun field => " " ++ field.1 ++ "=" ++ field.2)

/-- A record as a receiver of the caller gets it. -/
structure SinkRecord where
  /-- The receiver's tag. -/
  tag : String
  /-- How serious the record is. -/
  level : LogLevel
  /-- What the driver reports. -/
  message : String
  /-- When it happened, if the driver says so. -/
  timestamp : Option Timestamp := none
  deriving DecidableEq

/-- What a call leaves behind. -/
inductive Note
  /-- An event of the trace. -/
  | event (event : TraceEvent)
  /-- A record for a receiver. -/
  | record (record : SinkRecord)
  deriving DecidableEq

namespace Note

/-- An event of the library. -/
def traced
    (level : TraceLevel)
    (message : String)
    (fields : List (String × String) := []) : Note :=
  .event { level, message, fields }

/-- The level at which a driver's record appears in the trace. -/
def traceLevel : LogLevel → TraceLevel
  | .info => .info
  | .warn => .warn
  | .error => .error

/-- What a sink makes of a driver's record. -/
def ofSink
    (sink : Option Sink)
    (level : LogLevel)
    (message : String) : List Note :=
  match sink with
  | none => []
  | some .trace =>
      [.event { level := traceLevel level, fromDriver := true, message }]
  | some (.tagged tag) => [.record { tag, level, message }]

/-- The events among notes. -/
def events (notes : List Note) : List TraceEvent :=
  notes.filterMap fun
    | .event entry => some entry
    | .record _ => none

/-- The records among notes. -/
def records (notes : List Note) : List SinkRecord :=
  notes.filterMap fun
    | .record entry => some entry
    | .event _ => none

end Note
end VirtualAdapter
