import VirtualAdapter.Kernel.Machine
import VirtualAdapter.Note

/-!
# Records of the kernel driver

The library calls back with a level, a tick count and a terminated text.  A
record without a text is dropped.  A receiver that breaks off has got its
record, and the library does not notice.
-/

namespace VirtualAdapter
namespace Kernel

/-- A record as the library hands it over. -/
structure RawRecord where
  /-- The code of the level. -/
  level : Int
  /-- When it happened. -/
  ticks : UInt64
  /-- The text with its terminator, if there is one. -/
  message : Option (List UInt16)

namespace RawRecord

/-- The text of a record. -/
def text? (record : RawRecord) : Option String :=
  record.message.map Text.Utf16.decodeTerminated

/-- What a sink makes of a record. -/
def notes (record : RawRecord) (sink : Option Sink) : List Note :=
  match record.text?, sink with
  | none, _ | _, none => []
  | some message, some .trace =>
      Note.ofSink (some .trace) (.ofCode record.level) message
  | some message, some (.tagged tag) =>
      [.record
        { tag, level := .ofCode record.level, message
          timestamp := some (.ofTicks record.ticks) }]

end RawRecord

/-- The library calls back with a record, if it was given a callback; answers
whether it was. -/
def emit (record : RawRecord) : Action Machine Bool := do
  let machine ← Action.current
  if machine.hasCallback then
    Action.leave (record.notes machine.sink)
    return true
  else return false

end Kernel
end VirtualAdapter
