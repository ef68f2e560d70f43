import VirtualAdapter.Guid
import VirtualAdapter.Packet
import VirtualAdapter.Text.Utf16

/-!
# Calls to the kernel driver's library and to the system

The driver comes with a library of functions; its events are objects of the
system.  Names are handed over as terminated UTF-16 text.
-/

namespace VirtualAdapter
namespace Kernel

/-- The functions that are called. -/
inductive Function
  | createAdapter
  | openAdapter
  | closeAdapter
  | deleteDriver
  | getAdapterLuid
  | getRunningDriverVersion
  | setLogger
  | startSession
  | endSession
  | getReadWaitEvent
  | receivePacket
  | releaseReceivePacket
  | allocateSendPacket
  | sendPacket
  | createEvent
  | setEvent
  | resetEvent
  | closeHandle
  | waitForSingleObject
  | waitForMultipleObjects
  deriving DecidableEq

namespace Function

/-- The name of a function. -/
def name : Function → String
  | createAdapter => "WintunCreateAdapter"
  | openAdapter => "WintunOpenAdapter"
  | closeAdapter => "WintunCloseAdapter"
  | deleteDriver => "WintunDeleteDriver"
  | getAdapterLuid => "WintunGetAdapterLUID"
  | getRunningDriverVersion => "WintunGetRunningDriverVersion"
  | setLogger => "WintunSetLogger"
  | startSession => "WintunStartSession"
  | endSession => "WintunEndSession"
  | getReadWaitEvent => "WintunGetReadWaitEvent"
  | receivePacket => "WintunReceivePacket"
  | releaseReceivePacket => "WintunReleaseReceivePacket"
  | allocateSendPacket => "WintunAllocateSendPacket"
  | sendPacket => "WintunSendPacket"
  | createEvent => "CreateEventW"
  | setEvent => "SetEvent"
  | resetEvent => "ResetEvent"
  | closeHandle => "CloseHandle"
  | waitForSingleObject => "WaitForSingleObject"
  | waitForMultipleObjects => "WaitForMultipleObjects"

/-- The functions of the driver's library, in the order in which they are
looked up. -/
def exports : List Function :=
  [createAdapter, openAdapter, closeAdapter, deleteDriver, getAdapterLuid,
    getRunningDriverVersion, setLogger, startSession, endSession,
    getReadWaitEvent, receivePacket, releaseReceivePacket, allocateSendPacket,
    sendPacket]

/-- The functions of the system. -/
def systemFunctions : List Function :=
  [createEvent, setEvent, resetEvent, closeHandle, waitForSingleObject,
    waitForMultipleObjects]

/-- The function of a name. -/
def ofName? (text : String) : Option Function :=
  (exports ++ systemFunctions).find? fun function => function.name == text

end Function

/-- A handle of the library or of the system. -/
abbrev Handle := Nat

/-- A call with its arguments. -/
inductive Call
  | createAdapter (name tunnelType : List UInt16) (guid : Option Guid)
  | openAdapter (name : List UInt16)
  | closeAdapter (adapter : Handle)
  | deleteDriver
  | getAdapterLuid (adapter : Handle)
  | getRunningDriverVersion
  | setLogger (hasCallback : Bool)
  | startSession (adapter : Handle) (capacity : UInt32)
  | endSession (session : Handle)
  | getReadWaitEvent (session : Handle)
  | receivePacket (session : Handle)
  | releaseReceivePacket (session : Handle) (buffer : Nat) (content : Bytes)
  | allocateSendPacket (session : Handle) (size : Nat)
  | sendPacket (session : Handle) (buffer : Nat) (content : Bytes)
  /-- The event stays set until it is reset, and is not set at first. -/
  | createEvent
  | setEvent (event : Handle)
  | resetEvent (event : Handle)
  | closeHandle (handle : Handle)
  | waitForSingleObject (event : Handle) (milliseconds : UInt32)
  | waitForMultipleObjects (events : List Handle) (milliseconds : UInt32)
  deriving DecidableEq

namespace Call

/-- The function that is called. -/
def function : Call → Function
  | createAdapter _ _ _ => .createAdapter
  | openAdapter _ => .openAdapter
  | closeAdapter _ => .closeAdapter
  | deleteDriver => .deleteDriver
  | getAdapterLuid _ => .getAdapterLuid
  | getRunningDriverVersion => .getRunningDriverVersion
  | setLogger _ => .setLogger
  | startSession _ _ => .startSession
  | endSession _ => .endSession
  | getReadWaitEvent _ => .getReadWaitEvent
  | receivePacket _ => .receivePacket
  | releaseReceivePacket _ _ _ => .releaseReceivePacket
  | allocateSendPacket _ _ => .allocateSendPacket
  | sendPacket _ _ _ => .sendPacket
  | createEvent => .createEvent
  | setEvent _ => .setEvent
  | resetEvent _ => .resetEvent
  | closeHandle _ => .closeHandle
  | waitForSingleObject _ _ => .waitForSingleObject
  | waitForMultipleObjects _ _ => .waitForMultipleObjects

/-- An identifier by its fields. -/
def guidText (guid : Option Guid) : String :=
  match guid with
  | none => "null"
  | some guid =>
      String.intercalate "-"
        [Text.fixedHexText .lower 8 guid.data1.toNat,
          Text.fixedHexText .lower 4 guid.data2.toNat,
          Text.fixedHexText .lower 4 guid.data3.toNat,
          Bytes.hex guid.data4]

/-- A buffer by its number and content. -/
def bufferText (buffer : Nat) (content : Bytes) : String :=
  s!"b{buffer}=" ++ content.shown.text

/-- Handles in a list. -/
def handlesText (handles : List Handle) : String :=
  "[" ++ String.intercalate ", " (handles.map toString) ++ "]"

/-- The arguments of a call. -/
def arguments : Call → List String
  | createAdapter name tunnelType guid =>
      [Text.Utf16.decodeTerminated name, Text.Utf16.decodeTerminated tunnelType,
        guidText guid]
  | openAdapter name => [Text.Utf16.decodeTerminated name]
  | deleteDriver | getRunningDriverVersion => []
  | setLogger hasCallback => [if hasCallback then "set" else "null"]
  | startSession adapter capacity => [toString adapter, toString capacity]
  | releaseReceivePacket session buffer content
  | sendPacket session buffer content =>
      [toString session, bufferText buffer content]
  | allocateSendPacket session size => [toString session, toString size]
  | createEvent => ["1", "0"]
  | closeAdapter handle | getAdapterLuid handle | endSession handle
  | getReadWaitEvent handle | receivePacket handle | setEvent handle
  | resetEvent handle | closeHandle handle => [toString handle]
  | waitForSingleObject event milliseconds =>
      [toString event, toString milliseconds]
  | waitForMultipleObjects events milliseconds =>
      [handlesText events, "0", toString milliseconds]

/-- A call on one line. -/
def text (call : Call) : String :=
  call.function.name ++ "(" ++ String.intercalate ", " call.arguments ++ ")"

end Call
end Kernel
end VirtualAdapter
