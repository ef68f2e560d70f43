import VirtualAdapter.Packet

/-!
# Comparing a part of the library with queues

A trial carries the same operations out on a part of the library and on plain
queues, and compares both after every operation.  The first difference ends
the trial.
-/

namespace VirtualAdapter
namespace Model

/-- How the two sides differ. -/
inductive Finding
  /-- A call was refused that the queues allow. -/
  | refused (call reason : String)
  /-- A call was allowed that the queues refuse. -/
  | accepted (call : String)
  /-- A call gave something else than the queues hold. -/
  | different (what : String)
  /-- A number is not that of the queues. -/
  | miscounted (what : String) (found expected : Nat)
  deriving DecidableEq

/-- A finding in words. -/
def Finding.text : Finding → String
  | refused call reason => s!"{call} failed: {reason}"
  | accepted call => s!"{call} unexpectedly succeeded"
  | different what => s!"{what} differs"
  | miscounted what found expected =>
      s!"{what} {found} but model has {expected}"

/-- When a trial found a difference. -/
inductive Disagreement
  /-- Nothing was compared yet. -/
  | atSetUp (finding : Finding)
  /-- After the operation of this number, counted from zero. -/
  | during (operation : Nat) (finding : Finding)
  /-- After everything was let go of. -/
  | atEnd (finding : Finding)
  deriving DecidableEq

/-- The message of a trial that failed. -/
def Disagreement.message : Disagreement → String
  | atSetUp finding => s!"setup: {finding.text}"
  | during operation finding => s!"op {operation}: {finding.text}"
  | atEnd finding => finding.text

/-- The smallest capacity of a trial. -/
def minCapacity : Nat := 4

/-- The largest capacity of a trial. -/
def maxCapacity : Nat := 64

/-- The capacity of a trial that asks for a capacity: the next power of two
within the limits. -/
def capacityFor (asked : UInt32) : UInt32 :=
  UInt32.ofNat (min (max asked.toNat.nextPowerOfTwo minCapacity) maxCapacity)

/-- The length of a packet that is described by a number. -/
def packetLength (number : UInt16) : Nat := 1 + number.toNat % 1500

/-- A packet that is described by a number and a byte. -/
def packet (number : UInt16) (fill : UInt8) : Bytes :=
  List.replicate (packetLength number) fill

/-- The place that a number selects in a list; empty lists have none. -/
def placeFor {Value : Type} (pick : UInt8) (list : List Value) : Nat :=
  pick.toNat % list.length

/-- The entry that a number selects. -/
def choose {Value : Type} (pick : UInt8) (list : List Value) : Option Value :=
  list[placeFor pick list]?

/-- Two numbers have to agree. -/
def expectCount (what : String) (found expected : Nat) : Except Finding Unit :=
  if found = expected then .ok () else .error (.miscounted what found expected)

/-- Carry operations out one after the other, numbering them. -/
def runAll
    {Operation State : Type}
    (step : Operation → State → Except Finding State) :
    (number : Nat) → List Operation → State → Except Disagreement State
  | _, [], state => .ok state
  | number, operation :: rest, state =>
      match step operation state with
      | .error finding => .error (.during number finding)
      | .ok next => runAll step (number + 1) rest next

end Model
end VirtualAdapter
