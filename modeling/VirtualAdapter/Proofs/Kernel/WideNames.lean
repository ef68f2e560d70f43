import VirtualAdapter.Kernel.Binding
import VirtualAdapter.Kernel.LogCallback
import VirtualAdapter.Proofs.Action
import VirtualAdapter.Proofs.Text.Utf16

/-!
# Names on their way to the library, texts on their way back

A name that is accepted reaches the library as code units that spell it and no
other name.  A text that the library hands over with a terminator reaches the
receiver of the records as it is.
-/

namespace VirtualAdapter

open Text.Utf16 (Spells decode encodeTerminated)

/-- A name is accepted if it is not empty, holds no NUL and fits the pool. -/
theorem validatePoolString_eq_ok_iff {what value : String} :
    validatePoolString what value = .ok () ↔
      value ≠ "" ∧ '\x00' ∉ value.toList ∧
        (encodeTerminated value).length ≤ maxPoolUnits := by
  unfold validatePoolString
  split
  case isTrue empty => simp [String.isEmpty_iff.mp empty]
  case isFalse nonempty =>
    rw [String.isEmpty_iff] at nonempty
    split
    case isTrue broken => simp_all
    case isFalse whole =>
      rw [List.contains_iff_mem] at whole
      split
      case isTrue long => simp [nonempty, whole, Nat.not_le.mpr long]
      case isFalse short => simp [nonempty, whole, Nat.not_lt.mp short]

namespace Kernel

/-! ## Names -/

/-- An accepted name is taken as its code units with a terminator. -/
theorem wide_of_accepted
    {what value : String}
    (accepted : validatePoolString what value = .ok ()) :
    wide what value = .ok (encodeTerminated value) := by
  rw [wide, accepted]
  rfl

/-- The units of an accepted name fit the pool, and there is at least one
before the terminator. -/
theorem length_of_accepted
    {what value : String}
    (accepted : validatePoolString what value = .ok ()) :
    2 ≤ (encodeTerminated value).length ∧
      (encodeTerminated value).length ≤ 256 := by
  obtain ⟨nonempty, _, short⟩ := validatePoolString_eq_ok_iff.mp accepted
  refine ⟨?_, short⟩
  have some : 0 < value.toList.length :=
    List.length_pos_iff.mpr fun none => nonempty (String.toList_eq_nil_iff.mp none)
  have units := Text.Utf16.length_le_length_encode value.toList
  rw [encodeTerminated, List.length_append, List.length_singleton]
  omega

variable (machine : Machine)

/-- A call is noted, whatever is told about its function. -/
theorem calls_begin (call : Call) :
    (Machine.begin call machine).state.calls = machine.calls ++ [call] := by
  unfold Machine.begin
  dsimp only
  split <;> rfl

/-- A call that gives out a handle is noted once. -/
theorem calls_handleCall (call : Call) :
    (Machine.handleCall call machine).state.calls = machine.calls ++ [call] := by
  rw [← calls_begin machine call]
  unfold Machine.handleCall
  rw [Action.state_bind]
  cases (Machine.begin call machine).value <;> rfl

/-- The library is called once, whatever the call comes to. -/
theorem calls_handleOutcome
    {Value : Type}
    (call : Call)
    (wrap : Handle → Value)
    (cause : OsCode → Error) :
    (handleOutcome call wrap cause machine).state.calls =
      machine.calls ++ [call] := by
  rw [← calls_handleCall machine call]
  unfold handleOutcome
  rw [Action.state_bind]
  cases (Machine.handleCall call machine).value <;> rfl

/-- The library is told the code units of the name and of the tunnel type. -/
theorem calls_createAdapter
    {name tunnelType : String}
    (name_accepted : validatePoolString "adapter name" name = .ok ())
    (type_accepted : validatePoolString "tunnel type" tunnelType = .ok ())
    (guid : Option Guid) :
    (createAdapter name tunnelType guid machine).state.calls =
      machine.calls ++ [.createAdapter (encodeTerminated name)
        (encodeTerminated tunnelType) guid] := by
  unfold createAdapter
  rw [wide_of_accepted name_accepted, wide_of_accepted type_accepted]
  exact calls_handleOutcome machine _ _ _

theorem calls_openAdapter
    {name : String}
    (accepted : validatePoolString "adapter name" name = .ok ()) :
    (openAdapter name machine).state.calls =
      machine.calls ++ [.openAdapter (encodeTerminated name)] := by
  unfold openAdapter
  rw [wide_of_accepted accepted]
  exact calls_handleOutcome machine _ _ _

/-! ## Records -/

/-- A record is read up to its terminator. -/
theorem text?_encodeTerminated
    {text : String}
    (whole : '\x00' ∉ text.toList)
    (level : Int)
    (ticks : UInt64)
    (beyond : List UInt16) :
    RawRecord.text? ⟨level, ticks, some (encodeTerminated text ++ beyond)⟩ =
      some text :=
  congrArg some (Text.Utf16.decodeTerminated_encodeTerminated whole beyond)

/-- A library that calls back leaves what the sink makes of the record. -/
theorem notes_emit
    {machine : Machine}
    (hasCallback : machine.hasCallback = true)
    (record : RawRecord) :
    (emit record machine).notes = record.notes machine.sink := by
  have read : (Action.current : Action Machine Machine) machine =
      ⟨machine, machine, []⟩ := rfl
  rw [emit, Action.bind_of_reply read, if_pos hasCallback, Action.bind_apply]
  exact List.append_nil _

/-- A name that is accepted takes 2 to 256 code units, of which the last one
alone is zero; those before it spell the name and no other one, and are what
the library is told when the adapter is created or opened.  A text without NUL
that the library hands over in the same form reaches the receiver unchanged,
whatever lies in memory beyond it. -/
theorem texts_cross_unchanged :
    (∀ what name, validatePoolString what name = .ok () →
      wide what name = .ok (encodeTerminated name) ∧
      2 ≤ (encodeTerminated name).length ∧
      (encodeTerminated name).length ≤ 256 ∧
      (∀ position, (encodeTerminated name)[position]? = some 0 ↔
        position + 1 = (encodeTerminated name).length) ∧
      String.ofList (decode (encodeTerminated name).dropLast) = name ∧
      ∀ characters, Spells (encodeTerminated name).dropLast characters ↔
        characters = name.toList) ∧
    (∀ (machine : Machine) name,
      validatePoolString "adapter name" name = .ok () →
        (openAdapter name machine).state.calls =
          machine.calls ++ [.openAdapter (encodeTerminated name)] ∧
        ∀ tunnelType guid,
          validatePoolString "tunnel type" tunnelType = .ok () →
            (createAdapter name tunnelType guid machine).state.calls =
              machine.calls ++ [.createAdapter (encodeTerminated name)
                (encodeTerminated tunnelType) guid]) ∧
    (∀ what other first second units,
      wide what first = .ok units → wide other second = .ok units →
        first = second) ∧
    ∀ (text : String) level ticks beyond, '\x00' ∉ text.toList →
      let record : RawRecord :=
        ⟨level, ticks, some (encodeTerminated text ++ beyond)⟩
      record.text? = some text ∧
      ∀ machine : Machine, machine.hasCallback = true →
        (∀ tag, machine.sink = some (.tagged tag) →
          (emit record machine).notes =
            [.record
              { tag, level := .ofCode level, message := text
                timestamp := some (.ofTicks ticks) }]) ∧
        (machine.sink = some .trace →
          (emit record machine).notes =
            [.event
              { level := Note.traceLevel (.ofCode level), fromDriver := true
                message := text }]) := by
  refine ⟨fun what name accepted => ?_, fun machine name accepted => ?_, ?_, ?_⟩
  case refine_1 =>
    obtain ⟨_, whole, _⟩ := validatePoolString_eq_ok_iff.mp accepted
    obtain ⟨many, few⟩ := length_of_accepted accepted
    have units : (encodeTerminated name).dropLast =
        Text.Utf16.encode name.toList := List.dropLast_concat
    refine ⟨wide_of_accepted accepted, many, few,
      Text.Utf16.getElem?_encodeTerminated_eq_zero_iff whole, ?_, ?_⟩
    · rw [units, Text.Utf16.decode_encode, String.ofList_toList]
    · rw [units]
      exact fun characters => Text.Utf16.spells_encode_iff
  case refine_2 =>
    exact ⟨calls_openAdapter machine accepted,
      fun _ guid fits => calls_createAdapter machine accepted fits guid⟩
  case refine_3 =>
    intro what other first second units one two
    have spelled : ∀ {kind value}, wide kind value = .ok units →
        encodeTerminated value = units := by
      intro kind value taken
      unfold wide at taken
      cases accepted : validatePoolString kind value with
      | error error => rw [accepted] at taken; cases taken
      | ok => rw [accepted] at taken; exact Except.ok.inj taken
    exact Text.Utf16.encodeTerminated_injective
      ((spelled one).trans (spelled two).symm)
  case refine_4 =>
    intro text level ticks beyond whole record
    have read : record.text? = some text :=
      text?_encodeTerminated whole level ticks beyond
    refine ⟨read, fun machine hasCallback => ⟨fun tag sink => ?_, fun sink => ?_⟩⟩
    · rw [notes_emit hasCallback, sink]
      unfold RawRecord.notes
      rw [read]
    · rw [notes_emit hasCallback, sink]
      unfold RawRecord.notes
      rw [read]
      rfl

/-- A name with a character beyond the basic plane crosses as a pair of units,
and comes back from a record that ends before what lies beyond it. -/
theorem texts_cross_unchanged_of_rocket :
    wide "adapter name" "tun🚀" =
        .ok [0x74, 0x75, 0x6E, 0xD83D, 0xDE80, 0] ∧
      String.ofList (decode [0x74, 0x75, 0x6E, 0xD83D, 0xDE80]) = "tun🚀" ∧
      (emit ⟨1, 0, some [0xD83D, 0xDE80, 0, 0x41]⟩
          { hasCallback := true, sink := some (.tagged "log") }).notes =
        [.record
          { tag := "log", level := .warn, message := "🚀"
            timestamp := some ⟨0, 0⟩ }] := by
  obtain ⟨names, _, _, records⟩ := texts_cross_unchanged
  have accepted : validatePoolString "adapter name" "tun🚀" = .ok () := by
    rw [validatePoolString_eq_ok_iff]
    decide +kernel
  have name : encodeTerminated "tun🚀" =
      [0x74, 0x75, 0x6E, 0xD83D, 0xDE80, 0] := by decide +kernel
  have message : [0xD83D, 0xDE80, 0, 0x41] = encodeTerminated "🚀" ++ [0x41] := by
    decide +kernel
  obtain ⟨taken, _, _, _, spelled, _⟩ := names "adapter name" "tun🚀" accepted
  rw [name] at taken spelled
  obtain ⟨_, heard⟩ := records "🚀" 1 0 [0x41] (by decide +kernel)
  refine ⟨taken, spelled, ?_⟩
  rw [message]
  exact (heard { hasCallback := true, sink := some (.tagged "log") } rfl).1 "log" rfl

end Kernel
end VirtualAdapter
