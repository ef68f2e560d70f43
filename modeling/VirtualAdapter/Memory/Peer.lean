import VirtualAdapter.Memory.Calls

/-!
# The in-memory driver: the network side

The other end of the rings: it puts packets in, takes sent ones out, and can
take a device away under its session.
-/

namespace VirtualAdapter
namespace Memory
namespace MemoryDriver

/-- Put a packet into the inbound ring of the session on a named device. -/
def inject (name : String) (content : Bytes) : Action MemoryDriver Bool :=
  fun driver =>
    match validatePacketSize content.length, driver.sessionFor? name with
    | .ok _, some (number, entry) =>
        if entry.failed then ⟨false, driver, []⟩
        else
          match entry.inbound.alloc content.length with
          | .error _ => ⟨false, driver, []⟩
          | .ok (handle, allocated) =>
              let filled := do
                let written ← allocated.write handle content
                written.commit handle
              match filled with
              | .error _ =>
                  ⟨false,
                    driver.setSession number
                      { entry with inbound := allocated }, []⟩
              | .ok inbound =>
                  ⟨true,
                    (driver.setSession number { entry with inbound }).setSignal
                      entry.readEvent,
                    [.traced .trace "injected inbound packet"
                      [("adapter", name), ("len", toString content.length)]]⟩
    | _, _ => ⟨false, driver, []⟩

/-- Take out what was sent, up to the first buffer that is still being filled. -/
def drainOutbound (name : String) : Action MemoryDriver (List Bytes) :=
  fun driver =>
    match driver.sessionFor? name with
    | none => ⟨[], driver, []⟩
    | some (number, entry) =>
        let ring := entry.outbound
        let (contents, outbound) := ring.drain (ring.head - ring.read)
        ⟨contents, driver.setSession number { entry with outbound }, []⟩

/-- Take the device away under the session that runs on it. -/
def failSession (name : String) : Action MemoryDriver Bool :=
  fun driver =>
    match driver.sessionFor? name with
    | none => ⟨false, driver, []⟩
    | some (number, entry) =>
        ⟨true,
          (driver.setSession number { entry with failed := true }).setSignal
            entry.readEvent,
          driver.record .error s!"{name}: adapter removed"⟩

end MemoryDriver
end Memory
end VirtualAdapter
