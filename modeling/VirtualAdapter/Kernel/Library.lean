import VirtualAdapter.Error
import VirtualAdapter.Kernel.Call

/-!
# Loading the driver's library

Every function that is needed has to be there; they are looked up in a fixed
order, and the first one that is missing is reported.
-/

namespace VirtualAdapter
namespace Kernel

/-- A library file. -/
structure Library where
  /-- The functions that it has. -/
  exports : List Function

namespace Library

/-- The library with everything in it. -/
def complete : Library := ⟨Function.exports⟩

/-- The library without one function. -/
def lacking (missing : Function) : Library :=
  ⟨Function.exports.filter (· ≠ missing)⟩

/-- Load a library, if its file is there. -/
def load (file : Option Library) : Except Error Unit :=
  match file with
  | none => .error (.driver "failed to load")
  | some library =>
      match Function.exports.find? fun needed => !library.exports.contains needed with
      | some missing => .error (.driver ("missing entry point " ++ missing.name))
      | none => .ok ()

end Library
end Kernel
end VirtualAdapter
