import VirtualAdapter.Error

/-!
# Codes of failed calls

What the codes of the library's functions mean.
-/

namespace VirtualAdapter
namespace Kernel

/-- The code of a file that is not there. -/
def fileNotFound : OsCode := ⟨2⟩

/-- The cause of a failed call; the operation names it where a text is built. -/
def errorOf (operation : String) (code : OsCode) : Error :=
  match code.value.toNat with
  | 259 => .wouldBlock
  | 38 => .sessionEnded
  | 111 => .resourceExhausted "send ring"
  | 8 | 14 => .resourceExhausted "ring memory"
  | 13 => .driver (operation ++ ": ring corrupt")
  | _ => .io (.os code)

/-- The cause of an adapter that was not created. -/
def createError (name : String) (code : OsCode) : Error :=
  .driver s!"create adapter {name}: {code.text}"

/-- The cause of an adapter that was not opened. -/
def openError (name : String) (code : OsCode) : Error :=
  if code = fileNotFound then .notFound name
  else .driver s!"open adapter {name}: {code.text}"

/-- The cause of a version that was not reported. -/
def versionError (code : OsCode) : Error :=
  if code = fileNotFound then .driver "driver is not loaded"
  else errorOf "get driver version" code

/-- The cause of a driver that was not removed. -/
def deleteError (code : OsCode) : Error :=
  .driver ("delete driver: " ++ (errorOf "delete driver" code).message)

end Kernel
end VirtualAdapter
