import VirtualAdapter.OsCode
import VirtualAdapter.Tasks.Path

/-!
# Folders

A folder is known by the names that lead to it from the top.  A path is
followed step by step, and every step has to arrive at a folder that exists.
-/

namespace VirtualAdapter
namespace Tasks

/-- A folder, by the names from the top down. -/
structure Folder where
  /-- The names that lead to it. -/
  names : List String
  deriving DecidableEq

/-- What can be found under a name. -/
inductive Entry
  | folder
  | file
  deriving DecidableEq

/-- There is nothing of a name. -/
def nothingThere : OsCode := ⟨2⟩

/-- A file stands where a folder is needed. -/
def notAFolder : OsCode := ⟨20⟩

/-- A name or a path is too long for the system. -/
def nameTooLong : OsCode := ⟨36⟩

/-- The most bytes that a name may have. -/
def longestName : Nat := 255

/-- The most bytes that a path may have. -/
def longestPath : Nat := 4095

namespace Folder

/-- The path from the top to a folder. -/
def path (folder : Folder) : Path := ⟨.top, folder.names⟩

/-- The last of the names that lead to a folder. -/
def lastName (folder : Folder) : String :=
  folder.names.getLast?.getD ""

/-- The folder of a path that starts at the top. -/
def ofText (text : String) : Folder :=
  ⟨(text.splitOn "/").filter fun name => !isIdle name⟩

/-- Take one step from a folder, given what exists. -/
def step
    (look : Folder → Option Entry)
    (folder : Folder)
    (name : String) : Except OsCode Folder :=
  if isIdle name then .ok folder
  else if name = ".." then .ok ⟨folder.names.dropLast⟩
  else if longestName < name.utf8ByteSize then .error nameTooLong
  else
    let next : Folder := ⟨folder.names ++ [name]⟩
    match look next with
    | none => .error nothingThere
    | some .file => .error notAFolder
    | some .folder => .ok next

/-- The folder to which a path from the top leads, given what exists. -/
def reach
    (look : Folder → Option Entry)
    (path : Path) : Except OsCode Folder :=
  if longestPath < path.text.utf8ByteSize then .error nameTooLong
  else path.steps.foldlM (step look) ⟨[]⟩

end Folder
end Tasks
end VirtualAdapter
