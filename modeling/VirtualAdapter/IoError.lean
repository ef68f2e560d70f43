import VirtualAdapter.OsCode

/-!
# System errors

An error of the operating system carries a code, an error of a library a kind
with or without a text of its own.
-/

namespace VirtualAdapter

/-- An error that the system or a library reports. -/
inductive IoError
  /-- A code of the operating system. -/
  | os (code : OsCode)
  /-- Nothing but a kind. -/
  | bare (kind : IoKind)
  /-- A kind with a text of its own. -/
  | custom (kind : IoKind) (text : String)
  deriving DecidableEq

namespace IoError

/-- The kind of an error. -/
def kind : IoError → IoKind
  | os code => code.kind
  | bare kind => kind
  | custom kind _ => kind

/-- The text of an error. -/
def text : IoError → String
  | os code => code.text
  | bare kind => kind.text
  | custom _ text => text

end IoError
end VirtualAdapter
