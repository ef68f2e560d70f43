import VirtualAdapter.Text.Unshown

/-!
# Quoted text

The form in which a text is shown inside the description of a value: between
double quotes, with every character escaped that would not show as itself.
-/

namespace VirtualAdapter
namespace Text

/-- One character of a quoted text. -/
def quoteChar (character : Char) : String :=
  match character with
  | '"' => "\\\""
  | '\\' => "\\\\"
  | '\n' => "\\n"
  | '\r' => "\\r"
  | '\t' => "\\t"
  | '\x00' => "\\0"
  | other =>
      if isShown other then other.toString
      else "\\u\x7b" ++ String.ofList (Nat.toDigits 16 other.toNat) ++ "\x7d"

/-- A text between double quotes. -/
def quoted (text : String) : String :=
  "\"" ++ String.join (text.toList.map quoteChar) ++ "\""

/-- The description of a value with named parts. -/
def describeFields
    (name : String)
    (fields : List (String × String)) : String :=
  name ++ " \x7b " ++
    ", ".intercalate (fields.map fun field => field.1 ++ ": " ++ field.2) ++
    " \x7d"

/-- A truth value as text. -/
def truth (value : Bool) : String :=
  if value then "true" else "false"

end Text
end VirtualAdapter
