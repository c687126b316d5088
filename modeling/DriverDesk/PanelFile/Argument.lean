import DriverDesk.Text.Line
import DriverDesk.Text.Lowercase

/-!
# Arguments

Values that hold several fields. `fields` are separated by commas and
colons up to a semicolon; `pair?` cuts at the first comma.
-/

namespace DriverDesk.Argument

/-- Whether a character ends a field. -/
def separates (c : Char) : Bool := c = ',' || c = ':'

/-- The fields from `field` on, which holds the characters of the current field
read so far, backwards. Every field loses its leading blanks when a separator
ends it, its trailing blanks when a semicolon does, and both at the end of the
value, where an empty field does not count. -/
def fieldsFrom (field : List Char) : List Char → List (List Char)
  | [] => if field.isEmpty then [] else [Text.trim field.reverse]
  | c :: r =>
    if separates c then Text.trimStart field.reverse :: fieldsFrom [] r
    else if c = ';' then [Text.trimEnd field.reverse]
    else fieldsFrom (c :: field) r

/-- The fields of a value; the empty value has one empty field. -/
def fields (value : String) : List String :=
  if value.isEmpty then [""] else (fieldsFrom [] value.toList).map String.ofList

/-- The two sides of the first comma. -/
def pair? (value : String) : Option (String × String) :=
  (Text.cut? ',' value.toList).map fun p =>
    (String.ofList (Text.trimEnd p.1), String.ofList (Text.trimStart p.2))

/-- Whether a value turns something on. -/
def isOn (value : String) : Bool := Text.asciiLower value == "true" || value == "1"

end DriverDesk.Argument
