/-!
The written form of composite values on one line: lists, sets, tuples, optional values and records.

The members come already written; these functions only put the separators and brackets around them.
-/

namespace RemoteCall.Layout

/-- The members with a comma and a space between them. -/
def separated (items : List String) : String := ", ".intercalate items

/-- `[a, b]`. -/
def list (items : List String) : String := "[" ++ separated items ++ "]"

/-- `(a, b)`. -/
def tuple (items : List String) : String := "(" ++ separated items ++ ")"

/-- Members between braces, with no blanks inside: the form of a set. -/
def set (items : List String) : String := "\x7b" ++ separated items ++ "\x7d"

/-- `name(a, b)`. -/
def applied (name : String) (items : List String) : String := name ++ tuple items

/-- `None`, or `Some(a)`. -/
def option : Option String → String
  | none => "None"
  | some item => applied "Some" [item]

/-- A field with its name. -/
def field (f : String × String) : String := f.1 ++ ": " ++ f.2

/-- A record: its name, and its fields between braces. -/
def record (name : String) (fields : List (String × String)) : String :=
  name ++ " \x7b " ++ separated (fields.map field) ++ " \x7d"

/-- A record that has more fields than it shows. -/
def openRecord (name : String) (fields : List (String × String)) : String :=
  name ++ " \x7b " ++ separated (fields.map field) ++ ", .. \x7d"

end RemoteCall.Layout
