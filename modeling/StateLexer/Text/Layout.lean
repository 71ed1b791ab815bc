/-!
# Layout of inspected values

The one-line form in which records and optional values are shown for inspection.
-/

namespace StateLexer.Text

/-- The fields of a record, each as its name, a colon and its text. -/
def fieldList (fields : List (String × String)) : String :=
  ", ".intercalate (fields.map fun f => f.1 ++ ": " ++ f.2)

def record (name : String) (fields : List (String × String)) : String :=
  name ++ " \x7b " ++ fieldList fields ++ " \x7d"

def abridgedRecord (name : String) (fields : List (String × String)) : String :=
  name ++ " \x7b " ++ fieldList fields ++ ", .. \x7d"

def optional : Option String → String
  | none => "None"
  | some s => "Some(" ++ s ++ ")"

def truth (b : Bool) : String := if b then "true" else "false"

end StateLexer.Text
