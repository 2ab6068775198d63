/-! The printed form of lists and of records with named fields. -/
namespace TwinStack.Text

/-- Items between brackets, a comma and a blank between two of them. -/
def bracketed (items : List String) : String :=
  "[" ++ ", ".intercalate items ++ "]"

/-- A record's name, then its fields between braces, each as its name, a colon and its text. -/
def record (name : String) (fields : List (String × String)) : String :=
  let texts := fields.map fun field => field.1 ++ ": " ++ field.2
  name ++ " \x7b " ++ ", ".intercalate texts ++ " \x7d"

def truth (b : Bool) : String :=
  if b then "true" else "false"

end TwinStack.Text
