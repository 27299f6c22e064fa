import RichText.Value

/-!
# Fields — named values

Values handed over by name, in the order they were given; no name is given twice.
-/

namespace RichText

/-- Named fields in the order they were given. -/
abbrev Fields := List (Text × Value)

namespace Fields

/-- The value of a field. -/
def get? (fields : Fields) (name : Text) : Option Value :=
  (fields.find? (·.1 == name)).map (·.2)

/-- The value of a field, or a default. -/
def getD (fields : Fields) (name : Text) (default : Value) : Value :=
  (fields.get? name).getD default

def names (fields : Fields) : List Text := fields.map (·.1)

end Fields

end RichText
