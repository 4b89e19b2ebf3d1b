/-!
# Data values

The tree of a document in the data format, with members in the order they are written. Whole numbers
and doubles are kept apart: a double is written with at least one decimal, a whole number without.
-/

namespace Folio

inductive Json where
  | null
  | bool (value : Bool)
  | nat (value : Nat)
  | double (value : Float)
  | text (value : String)
  | array (items : List Json)
  | object (members : List (String × Json))

namespace Json

/-- The first member of that name. -/
def member? (name : String) : Json → Option Json
  | object members => (members.find? (·.1 == name)).map (·.2)
  | _ => none

/-- A list of members without those that have no value. -/
def present (members : List (String × Option Json)) : List (String × Json) :=
  members.filterMap fun (name, value) => value.map (name, ·)

end Json

end Folio
