/-!
# TOML values

A TOML document is a table of values. While it is read, a table also remembers how it came to be, for
that decides what may still be added to it: a table with a header of its own is complete when the next
header begins, a table that is only on the way to another may still get a header, and a table made by a
dotted key only grows by dotted keys beside it. What stands as a value is never added to.

Keys keep the order in which they are first written.
-/

namespace Folio.Toml

/-- A number or a moment is kept as it is written. -/
inductive Value where
  | boolean (value : Bool)
  | text (value : String)
  | number (written : String)
  | moment (written : String)
  | array (items : List Value)
  | table (fields : List (String × Value))

/-- How a table came to be. -/
inductive Origin where
  | header
  | onTheWay
  | dotted
deriving DecidableEq, Repr

/-- A part of a document that is being read. The tables of an array have the last one first. -/
inductive Item where
  | value (value : Value)
  | table (origin : Origin) (fields : List (String × Item))
  | tables (elements : List (List (String × Item)))

abbrev Fields := List (String × Item)

namespace Fields

def get? (fields : Fields) (key : String) : Option Item :=
  (fields.find? (·.1 = key)).map (·.2)

/-- Changes the item of a key, or adds one. -/
def update? (fields : Fields) (key : String) (change : Option Item → Option Item) :
    Option Fields :=
  match fields.get? key with
  | none => (change none).map fun item => fields ++ [(key, item)]
  | some old => (change (some old)).map fun item =>
    fields.map fun field => if field.1 = key then (key, item) else field

/-- Adds a value under a dotted key, which must be new. -/
def addValue? (value : Value) : List String → Fields → Option Fields
  | [], _ => none
  | key :: path, fields =>
    fields.update? key fun
      | none =>
        if path.isEmpty then some (.value value)
        else (addValue? value path []).map (.table .dotted)
      | some (.table .dotted inner) =>
        if path.isEmpty then none else (addValue? value path inner).map (.table .dotted)
      | some _ => none

/-- Goes down a path of a header, whose last key is left to `define`. -/
def addHeader? (define : Option Item → Option Item) : List String → Fields → Option Fields
  | [], _ => none
  | key :: path, fields =>
    if path.isEmpty then fields.update? key define
    else fields.update? key fun
      | none => (addHeader? define path []).map (.table .onTheWay)
      | some (.table origin inner) => (addHeader? define path inner).map (.table origin)
      | some (.tables (last :: before)) =>
        (addHeader? define path last).map fun last => .tables (last :: before)
      | some _ => none

/-- Begins the table of a header. -/
def defineTable : Option Item → Option Item
  | none => some (.table .header [])
  | some (.table .onTheWay inner) => some (.table .header inner)
  | some _ => none

/-- Begins another table of an array. -/
def defineElement : Option Item → Option Item
  | none => some (.tables [[]])
  | some (.tables elements) => some (.tables ([] :: elements))
  | some _ => none

/-- Changes the table that a header has begun. -/
def within? (change : Fields → Option Fields) : List String → Fields → Option Fields
  | [], fields => change fields
  | key :: path, fields =>
    fields.update? key fun
      | some (.table origin inner) => (within? change path inner).map (.table origin)
      | some (.tables (last :: before)) =>
        (within? change path last).map fun last => .tables (last :: before)
      | _ => none

end Fields

mutual

def Item.toValue : Item → Value
  | .value v => v
  | .table _ fields => .table (Item.fieldValues fields)
  | .tables elements => .array (Item.tableValues elements).reverse

def Item.fieldValues : List (String × Item) → List (String × Value)
  | [] => []
  | (key, item) :: rest => (key, item.toValue) :: Item.fieldValues rest

def Item.tableValues : List (List (String × Item)) → List Value
  | [] => []
  | fields :: rest => .table (Item.fieldValues fields) :: Item.tableValues rest

end

end Folio.Toml
