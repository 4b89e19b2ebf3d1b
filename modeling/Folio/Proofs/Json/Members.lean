import Folio.Json.Basic
import Mathlib.Data.List.Nodup
/-!
# Reading data values

Readers take a data value apart again. A member is found by its name, wherever it stands and whatever
stands beside it. Some members have to be there; others may be left out, which means that they have no
value, or for a mark that it is off.

A member is read back if the value under its name is the written form of what is read. For members of
which some are left out that needs one fact: no two have the same name, so leaving one out cannot uncover
another.
-/

namespace Folio.Json

variable {α : Type}

/-! ### Readers -/

def text? : Json → Option String
  | text value => some value
  | _ => none

def bool? : Json → Option Bool
  | bool value => some value
  | _ => none

def double? : Json → Option Float
  | double value => some value
  | _ => none

/-- An array whose items are all of one kind. -/
def list? (read : Json → Option α) : Json → Option (List α)
  | array items => items.mapM read
  | _ => none

/-- A member that has to be there. -/
def required? (name : String) (read : Json → Option α) (value : Json) : Option α :=
  (value.member? name).bind read

/-- A member that may be left out. -/
def optional? (name : String) (read : Json → Option α) (value : Json) : Option (Option α) :=
  match value.member? name with
  | some member => (read member).map some
  | none => some none

/-- A mark, which is off if it is left out. -/
def mark? (name : String) (value : Json) : Option Bool :=
  (value.optional? name bool?).map (·.getD false)

/-! ### What is found under a name -/

theorem member?_object (name : String) (members : List (String × Json)) :
    (object members).member? name = members.lookup name := by
  rw [member?]
  induction members with
  | nil => rfl
  | cons first rest ih =>
    obtain ⟨firstName, value⟩ := first
    rw [List.find?_cons, List.lookup_cons]
    by_cases hname : firstName = name
    · simp [hname]
    · have hname' : ¬ name = firstName := fun h => hname h.symm
      simp only [beq_eq_false_iff_ne.mpr hname, beq_eq_false_iff_ne.mpr hname']
      exact ih

theorem lookup_eq_none_of_not_mem {β : Type} {name : String} {members : List (String × β)}
    (hname : name ∉ members.map Prod.fst) : members.lookup name = none := by
  rw [List.lookup_eq_none_iff]
  intro member hmem
  rw [bne_iff_ne]
  rintro rfl
  exact hname (List.mem_map_of_mem hmem)

theorem present_cons (name : String) (value : Option Json) (rest : List (String × Option Json)) :
    present ((name, value) :: rest) = (value.map (name, ·)).toList ++ present rest := by
  rw [present, List.filterMap_cons]
  cases value <;> rfl

theorem map_fst_present_subset (members : List (String × Option Json)) :
    (present members).map Prod.fst ⊆ members.map Prod.fst := by
  intro name hmem
  obtain ⟨member, hmember, rfl⟩ := List.mem_map.mp hmem
  obtain ⟨first, hfirst, hvalue⟩ := List.mem_filterMap.mp hmember
  obtain ⟨value, -, rfl⟩ := Option.map_eq_some_iff.mp hvalue
  exact List.mem_map.mpr ⟨first, hfirst, rfl⟩

/-- With distinct names, what is found under a name is its value, if it has one. -/
theorem member?_present {members : List (String × Option Json)} (hnames : (members.map Prod.fst).Nodup)
    (name : String) : (object (present members)).member? name = (members.lookup name).join := by
  rw [member?_object]
  induction members with
  | nil => rfl
  | cons first rest ih =>
    obtain ⟨firstName, value⟩ := first
    rw [List.map_cons, List.nodup_cons] at hnames
    rw [present_cons, List.lookup_cons]
    by_cases hname : name = firstName
    · subst hname
      have hrest : (present rest).lookup name = none :=
        lookup_eq_none_of_not_mem fun hmem => hnames.1 (map_fst_present_subset rest hmem)
      cases value with
      | none => simpa using hrest
      | some value => simp
    · have hne : (name == firstName) = false := beq_eq_false_iff_ne.mpr hname
      rw [hne, ← ih hnames.2]
      cases value with
      | none => rfl
      | some value =>
        show List.lookup name ((firstName, value) :: present rest) = _
        rw [List.lookup_cons, hne]

/-! ### Reading back -/

theorem list?_map {read : Json → Option α} {write : α → Json} (hread : ∀ a, read (write a) = some a)
    (items : List α) : (array (items.map write)).list? read = some items := by
  rw [list?]
  induction items with
  | nil => rfl
  | cons item rest ih =>
    rw [List.map_cons, List.mapM_cons, hread, ih]
    rfl

theorem required?_eq_some {name : String} {read : Json → Option α} {value member : Json} {a : α}
    (hmember : value.member? name = some member) (hread : read member = some a) :
    value.required? name read = some a := by
  rw [required?, hmember, Option.bind_some, hread]

theorem optional?_eq_some {name : String} {read : Json → Option α} {write : α → Json} {value : Json}
    {a : Option α} (hmember : value.member? name = a.map write) (hread : ∀ a, read (write a) = some a) :
    value.optional? name read = some a := by
  rw [optional?, hmember]
  cases a with
  | none => rfl
  | some a => exact congrArg (Option.map some) (hread a)

end Folio.Json
