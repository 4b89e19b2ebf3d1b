import Folio.Json.Printer
import Mathlib.Tactic.SplitIfs
/-!
# What a written value says

The text of a data value does not hold all of it: a double that is not finite has no written form, and
`null` stands in its place. The written value is the value that the text holds. It has the same text, and
a value whose doubles are all finite is its own written value.
-/

namespace Folio

/-- Neither infinite nor no number at all. -/
def Decimal.IsFinite (x : Float) : Prop :=
  ∃ negative significand exponent, Parts.ofFloat x = .finite negative significand exponent

instance (x : Float) : Decidable (Decimal.IsFinite x) :=
  match h : Decimal.Parts.ofFloat x with
  | .finite negative significand exponent => .isTrue ⟨negative, significand, exponent, h⟩
  | .nan => .isFalse (by rintro ⟨_, _, _, hfinite⟩; rw [h] at hfinite; cases hfinite)
  | .infinite _ => .isFalse (by rintro ⟨_, _, _, hfinite⟩; rw [h] at hfinite; cases hfinite)

namespace Json

mutual

/-- The value with `null` for every double that cannot be written. -/
def written : Json → Json
  | double value => if Decimal.IsFinite value then double value else null
  | array items => array (writtenItems items)
  | object members => object (writtenMembers members)
  | null => null
  | bool value => bool value
  | nat value => nat value
  | text value => text value

def writtenItems : List Json → List Json
  | [] => []
  | item :: rest => written item :: writtenItems rest

def writtenMembers : List (String × Json) → List (String × Json)
  | [] => []
  | (name, value) :: rest => (name, written value) :: writtenMembers rest

end

theorem doubleText_of_isFinite_eq_false {value : Float} (h : ¬ Decimal.IsFinite value) :
    doubleText value = "null" := by
  rw [doubleText, Decimal.exponential?]
  cases hparts : Decimal.Parts.ofFloat value with
  | finite negative significand exponent => exact absurd ⟨negative, significand, exponent, hparts⟩ h
  | nan | infinite => rfl

mutual

theorem spreadAt_written (depth : Nat) : ∀ value : Json, value.written.spreadAt depth = value.spreadAt depth
  | double value => by
    rw [written]
    split_ifs with hfinite
    · rfl
    · simp only [spreadAt, doubleText_of_isFinite_eq_false hfinite]
  | array [] => rfl
  | array (item :: rest) => by
    have hitems := spreadItems_written (depth + 1) (item :: rest)
    show "[" ++ spreadItems (depth + 1) (writtenItems (item :: rest)) ++ lineAt depth ++ "]" =
      "[" ++ spreadItems (depth + 1) (item :: rest) ++ lineAt depth ++ "]"
    rw [hitems]
  | object [] => rfl
  | object ((name, value) :: rest) => by
    have hmembers := spreadMembers_written (depth + 1) ((name, value) :: rest)
    show "\x7b" ++ spreadMembers (depth + 1) (writtenMembers ((name, value) :: rest)) ++ lineAt depth ++ "\x7d" =
      "\x7b" ++ spreadMembers (depth + 1) ((name, value) :: rest) ++ lineAt depth ++ "\x7d"
    rw [hmembers]
  | null => rfl
  | bool value => rfl
  | nat value => rfl
  | text value => rfl

theorem spreadItems_written (depth : Nat) : ∀ items : List Json,
    spreadItems depth (writtenItems items) = spreadItems depth items
  | [] => rfl
  | [item] => by
    rw [writtenItems, writtenItems, spreadItems, spreadItems, spreadAt_written depth item]
  | item :: next :: rest => by
    have hrest := spreadItems_written depth (next :: rest)
    show lineAt depth ++ spreadAt depth item.written ++ "," ++ spreadItems depth (writtenItems (next :: rest)) =
      lineAt depth ++ spreadAt depth item ++ "," ++ spreadItems depth (next :: rest)
    rw [spreadAt_written depth item, hrest]

theorem spreadMembers_written (depth : Nat) : ∀ members : List (String × Json),
    spreadMembers depth (writtenMembers members) = spreadMembers depth members
  | [] => rfl
  | [(name, value)] => by
    rw [writtenMembers, writtenMembers, spreadMembers, spreadMembers, spreadAt_written depth value]
  | (name, value) :: next :: rest => by
    have hrest := spreadMembers_written depth (next :: rest)
    show lineAt depth ++ stringText name ++ ": " ++ spreadAt depth value.written ++ "," ++
        spreadMembers depth (writtenMembers (next :: rest)) =
      lineAt depth ++ stringText name ++ ": " ++ spreadAt depth value ++ "," ++
        spreadMembers depth (next :: rest)
    rw [spreadAt_written depth value, hrest]

end

/-- The text of a value is the text of its written value. -/
theorem spread_written (value : Json) : value.written.spread = value.spread :=
  spreadAt_written 0 value

/-! ### Values that are written as they are -/

theorem writtenItems_eq_map (items : List Json) : writtenItems items = items.map written := by
  induction items with
  | nil => rfl
  | cons item rest ih => rw [writtenItems, ih, List.map_cons]

theorem writtenMembers_eq_map (members : List (String × Json)) :
    writtenMembers members = members.map fun member => (member.1, member.2.written) := by
  induction members with
  | nil => rfl
  | cons member rest ih => rw [writtenMembers, ih, List.map_cons]

theorem written_double {value : Float} (hfinite : Decimal.IsFinite value) :
    (double value).written = double value := by
  rw [written, if_pos hfinite]

theorem written_array {items : List Json} (hitems : ∀ item ∈ items, item.written = item) :
    (array items).written = array items := by
  rw [written, writtenItems_eq_map, List.map_congr_left hitems, List.map_id']

theorem written_object {members : List (String × Json)}
    (hmembers : ∀ member ∈ members, member.2.written = member.2) :
    (object members).written = object members := by
  have hsame : ∀ member ∈ members, (member.1, member.2.written) = member := fun member hmem =>
    Prod.ext rfl (hmembers member hmem)
  rw [written, writtenMembers_eq_map, List.map_congr_left hsame, List.map_id']

/-- Of an object with members left out, only the members that are there need be looked at. -/
theorem written_present {members : List (String × Option Json)}
    (hmembers : ∀ member ∈ members, ∀ value, member.2 = some value → value.written = value) :
    (object (present members)).written = object (present members) := by
  refine written_object fun member hmem => ?_
  obtain ⟨listed, hlisted, hvalue⟩ := List.mem_filterMap.mp hmem
  obtain ⟨value, hsome, rfl⟩ := Option.map_eq_some_iff.mp hvalue
  exact hmembers listed hlisted value hsome

end Json

end Folio
