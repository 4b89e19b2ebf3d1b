import Folio.Decimal.Written
import Folio.Text.Ascii
/-!
# The characters of written numbers

A written number has digits, a sign, a point, or the letters of `inf` and `NaN`, and nothing else. So
where a number stands in a text, whatever is not one of these ends it.
-/

namespace Folio.Decimal

/-- What a number may be written with. -/
def isNumberChar (c : Char) : Bool :=
  Text.isAsciiDigit c || ['-', '.', 'i', 'n', 'f', 'N', 'a'].contains c

def AllNumberChars (text : List Char) : Prop :=
  ∀ c ∈ text, isNumberChar c = true

instance (text : List Char) : Decidable (AllNumberChars text) :=
  List.decidableBAll _ text

theorem allNumberChars_append {s t : List Char} :
    AllNumberChars (s ++ t) ↔ AllNumberChars s ∧ AllNumberChars t :=
  List.forall_mem_append

theorem isNumberChar_of_isDigit {c : Char} (hdigit : c.isDigit = true) : isNumberChar c = true := by
  have hascii : Text.isAsciiDigit c = true := by
    simp only [Char.isDigit, Bool.and_eq_true, decide_eq_true_eq] at hdigit
    simp only [Text.isAsciiDigit, Bool.and_eq_true, decide_eq_true_eq]
    exact hdigit
  rw [isNumberChar, hascii, Bool.true_or]

theorem decimalDigits_allNumberChars (n : Nat) : AllNumberChars (decimalDigits n) := fun _ hc =>
  isNumberChar_of_isDigit (Nat.isDigit_of_mem_toDigits (by decide) (by decide) hc)

theorem zeros_allNumberChars (n : Nat) : AllNumberChars (zeros n) := by
  intro c hc
  rw [List.eq_of_mem_replicate hc]
  rfl

theorem withPlaces_allNumberChars (digits places : Nat) : AllNumberChars (withPlaces digits places) := by
  have hpadded : AllNumberChars
      (zeros (places + 1 - (decimalDigits digits).length) ++ decimalDigits digits) :=
    allNumberChars_append.mpr ⟨zeros_allNumberChars _, decimalDigits_allNumberChars _⟩
  rw [withPlaces]
  split
  · exact hpadded
  · refine allNumberChars_append.mpr ⟨fun c hc => hpadded c (List.mem_of_mem_take hc), ?_⟩
    exact List.forall_mem_cons.mpr ⟨rfl, fun c hc => hpadded c (List.mem_of_mem_drop hc)⟩

theorem signed_allNumberChars {negative : Bool} {text : List Char} (htext : AllNumberChars text) :
    AllNumberChars (signed negative text) := by
  cases negative with
  | false => exact htext
  | true => exact List.forall_mem_cons.mpr ⟨rfl, htext⟩

theorem positional_allNumberChars (d : Digits) : AllNumberChars d.positional := by
  rw [Digits.positional]
  split
  · split
    · exact List.forall_mem_singleton.mpr rfl
    · exact allNumberChars_append.mpr ⟨decimalDigits_allNumberChars _, zeros_allNumberChars _⟩
  · exact withPlaces_allNumberChars _ _

theorem plain_allNumberChars (x : Float) : AllNumberChars (plain x) := by
  rw [plain]
  split
  · decide
  · exact signed_allNumberChars (by decide)
  · exact signed_allNumberChars (positional_allNumberChars _)

theorem fixed_allNumberChars (places : Nat) (x : Float) : AllNumberChars (fixed places x) := by
  rw [fixed]
  split
  · decide
  · exact signed_allNumberChars (by decide)
  · exact signed_allNumberChars (withPlaces_allNumberChars _ _)

end Folio.Decimal
