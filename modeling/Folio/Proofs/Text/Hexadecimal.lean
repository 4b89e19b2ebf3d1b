import Folio.Text.Quoted
import Folio.Text.Ascii
/-!
# Hexadecimal numbers

The written form in base sixteen consists of hexadecimal digits and is read back as the same number.
-/

namespace Folio.Text

theorem hexDigit?_digitChar : ∀ d < 16, hexDigit? d.digitChar = some d := by
  decide

theorem hexValue_concat {digits : List Char} {c : Char} {d : Nat} (hdigit : hexDigit? c = some d) :
    hexValue (digits ++ [c]) = 16 * hexValue digits + d := by
  rw [hexValue, List.foldl_append, List.foldl_cons, List.foldl_nil, hdigit]
  rfl

/-- All that is proved about the digits of a number goes by its last digit. -/
private theorem hexDigits_of_base_le {n : Nat} (hbase : 16 ≤ n) :
    hexDigits n = hexDigits (n / 16) ++ [(n % 16).digitChar] :=
  Nat.toDigits_of_base_le (by decide) hbase

theorem hexDigits_isHexDigit (n : Nat) : ∀ c ∈ hexDigits n, isHexDigit c = true := by
  induction n using Nat.strongRecOn with
  | ind n ih =>
    have hlast : isHexDigit (n % 16).digitChar = true := by
      rw [isHexDigit, hexDigit?_digitChar _ (Nat.mod_lt n (by decide))]
      rfl
    by_cases hbase : 16 ≤ n
    · rw [hexDigits_of_base_le hbase]
      exact List.forall_mem_append.mpr ⟨ih (n / 16) (by omega), List.forall_mem_singleton.mpr hlast⟩
    · rw [hexDigits, Nat.toDigits_of_lt_base (by omega)]
      rw [Nat.mod_eq_of_lt (by omega)] at hlast
      exact List.forall_mem_singleton.mpr hlast

theorem hexValue_hexDigits (n : Nat) : hexValue (hexDigits n) = n := by
  induction n using Nat.strongRecOn with
  | ind n ih =>
    by_cases hbase : 16 ≤ n
    · rw [hexDigits_of_base_le hbase,
        hexValue_concat (hexDigit?_digitChar _ (Nat.mod_lt n (by decide))), ih (n / 16) (by omega)]
      omega
    · have hsingle : hexDigits n = [] ++ [n.digitChar] := Nat.toDigits_of_lt_base (by omega)
      rw [hsingle, hexValue_concat (hexDigit?_digitChar n (by omega))]
      exact Nat.zero_add n

end Folio.Text
