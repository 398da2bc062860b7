import Mathlib.Data.Nat.Log
import Mathlib.Tactic.Ring

/-!
# Rounding of natural numbers

The closest multiple of a unit, and the closest number with a significand of so many bits; ties go to
the even one.
-/

set_option autoImplicit false

namespace Polyengine.Library.Rounding

/-- The closest multiple of the unit. -/
def roundMultiple (unit value : Nat) : Nat :=
  let below := value / unit
  let rest := value % unit
  if unit < 2 * rest ∨ (2 * rest = unit ∧ below % 2 = 1) then (below + 1) * unit else below * unit

/-- The unit of a significand of `bits` bits. -/
def unitOf (bits value : Nat) : Nat := 2 ^ (value.log2 - (bits - 1))

/-- The closest number with a significand of `bits` bits. -/
def roundTo (bits value : Nat) : Nat := roundMultiple (unitOf bits value) value

theorem roundMultiple_of_dvd {unit value : Nat} (divides : unit ∣ value) :
    roundMultiple unit value = value := by
  have none : value % unit = 0 := Nat.mod_eq_zero_of_dvd divides
  by_cases zero : unit = 0
  · subst zero
    rw [Nat.zero_dvd] at divides
    simp [roundMultiple, divides]
  · have notAbove : ¬(unit < 2 * (value % unit) ∨
        (2 * (value % unit) = unit ∧ value / unit % 2 = 1)) := by
      rw [none]
      omega
    simp only [roundMultiple, if_neg notAbove]
    exact Nat.div_mul_cancel divides

/-- A significand that fits is not rounded. -/
theorem roundTo_of_fits {bits significand shift : Nat} (positive : 0 < bits)
    (fits : significand ≤ 2 ^ bits) :
    roundTo bits (significand * 2 ^ shift) = significand * 2 ^ shift := by
  apply roundMultiple_of_dvd
  rw [unitOf]
  obtain below | full := Nat.lt_or_eq_of_le fits
  · by_cases zero : significand = 0
    · simp [zero]
    · have bound : (significand * 2 ^ shift).log2 < bits + shift := by
        rw [Nat.log2_lt (Nat.mul_ne_zero zero (Nat.pow_pos Nat.two_pos).ne'), Nat.pow_add]
        exact Nat.mul_lt_mul_of_pos_right below (Nat.pow_pos Nat.two_pos)
      exact (Nat.pow_dvd_pow 2 (by omega)).mul_left _
  · rw [full, ← Nat.pow_add, Nat.log2_two_pow]
    exact Nat.pow_dvd_pow 2 (by omega)

theorem roundTo_of_le {bits value : Nat} (positive : 0 < bits) (small : value ≤ 2 ^ bits) :
    roundTo bits value = value := by
  have same := @roundTo_of_fits bits value 0 positive small
  rwa [Nat.pow_zero, Nat.mul_one] at same

/-- What is rounded has a significand that fits. -/
theorem roundTo_fits (bits value : Nat) (positive : 0 < bits) :
    ∃ significand, significand ≤ 2 ^ bits ∧
      roundTo bits value = significand * 2 ^ (value.log2 - (bits - 1)) := by
  have below : value / unitOf bits value < 2 ^ bits := by
    rw [unitOf, Nat.div_lt_iff_lt_mul (Nat.pow_pos Nat.two_pos), ← Nat.pow_add]
    calc value < 2 ^ (value.log2 + 1) := Nat.lt_log2_self
      _ ≤ 2 ^ (bits + (value.log2 - (bits - 1))) := Nat.pow_le_pow_right Nat.two_pos (by omega)
  simp only [roundTo, roundMultiple]
  split
  · exact ⟨_, below, rfl⟩
  · exact ⟨_, below.le, rfl⟩

/-- Rounding again changes nothing. -/
theorem roundTo_roundTo {bits : Nat} (positive : 0 < bits) (value : Nat) :
    roundTo bits (roundTo bits value) = roundTo bits value := by
  obtain ⟨significand, fits, same⟩ := roundTo_fits bits value positive
  rw [same]
  exact roundTo_of_fits positive fits

theorem roundTo_eq_zero_iff {bits : Nat} (positive : 0 < bits) {value : Nat} :
    roundTo bits value = 0 ↔ value = 0 := by
  constructor
  · intro zero
    by_contra nonzero
    have unit : unitOf bits value ≤ value := by
      calc unitOf bits value ≤ 2 ^ value.log2 := Nat.pow_le_pow_right Nat.two_pos (by omega)
        _ ≤ value := Nat.log2_self_le nonzero
    have part : 0 < value / unitOf bits value :=
      Nat.div_pos unit (Nat.pow_pos Nat.two_pos)
    simp only [roundTo, roundMultiple] at zero
    split at zero
    · exact Nat.mul_ne_zero (Nat.succ_ne_zero _) (Nat.pow_pos Nat.two_pos).ne' zero
    · exact Nat.mul_ne_zero part.ne' (Nat.pow_pos Nat.two_pos).ne' zero
  · rintro rfl
    exact roundTo_of_le positive (Nat.zero_le _)

/-- The double closest to a natural number; what is out of range becomes infinite, `2 ^ 1024`. -/
def nearestDouble (n : Nat) : Nat := min (roundTo 53 n) (2 ^ 1024)

theorem nearestDouble_of_le {n : Nat} (small : n ≤ 2 ^ 53) : nearestDouble n = n := by
  have finite : n ≤ 2 ^ 1024 :=
    Nat.le_trans small (Nat.pow_le_pow_right Nat.two_pos (by decide))
  rw [nearestDouble, roundTo_of_le (by decide) small, Nat.min_eq_left finite]

end Polyengine.Library.Rounding
