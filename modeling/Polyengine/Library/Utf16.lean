import Mathlib.Algebra.GroupWithZero.Nat
import Mathlib.Data.List.Basic
import Mathlib.Tactic.Basic

/-!
# UTF-16 code units

Sequences of code units, the scalar values they stand for, and the replacement of unpaired
surrogates.
-/

set_option autoImplicit false

namespace Polyengine.Library.Utf16

def IsHighSurrogate (unit : UInt16) : Prop := 0xD800 ≤ unit.toNat ∧ unit.toNat ≤ 0xDBFF

def IsLowSurrogate (unit : UInt16) : Prop := 0xDC00 ≤ unit.toNat ∧ unit.toNat ≤ 0xDFFF

instance (unit : UInt16) : Decidable (IsHighSurrogate unit) := inferInstanceAs (Decidable (_ ∧ _))

instance (unit : UInt16) : Decidable (IsLowSurrogate unit) := inferInstanceAs (Decidable (_ ∧ _))

/-- The code point of a surrogate pair. -/
def codePoint (high low : UInt16) : Nat :=
  0x10000 + (high.toNat - 0xD800) * 0x400 + (low.toNat - 0xDC00)

def replacement : Char := Char.ofNat 0xFFFD

/-- The scalar value of a code unit outside a surrogate pair. -/
def single (unit : UInt16) : Option Char :=
  if IsHighSurrogate unit ∨ IsLowSurrogate unit then none else some (Char.ofNat unit.toNat)

/-- The scalar values, with `none` at every unpaired surrogate. -/
def scan : List UInt16 → List (Option Char)
  | [] => []
  | [unit] => [single unit]
  | high :: low :: rest =>
      if IsHighSurrogate high ∧ IsLowSurrogate low then
        some (Char.ofNat (codePoint high low)) :: scan rest
      else single high :: scan (low :: rest)

/-- The scalar values with every unpaired surrogate replaced. -/
def scalars (units : List UInt16) : List Char := (scan units).map fun c => c.getD replacement

/-- The scalar values of a sequence without unpaired surrogates. -/
def decode? (units : List UInt16) : Option (List Char) := (scan units).mapM id

def encodeChar (c : Char) : List UInt16 :=
  if c.toNat < 0x10000 then [UInt16.ofNat c.toNat]
  else [UInt16.ofNat (0xD800 + (c.toNat - 0x10000) / 0x400),
    UInt16.ofNat (0xDC00 + (c.toNat - 0x10000) % 0x400)]

def encode (chars : List Char) : List UInt16 := chars.flatMap encodeChar

/-- The well-formed sequence that replaces every unpaired surrogate. -/
def toWellFormed (units : List UInt16) : List UInt16 := encode (scalars units)

/-- A valid code point names its own character. -/
theorem toNat_ofNat {n : Nat} (valid : n.isValidChar) : (Char.ofNat n).toNat = n := by
  unfold Char.ofNat
  rw [dif_pos valid]
  rfl

section Characters

variable (c : Char)

theorem toNat_valid : c.toNat < 0xD800 ∨ (0xDFFF < c.toNat ∧ c.toNat < 0x110000) := by
  have valid := c.valid
  simp only [UInt32.isValidChar, Nat.isValidChar] at valid
  exact valid

theorem single_encodeChar (small : c.toNat < 0x10000) :
    single (UInt16.ofNat c.toNat) = some c := by
  have value : (UInt16.ofNat c.toNat).toNat = c.toNat := by
    simpa using Nat.mod_eq_of_lt small
  have valid := toNat_valid c
  have plain : ¬(IsHighSurrogate (UInt16.ofNat c.toNat) ∨ IsLowSurrogate (UInt16.ofNat c.toNat)) := by
    unfold IsHighSurrogate IsLowSurrogate
    omega
  rw [single, if_neg plain, value, Char.ofNat_toNat]

theorem notHigh_of_small (small : c.toNat < 0x10000) :
    ¬IsHighSurrogate (UInt16.ofNat c.toNat) := by
  have value : (UInt16.ofNat c.toNat).toNat = c.toNat := by
    simpa using Nat.mod_eq_of_lt small
  have valid := toNat_valid c
  unfold IsHighSurrogate
  omega

/-- A character outside the basic plane is a surrogate pair. -/
theorem encodeChar_pair (large : ¬c.toNat < 0x10000) :
    ∃ high low, encodeChar c = [high, low] ∧ IsHighSurrogate high ∧ IsLowSurrogate low ∧
      codePoint high low = c.toNat := by
  have valid := toNat_valid c
  have high : (UInt16.ofNat (0xD800 + (c.toNat - 0x10000) / 0x400)).toNat =
      0xD800 + (c.toNat - 0x10000) / 0x400 := by
    rw [UInt16.toNat_ofNat']
    omega
  have low : (UInt16.ofNat (0xDC00 + (c.toNat - 0x10000) % 0x400)).toNat =
      0xDC00 + (c.toNat - 0x10000) % 0x400 := by
    rw [UInt16.toNat_ofNat']
    omega
  refine ⟨_, _, if_neg large, ?_, ?_, ?_⟩
  · unfold IsHighSurrogate
    omega
  · unfold IsLowSurrogate
    omega
  · unfold codePoint
    omega

theorem encodeChar_single (small : c.toNat < 0x10000) :
    encodeChar c = [UInt16.ofNat c.toNat] := if_pos small

theorem scan_encodeChar (rest : List UInt16) :
    scan (encodeChar c ++ rest) = some c :: scan rest := by
  by_cases small : c.toNat < 0x10000
  · rw [encodeChar_single c small]
    cases rest with
    | nil => simp only [List.append_nil, scan, single_encodeChar c small]
    | cons next rest =>
        have notPair : ¬(IsHighSurrogate (UInt16.ofNat c.toNat) ∧ IsLowSurrogate next) :=
          fun pair => notHigh_of_small c small pair.1
        rw [List.cons_append, List.nil_append, scan, if_neg notPair, single_encodeChar c small]
  · obtain ⟨high, low, encoded, isHigh, isLow, point⟩ := encodeChar_pair c small
    rw [encoded, List.cons_append, List.cons_append, List.nil_append, scan,
      if_pos ⟨isHigh, isLow⟩, point, Char.ofNat_toNat]

theorem encodeChar_length_pos : 0 < (encodeChar c).length := by
  unfold encodeChar
  split <;> simp

end Characters

theorem scan_encode (chars : List Char) : scan (encode chars) = chars.map some := by
  induction chars with
  | nil => rfl
  | cons c rest ih =>
      rw [encode, List.flatMap_cons, scan_encodeChar, List.map_cons, ← encode, ih]

@[simp] theorem scalars_encode (chars : List Char) : scalars (encode chars) = chars := by
  rw [scalars, scan_encode, List.map_map]
  exact List.map_id chars

@[simp] theorem decode?_encode (chars : List Char) : decode? (encode chars) = some chars := by
  rw [decode?, scan_encode]
  induction chars with
  | nil => rfl
  | cons c rest ih => simp [ih]

@[simp] theorem toWellFormed_encode (chars : List Char) :
    toWellFormed (encode chars) = encode chars := by
  rw [toWellFormed, scalars_encode]

@[simp] theorem toWellFormed_toWellFormed (units : List UInt16) :
    toWellFormed (toWellFormed units) = toWellFormed units := toWellFormed_encode _

@[simp] theorem scalars_toWellFormed (units : List UInt16) :
    scalars (toWellFormed units) = scalars units := scalars_encode _

private theorem length_encodeChar_single (unit : UInt16) :
    (encodeChar ((single unit).getD replacement)).length = 1 := by
  have bound : unit.toNat < 0x10000 := unit.toNat_lt
  unfold single
  split
  · rfl
  · rename_i plain
    unfold IsHighSurrogate IsLowSurrogate at plain
    have valid : unit.toNat.isValidChar := by
      simp only [Nat.isValidChar]
      omega
    have value : (Char.ofNat unit.toNat).toNat = unit.toNat := toNat_ofNat valid
    simp only [Option.getD_some, encodeChar, value, if_pos bound, List.length_singleton]

private theorem length_encodeChar_pair {high low : UInt16} (highSurrogate : IsHighSurrogate high)
    (lowSurrogate : IsLowSurrogate low) :
    (encodeChar (Char.ofNat (codePoint high low))).length = 2 := by
  obtain ⟨highLow, highHigh⟩ := highSurrogate
  obtain ⟨lowLow, lowHigh⟩ := lowSurrogate
  have low' : 0x10000 ≤ codePoint high low := by
    unfold codePoint
    omega
  have high' : codePoint high low < 0x110000 := by
    unfold codePoint
    omega
  have valid : (codePoint high low).isValidChar := .inr ⟨by omega, high'⟩
  have value : (Char.ofNat (codePoint high low)).toNat = codePoint high low := toNat_ofNat valid
  simp only [encodeChar, value, if_neg (Nat.not_lt.mpr low'), List.length_cons, List.length_nil]

/-- Replacing a surrogate by the replacement character keeps the number of code units. -/
@[simp] theorem length_toWellFormed (units : List UInt16) :
    (toWellFormed units).length = units.length := by
  unfold toWellFormed encode scalars
  induction units using scan.induct with
  | case1 => rfl
  | case2 unit => simp [scan, length_encodeChar_single]
  | case3 high low rest pair ih =>
      rw [scan, if_pos pair, List.map_cons, List.flatMap_cons, List.length_append, ih,
        Option.getD_some, length_encodeChar_pair pair.1 pair.2]
      simp only [List.length_cons]
      omega
  | case4 high low rest notPair ih =>
      rw [scan, if_neg notPair, List.map_cons, List.flatMap_cons, List.length_append, ih,
        length_encodeChar_single]
      simp only [List.length_cons]
      omega

/-- A code unit that starts no pair stands for itself. -/
theorem scan_cons {unit : UInt16} (notHigh : ¬IsHighSurrogate unit) (rest : List UInt16) :
    scan (unit :: rest) = single unit :: scan rest := by
  cases rest with
  | nil => rfl
  | cons next rest => rw [scan, if_neg fun pair => notHigh pair.1]

theorem single_of_lt {unit : UInt16} (small : unit.toNat < 0xD800) :
    single unit = some (Char.ofNat unit.toNat) := by
  rw [single, if_neg]
  unfold IsHighSurrogate IsLowSurrogate
  omega

/-- Code units below the surrogates are scalar values in front of the rest. -/
theorem scalars_append {leading : List UInt16} (small : ∀ unit ∈ leading, unit.toNat < 0xD800)
    (rest : List UInt16) :
    scalars (leading ++ rest) = (leading.map fun unit => Char.ofNat unit.toNat) ++ scalars rest := by
  induction leading with
  | nil => rfl
  | cons unit leading ih =>
      have below := small unit (by simp)
      have notHigh : ¬IsHighSurrogate unit := by
        unfold IsHighSurrogate
        omega
      have later := ih fun unit member => small unit (by simp [member])
      unfold scalars at later ⊢
      rw [List.cons_append, scan_cons notHigh, single_of_lt below, List.map_cons, later,
        List.map_cons, List.cons_append, Option.getD_some]

theorem toNat_single_lt (unit : UInt16) : ((single unit).getD replacement).toNat < 0x10000 := by
  have small : unit.toNat < 0x10000 := unit.toNat_lt
  unfold single
  split
  · decide
  · rename_i plain
    unfold IsHighSurrogate IsLowSurrogate at plain
    have valid : unit.toNat.isValidChar := by
      simp only [Nat.isValidChar]
      omega
    rwa [Option.getD_some, toNat_ofNat valid]

/-- The character of a surrogate pair lies outside the basic plane. -/
theorem le_toNat_pair {high low : UInt16} (highSurrogate : IsHighSurrogate high)
    (lowSurrogate : IsLowSurrogate low) :
    0x10000 ≤ (Char.ofNat (codePoint high low)).toNat := by
  have length := length_encodeChar_pair highSurrogate lowSurrogate
  unfold encodeChar at length
  by_contra small
  rw [if_pos (Nat.not_le.mp small)] at length
  simp at length

section Sizes

variable {size : Char → Nat}

/-- A bound on the characters of one code unit and of two bounds the whole. -/
theorem sum_scalars_le {bound : Nat} (one : ∀ c : Char, c.toNat < 0x10000 → size c ≤ bound)
    (two : ∀ c : Char, size c ≤ bound + bound) (units : List UInt16) :
    ((scalars units).map size).sum ≤ units.length * bound := by
  unfold scalars
  induction units using scan.induct with
  | case1 => exact Nat.zero_le _
  | case2 unit =>
      have here := one _ (toNat_single_lt unit)
      simpa only [scan, List.map_cons, List.map_nil, List.sum_cons, List.sum_nil,
        List.length_cons, List.length_nil, Nat.add_zero, Nat.zero_add, Nat.one_mul] using here
  | case3 high low rest pair ih =>
      have here := two (Char.ofNat (codePoint high low))
      rw [scan, if_pos pair, List.map_cons, List.map_cons, List.sum_cons, Option.getD_some,
        List.length_cons, List.length_cons, Nat.succ_mul, Nat.succ_mul]
      exact Nat.le_trans (Nat.add_le_add here ih) (by omega)
  | case4 high low rest notPair ih =>
      have here := one _ (toNat_single_lt high)
      rw [scan, if_neg notPair, List.map_cons, List.map_cons, List.sum_cons, List.length_cons,
        Nat.succ_mul, Nat.add_comm]
      exact Nat.add_le_add ih here

/-- Characters of two code units are at least twice as large as the least size. -/
theorem le_sum_scalars (one : ∀ c : Char, 1 ≤ size c)
    (two : ∀ c : Char, 0x10000 ≤ c.toNat → 2 ≤ size c) (units : List UInt16) :
    units.length ≤ ((scalars units).map size).sum := by
  unfold scalars
  induction units using scan.induct with
  | case1 => exact Nat.le_refl _
  | case2 unit =>
      have here := one ((single unit).getD replacement)
      simpa only [scan, List.map_cons, List.map_nil, List.sum_cons, List.sum_nil,
        List.length_cons, List.length_nil, Nat.add_zero] using here
  | case3 high low rest pair ih =>
      have here := two _ (le_toNat_pair pair.1 pair.2)
      rw [scan, if_pos pair, List.map_cons, List.map_cons, List.sum_cons, Option.getD_some,
        List.length_cons, List.length_cons, Nat.add_assoc, Nat.add_comm]
      exact Nat.add_le_add here ih
  | case4 high low rest notPair ih =>
      have here := one ((single high).getD replacement)
      rw [scan, if_neg notPair, List.map_cons, List.map_cons, List.sum_cons, List.length_cons,
        Nat.add_comm]
      exact Nat.add_le_add here ih

end Sizes

end Polyengine.Library.Utf16
