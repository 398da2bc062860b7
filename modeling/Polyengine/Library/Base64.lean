import Mathlib.Data.List.Basic
import Mathlib.Tactic.IntervalCases

/-!
# Base64

The texts that `btoa` makes of bytes, and the bytes that `atob` reads from texts.
-/

set_option autoImplicit false

namespace Polyengine.Library

namespace Base64

def alphabet : List Char :=
  "ABCDEFGHIJKLMNOPQRSTUVWXYZabcdefghijklmnopqrstuvwxyz0123456789+/".toList

def digit (value : Nat) : Char := alphabet.getD value '='

/-- The value of a digit. -/
def value? (c : Char) : Option Nat := alphabet.findIdx? (· = c)

/-- The groups of six bits, the last one filled up with zeros. -/
def sextets : List UInt8 → List Nat
  | [] => []
  | [a] => [a.toNat / 4, a.toNat % 4 * 16]
  | [a, b] => [a.toNat / 4, a.toNat % 4 * 16 + b.toNat / 16, b.toNat % 16 * 4]
  | a :: b :: c :: rest =>
      a.toNat / 4 :: (a.toNat % 4 * 16 + b.toNat / 16) :: (b.toNat % 16 * 4 + c.toNat / 64) ::
        c.toNat % 64 :: sextets rest

/-- The count of padding characters. -/
def padding (length : Nat) : Nat := (3 - length % 3) % 3

def btoa (bytes : List UInt8) : List Char :=
  (sextets bytes).map digit ++ List.replicate (padding bytes.length) '='

/-- The whole bytes of groups of six bits. -/
def bytesOf : List Nat → List UInt8
  | a :: b :: c :: d :: rest =>
      UInt8.ofNat (a * 4 + b / 16) :: UInt8.ofNat (b % 16 * 16 + c / 4) ::
        UInt8.ofNat (c % 4 * 64 + d) :: bytesOf rest
  | [a, b, c] => [UInt8.ofNat (a * 4 + b / 16), UInt8.ofNat (b % 16 * 16 + c / 4)]
  | [a, b] => [UInt8.ofNat (a * 4 + b / 16)]
  | _ => []

/-- ASCII whitespace. -/
def isBlank (c : Char) : Bool := c ∈ ['\t', '\n', Char.ofNat 12, '\r', ' ']

/-- A text without one or two padding characters at its end. -/
def unpadded (text : List Char) : List Char :=
  match text.reverse with
  | '=' :: '=' :: rest => rest.reverse
  | '=' :: rest => rest.reverse
  | _ => text

/-- The forgiving decoder: blanks are skipped, and the padding may be missing. -/
def atob (text : List Char) : Option (List UInt8) :=
  let dense := text.filter (fun c => !isBlank c)
  let data := if dense.length % 4 = 0 then unpadded dense else dense
  if data.length % 4 = 1 then none else (data.mapM value?).map bytesOf

/-! ## The round trip -/

theorem digit_properties {value : Nat} (small : value < 64) :
    value? (digit value) = some value ∧ isBlank (digit value) = false ∧ digit value ≠ '=' := by
  have all : ∀ value : Fin 64, value? (digit value) = some value.val ∧
      isBlank (digit value) = false ∧ digit value ≠ '=' := by decide +kernel
  exact all ⟨value, small⟩

theorem sextets_lt (bytes : List UInt8) : ∀ value ∈ sextets bytes, value < 64 := by
  induction bytes using sextets.induct with
  | case1 => simp [sextets]
  | case2 a =>
      have := a.toNat_lt
      simp only [sextets, List.mem_cons, List.not_mem_nil, or_false, forall_eq_or_imp, forall_eq]
      omega
  | case3 a b =>
      have := a.toNat_lt
      have := b.toNat_lt
      simp only [sextets, List.mem_cons, List.not_mem_nil, or_false, forall_eq_or_imp, forall_eq]
      omega
  | case4 a b c rest ih =>
      have := a.toNat_lt
      have := b.toNat_lt
      have := c.toNat_lt
      simp only [sextets, List.mem_cons, forall_eq_or_imp]
      exact ⟨by omega, by omega, by omega, by omega, ih⟩

theorem length_sextets (bytes : List UInt8) :
    (sextets bytes).length + padding bytes.length = 4 * ((bytes.length + 2) / 3) := by
  induction bytes using sextets.induct with
  | case1 => rfl
  | case2 a => simp [sextets, padding]
  | case3 a b => simp [sextets, padding]
  | case4 a b c rest ih =>
      simp only [sextets, List.length_cons, padding] at ih ⊢
      omega

theorem bytesOf_sextets (bytes : List UInt8) : bytesOf (sextets bytes) = bytes := by
  have byte (a : UInt8) (n : Nat) (same : n = a.toNat) : UInt8.ofNat n = a := by
    rw [same, UInt8.ofNat_toNat]
  induction bytes using sextets.induct with
  | case1 => rfl
  | case2 a =>
      simp only [sextets, bytesOf]
      rw [byte a _ (by omega)]
  | case3 a b =>
      simp only [sextets, bytesOf]
      have := b.toNat_lt
      rw [byte a _ (by omega), byte b _ (by omega)]
  | case4 a b c rest ih =>
      have := b.toNat_lt
      have := c.toNat_lt
      simp only [sextets, bytesOf, ih]
      rw [byte a _ (by omega), byte b _ (by omega), byte c _ (by omega)]

theorem unpadded_append {digits : List Char} (unpads : '=' ∉ digits) {count : Nat}
    (few : count ≤ 2) : unpadded (digits ++ List.replicate count '=') = digits := by
  have last : '=' ∉ digits.reverse := by simpa using unpads
  obtain ⟨backwards, rfl⟩ : ∃ backwards, digits = backwards.reverse :=
    ⟨digits.reverse, digits.reverse_reverse.symm⟩
  rw [List.reverse_reverse] at last
  have shape : (backwards.reverse ++ List.replicate count '=').reverse =
      List.replicate count '=' ++ backwards := by
    rw [List.reverse_append, List.reverse_replicate, List.reverse_reverse]
  unfold unpadded
  rw [shape]
  cases backwards with
  | nil => interval_cases count <;> rfl
  | cons c rest =>
      have other : c ≠ '=' := fun same => last (same ▸ List.mem_cons_self)
      interval_cases count
      · simp [other]
      · simp [List.replicate, other]
      · simp [List.replicate]

theorem mapM_value?_digit {values : List Nat} (small : ∀ value ∈ values, value < 64) :
    (values.map digit).mapM value? = some values := by
  induction values with
  | nil => rfl
  | cons value rest ih =>
      have first := (digit_properties (small value List.mem_cons_self)).1
      have others := ih fun value listed => small value (List.mem_cons_of_mem _ listed)
      simp [first, others]

theorem atob_btoa (bytes : List UInt8) : atob (btoa bytes) = some bytes := by
  have small := sextets_lt bytes
  have length := length_sextets bytes
  have dense : (btoa bytes).filter (fun c => !isBlank c) = btoa bytes := by
    rw [List.filter_eq_self]
    intro c listed
    rcases List.mem_append.mp listed with isDigit | pad
    · obtain ⟨value, member, rfl⟩ := List.mem_map.mp isDigit
      rw [(digit_properties (small value member)).2.1]
      rfl
    · rw [(List.mem_replicate.mp pad).2]
      decide
  have whole : (btoa bytes).length % 4 = 0 := by
    rw [btoa, List.length_append, List.length_map, List.length_replicate, length]
    omega
  have unpads : '=' ∉ (sextets bytes).map digit := by
    intro listed
    obtain ⟨value, member, same⟩ := List.mem_map.mp listed
    exact (digit_properties (small value member)).2.2 same
  have few : padding bytes.length ≤ 2 := by
    unfold padding
    omega
  have data : unpadded (btoa bytes) = (sextets bytes).map digit := unpadded_append unpads few
  have notOne : ¬((sextets bytes).map digit).length % 4 = 1 := by
    rw [List.length_map]
    omega
  simp only [atob, dense, whole, if_true, data, notOne, if_false, mapM_value?_digit small,
    Option.map_some, bytesOf_sextets]

end Base64

end Polyengine.Library
