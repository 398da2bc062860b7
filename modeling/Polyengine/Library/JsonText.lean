import Mathlib.Data.List.Basic
import Mathlib.Tactic.IntervalCases

/-!
# JSON texts of strings

The texts that `JSON.stringify` makes of a string and of an array of strings. A text says where it
ends, so that two texts with what follows them agree only if the strings and what follows them do.
-/

set_option autoImplicit false

namespace Polyengine.Library

namespace JsonText

/-- A hexadecimal digit below sixteen. -/
def hexDigit (value : Nat) : Char := "0123456789abcdef".toList.getD value '0'

/-- The text of one character inside the quotes. -/
def escapeChar (c : Char) : List Char :=
  if c = '"' then ['\\', '"']
  else if c = '\\' then ['\\', '\\']
  else if c.toNat = 8 then ['\\', 'b']
  else if c.toNat = 9 then ['\\', 't']
  else if c.toNat = 10 then ['\\', 'n']
  else if c.toNat = 12 then ['\\', 'f']
  else if c.toNat = 13 then ['\\', 'r']
  else if c.toNat < 32 then ['\\', 'u', '0', '0', hexDigit (c.toNat / 16), hexDigit (c.toNat % 16)]
  else [c]

/-- A string inside the quotes, with the closing one. -/
def escape : List Char → List Char
  | [] => ['"']
  | c :: rest => escapeChar c ++ escape rest

def quote (text : String) : List Char := '"' :: escape text.toList

/-- The elements of an array after its first one, with the closing bracket. -/
def elements : List String → List Char
  | [] => [']']
  | text :: rest => ',' :: quote text ++ elements rest

def array : List String → List Char
  | [] => ['[', ']']
  | text :: rest => '[' :: quote text ++ elements rest

/-! ## Reading back -/

/-- The value of a hexadecimal digit. -/
def hexValue (c : Char) : Nat := "0123456789abcdef".toList.idxOf c

/-- The first character of a text inside the quotes, and what follows it. -/
def unescapeChar : List Char → Option (Char × List Char)
  | '\\' :: 'u' :: _ :: _ :: high :: low :: rest =>
      some (Char.ofNat (hexValue high * 16 + hexValue low), rest)
  | '\\' :: 'b' :: rest => some (Char.ofNat 8, rest)
  | '\\' :: 't' :: rest => some (Char.ofNat 9, rest)
  | '\\' :: 'n' :: rest => some (Char.ofNat 10, rest)
  | '\\' :: 'f' :: rest => some (Char.ofNat 12, rest)
  | '\\' :: 'r' :: rest => some (Char.ofNat 13, rest)
  | '\\' :: c :: rest => some (c, rest)
  | '"' :: _ => none
  | c :: rest => some (c, rest)
  | [] => none

theorem unescapeChar_control {value : Nat} (control : value < 32) (rest : List Char) :
    unescapeChar (escapeChar (Char.ofNat value) ++ rest) = some (Char.ofNat value, rest) := by
  interval_cases value <;> rfl

theorem unescapeChar_escapeChar (c : Char) (rest : List Char) :
    unescapeChar (escapeChar c ++ rest) = some (c, rest) := by
  by_cases control : c.toNat < 32
  · have := unescapeChar_control control rest
    rwa [Char.ofNat_toNat] at this
  · by_cases quoted : c = '"'
    · subst quoted
      rfl
    · by_cases slashed : c = '\\'
      · subst slashed
        rfl
      · have plain : escapeChar c = [c] := by
          simp only [escapeChar, quoted, slashed, control, if_false]
          repeat rw [if_neg (by omega)]
        rw [plain, List.singleton_append]
        unfold unescapeChar
        split
        all_goals simp_all

theorem escape_inj {first second rest other : List Char}
    (same : escape first ++ rest = escape second ++ other) : first = second ∧ rest = other := by
  induction first generalizing second with
  | nil =>
      cases second with
      | nil => exact ⟨rfl, (List.cons.inj same).2⟩
      | cons c chars =>
          have read := unescapeChar_escapeChar c (escape chars ++ other)
          rw [← List.append_assoc] at read
          rw [escape, escape] at same
          rw [← same] at read
          cases read
  | cons c chars ih =>
      have read := unescapeChar_escapeChar c (escape chars ++ rest)
      rw [← List.append_assoc] at read
      rw [escape] at same
      cases second with
      | nil =>
          rw [same] at read
          cases read
      | cons d others =>
          rw [escape] at same
          rw [same, List.append_assoc, unescapeChar_escapeChar] at read
          have parts := Prod.mk.inj (Option.some.inj read)
          obtain ⟨equal, ends⟩ := ih parts.2.symm
          exact ⟨by rw [parts.1, equal], ends⟩

theorem quote_inj {first second : String} {rest other : List Char}
    (same : quote first ++ rest = quote second ++ other) : first = second ∧ rest = other := by
  obtain ⟨equal, ends⟩ := escape_inj (List.cons.inj same).2
  exact ⟨String.toList_inj.mp equal, ends⟩

theorem elements_inj {first second : List String} {rest other : List Char}
    (same : elements first ++ rest = elements second ++ other) :
    first = second ∧ rest = other := by
  induction first generalizing second with
  | nil =>
      cases second with
      | nil => exact ⟨rfl, (List.cons.inj same).2⟩
      | cons text texts => exact absurd (List.cons.inj same).1 (by decide)
  | cons text texts ih =>
      cases second with
      | nil => exact absurd (List.cons.inj same).1 (by decide)
      | cons next others =>
          simp only [elements, List.cons_append, List.append_assoc, List.cons.injEq,
            true_and] at same
          obtain ⟨equal, after⟩ := quote_inj same
          obtain ⟨equals, ends⟩ := ih after
          exact ⟨by rw [equal, equals], ends⟩

theorem array_inj {first second : List String} {rest other : List Char}
    (same : array first ++ rest = array second ++ other) : first = second ∧ rest = other := by
  cases first with
  | nil =>
      cases second with
      | nil =>
          have tails := (List.cons.inj same).2
          exact ⟨rfl, (List.cons.inj tails).2⟩
      | cons text texts =>
          have tails := (List.cons.inj same).2
          exact absurd (List.cons.inj tails).1 (by decide)
  | cons text texts =>
      cases second with
      | nil =>
          have tails := (List.cons.inj same).2
          exact absurd (List.cons.inj tails).1 (by decide)
      | cons next others =>
          simp only [array, List.cons_append, List.append_assoc, List.cons.injEq,
            true_and] at same
          obtain ⟨equal, after⟩ := quote_inj same
          obtain ⟨equals, ends⟩ := elements_inj after
          exact ⟨by rw [equal, equals], ends⟩

end JsonText

end Polyengine.Library
