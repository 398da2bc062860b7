import Mathlib.Data.List.DropRight
import Polyengine.Library.Rounding

/-!
# Numerals

The conversion of text to a number of double precision, as far as the number is an integer: decimal
numerals with a fraction and an exponent, integers in another radix, and spaces around either.
-/

set_option autoImplicit false

namespace Polyengine.Library.Numeral

open Rounding

/-- White space and line terminators. -/
def isSpace (c : Char) : Bool :=
  [0x09, 0x0a, 0x0b, 0x0c, 0x0d, 0x20, 0xa0, 0x1680, 0x2028, 0x2029, 0x202f, 0x205f, 0x3000,
    0xfeff].contains c.toNat || (0x2000 ≤ c.toNat && c.toNat ≤ 0x200a)

def trim (text : List Char) : List Char := (text.dropWhile isSpace).rdropWhile isSpace

/-- The value of decimal digits. -/
def natOf (digits : List Char) : Nat := Nat.ofDigitChars 10 digits 0

/-- The value of a digit of a radix up to sixteen. -/
def digitValue (c : Char) : Option Nat :=
  if c.isDigit then some (c.toNat - '0'.toNat)
  else if 'a' ≤ c ∧ c ≤ 'f' then some (c.toNat - 'a'.toNat + 10)
  else if 'A' ≤ c ∧ c ≤ 'F' then some (c.toNat - 'A'.toNat + 10)
  else none

/-- The value of digits of a radix. -/
def radixValue (radix : Nat) (digits : List Char) : Option Nat :=
  digits.foldlM (fun value c =>
    (digitValue c).bind fun digit => if digit < radix then some (value * radix + digit) else none) 0

/-- An integer with the prefix of a radix. -/
def prefixed : List Char → Option Nat
  | '0' :: mark :: c :: rest =>
      if mark = 'b' ∨ mark = 'B' then radixValue 2 (c :: rest)
      else if mark = 'o' ∨ mark = 'O' then radixValue 8 (c :: rest)
      else if mark = 'x' ∨ mark = 'X' then radixValue 16 (c :: rest)
      else none
  | _ => none

/-- The double closest to a fraction, where it is an integer. -/
def closestInteger (numerator denominator : Nat) : Option Nat :=
  let whole := numerator / denominator
  if whole = 0 then
    -- Half of the least double rounds to zero, and what is halfway from one to the double below it to one.
    if numerator * 2 ^ 1075 ≤ denominator then some 0
    else if (denominator - numerator) * 2 ^ 54 ≤ denominator then some 1
    else none
  else
    let places := 2 ^ (52 - whole.log2)
    let rounded := roundMultiple (unitOf 53 whole * denominator) (numerator * places) / denominator
    if rounded % places = 0 ∧ rounded / places < 2 ^ 1024 then some (rounded / places) else none

def digitsInteger (negative : Bool) (digits : List Char) : Option Int :=
  if digits ≠ [] ∧ digits.all Char.isDigit then
    some (if negative then -(natOf digits : Int) else natOf digits)
  else none

/-- A sign and digits. -/
def signed : List Char → Option Int
  | '-' :: digits => digitsInteger true digits
  | '+' :: digits => digitsInteger false digits
  | digits => digitsInteger false digits

/-- The exponent of a decimal numeral. -/
def exponent : List Char → Option Int
  | [] => some 0
  | mark :: rest => if mark = 'e' ∨ mark = 'E' then signed rest else none

/-- An unsigned decimal numeral: its digits, and the power of ten that they are multiplied with. -/
def decimal (text : List Char) : Option (List Char × Int) :=
  let whole := text.takeWhile Char.isDigit
  let rest := text.dropWhile Char.isDigit
  let (fraction, rest) :=
    match rest with
    | '.' :: more => (more.takeWhile Char.isDigit, more.dropWhile Char.isDigit)
    | rest => ([], rest)
  if whole = [] ∧ fraction = [] then none
  else (exponent rest).map fun power => (whole ++ fraction, power - fraction.length)

def decimalInteger (text : List Char) : Option Int :=
  (decimal text).bind fun (digits, power) =>
    ((if 0 ≤ power then closestInteger (natOf digits * 10 ^ power.toNat) 1
      else closestInteger (natOf digits) (10 ^ (-power).toNat)).map fun value => (value : Int))

/-- `Number(text)`, where it is an integer. -/
def number (text : List Char) : Option Int :=
  match trim text with
  | [] => some 0
  | '-' :: rest => (decimalInteger rest).map fun value => -value
  | '+' :: rest => decimalInteger rest
  | text =>
      match prefixed text with
      | some value => (closestInteger value 1).map fun value => (value : Int)
      | none => decimalInteger text

/-! ## Decimal digits -/

theorem digit_bounds {c : Char} (digit : c.isDigit = true) : 48 ≤ c.toNat ∧ c.toNat ≤ 57 := by
  simp only [Char.isDigit, Bool.and_eq_true, decide_eq_true_iff, ge_iff_le,
    UInt32.le_iff_toNat_le] at digit
  exact digit

theorem isSpace_of_digit {c : Char} (digit : c.isDigit = true) : isSpace c = false := by
  have bounds := digit_bounds digit
  simp [isSpace]
  omega

theorem closestInteger_one {value : Nat} (small : value < 2 ^ 53) :
    closestInteger value 1 = some value := by
  unfold closestInteger
  simp only [Nat.div_one, Nat.mul_one]
  by_cases zero : value = 0
  · have none : value * 2 ^ 1075 ≤ 1 := by simp only [zero, Nat.zero_mul, Nat.zero_le]
    rw [if_pos zero, if_pos none, zero]
  · have log : value.log2 < 53 := (Nat.log2_lt zero).mpr small
    have one : unitOf 53 value = 1 := by
      rw [unitOf, Nat.sub_eq_zero_of_le (by omega), Nat.pow_zero]
    have positive : 0 < 2 ^ (52 - value.log2) := Nat.two_pow_pos _
    have below : ∀ bits, 53 ≤ bits → value < 2 ^ bits := fun bits more =>
      Nat.lt_of_lt_of_le small (Nat.pow_le_pow_right Nat.two_pos more)
    rw [if_neg zero, one, roundMultiple_of_dvd (Nat.one_dvd _), Nat.mul_mod_left,
      Nat.mul_div_cancel _ positive, if_pos ⟨rfl, below 1024 (by decide)⟩]

theorem trim_digits {digits : List Char} (all : ∀ c ∈ digits, c.isDigit = true) :
    trim digits = digits := by
  have first : digits.dropWhile isSpace = digits := by
    cases digits with
    | nil => rfl
    | cons c rest =>
        have here := isSpace_of_digit (all c List.mem_cons_self)
        exact List.dropWhile_cons_of_neg (here ▸ Bool.false_ne_true)
  rw [trim, first, List.rdropWhile_eq_self_iff]
  intro nonempty
  rw [isSpace_of_digit (all _ (List.getLast_mem nonempty))]
  exact Bool.false_ne_true

theorem decimal_digits {digits : List Char} (there : digits ≠ [])
    (all : ∀ c ∈ digits, c.isDigit = true) : decimal digits = some (digits, 0) := by
  have whole : digits.takeWhile Char.isDigit = digits := List.takeWhile_eq_self_iff.mpr all
  have rest : digits.dropWhile Char.isDigit = [] := List.dropWhile_eq_nil_iff.mpr all
  unfold decimal
  simp only [whole, rest, there, false_and, if_false]
  simp [exponent]

theorem prefixed_digits {digits : List Char} (all : ∀ c ∈ digits, c.isDigit = true) :
    prefixed digits = none := by
  have letters : ∀ letter ∈ ['b', 'B', 'o', 'O', 'x', 'X'], letter.isDigit = false := by
    intro letter member
    have all : ['b', 'B', 'o', 'O', 'x', 'X'].all (!Char.isDigit ·) = true := by decide
    exact (Bool.not_eq_true' _).mp (List.all_eq_true.mp all letter member)
  unfold prefixed
  split
  case h_1 =>
    rename_i mark c rest
    have digit := all mark (List.mem_cons_of_mem _ List.mem_cons_self)
    have other : ∀ letter ∈ ['b', 'B', 'o', 'O', 'x', 'X'], mark ≠ letter := by
      rintro letter member rfl
      rw [letters mark member] at digit
      cases digit
    rw [if_neg, if_neg, if_neg]
    · exact not_or.mpr ⟨other 'x' (by decide), other 'X' (by decide)⟩
    · exact not_or.mpr ⟨other 'o' (by decide), other 'O' (by decide)⟩
    · exact not_or.mpr ⟨other 'b' (by decide), other 'B' (by decide)⟩
  case h_2 => rfl

/-- Decimal digits are their value, if that is not rounded. -/
theorem number_digits {digits : List Char} (there : digits ≠ [])
    (all : ∀ c ∈ digits, c.isDigit = true) (small : natOf digits < 2 ^ 53) :
    number digits = some (natOf digits : Int) := by
  have value : decimalInteger digits = some (natOf digits : Int) := by
    unfold decimalInteger
    rw [decimal_digits there all, Option.bind_some]
    simp [closestInteger_one small]
  unfold number
  rw [trim_digits all]
  split
  · exact absurd rfl there
  · exact absurd (all '-' List.mem_cons_self) (by decide)
  · exact absurd (all '+' List.mem_cons_self) (by decide)
  · have plain := prefixed_digits all
    rw [plain]
    exact value

/-! ## What occurs in a numeral -/

def isNumeralChar (c : Char) : Bool :=
  isSpace c || c.isAlphanum || c = '+' || c = '-' || c = '.'

theorem isNumeralChar_of_digit {c : Char} (digit : c.isDigit = true) : isNumeralChar c = true := by
  simp [isNumeralChar, Char.isAlphanum, digit]

theorem mem_trim {text : List Char} {c : Char} (member : c ∈ text) (notSpace : isSpace c = false) :
    c ∈ trim text := by
  have split := List.takeWhile_append_dropWhile (p := isSpace) (l := text)
  rw [← split] at member
  obtain spaces | rest := List.mem_append.mp member
  · have space := List.mem_takeWhile_imp spaces
    rw [notSpace] at space
    cases space
  · rw [← @List.rdropWhile_append_rtakeWhile _ isSpace (text.dropWhile isSpace)] at rest
    obtain kept | spaces := List.mem_append.mp rest
    · exact kept
    · have space := List.mem_rtakeWhile_imp spaces
      rw [notSpace] at space
      cases space

theorem digitsInteger_chars {negative : Bool} {digits : List Char} {value : Int}
    (found : digitsInteger negative digits = some value) : ∀ c ∈ digits, isNumeralChar c = true := by
  unfold digitsInteger at found
  split at found
  case isTrue all =>
    intro c member
    exact isNumeralChar_of_digit (List.all_eq_true.mp all.2 c member)
  case isFalse => cases found

theorem signed_chars {text : List Char} {value : Int} (found : signed text = some value) :
    ∀ c ∈ text, isNumeralChar c = true := by
  unfold signed at found
  split at found
  · exact List.forall_mem_cons.mpr ⟨by decide, digitsInteger_chars found⟩
  · exact List.forall_mem_cons.mpr ⟨by decide, digitsInteger_chars found⟩
  · exact digitsInteger_chars found

theorem digitValue_char {c : Char} {value : Nat} (found : digitValue c = some value) :
    isNumeralChar c = true := by
  have alphanumeric : c.isAlphanum = true := by
    unfold digitValue at found
    delta Char.isAlphanum Char.isAlpha Char.isUpper Char.isLower
    simp only [Bool.or_eq_true, Bool.and_eq_true, decide_eq_true_iff, ge_iff_le]
    split at found
    case isTrue digit => exact .inr digit
    case isFalse =>
      split at found
      case isTrue lower =>
        have above : 'f' ≤ 'z' := by decide
        exact .inl (.inr ⟨lower.1, Nat.le_trans lower.2 above⟩)
      case isFalse =>
        split at found
        case isTrue upper =>
          have above : 'F' ≤ 'Z' := by decide
          exact .inl (.inl ⟨upper.1, Nat.le_trans upper.2 above⟩)
        case isFalse => cases found
  simp [isNumeralChar, alphanumeric]

theorem radixValue_digits {radix value : Nat} {digits : List Char}
    (found : radixValue radix digits = some value) : ∀ c ∈ digits, (digitValue c).isSome = true := by
  unfold radixValue at found
  generalize 0 = start at found
  induction digits generalizing start with
  | nil => exact nofun
  | cons c rest ih =>
      rw [List.foldlM_cons] at found
      obtain ⟨next, first, later⟩ := Option.bind_eq_some_iff.mp found
      obtain ⟨digit, here, _⟩ := Option.bind_eq_some_iff.mp first
      exact List.forall_mem_cons.mpr ⟨Option.isSome_iff_exists.mpr ⟨digit, here⟩, ih next later⟩

theorem radixValue_chars {radix value : Nat} {digits : List Char}
    (found : radixValue radix digits = some value) : ∀ c ∈ digits, isNumeralChar c = true := by
  intro c member
  obtain ⟨digit, here⟩ := Option.isSome_iff_exists.mp (radixValue_digits found c member)
  exact digitValue_char here

theorem prefixed_chars {text : List Char} {value : Nat} (found : prefixed text = some value) :
    ∀ c ∈ text, isNumeralChar c = true := by
  have letters : ∀ letter ∈ ['b', 'B', 'o', 'O', 'x', 'X'], isNumeralChar letter = true :=
    List.all_eq_true.mp (by decide)
  unfold prefixed at found
  split at found
  case h_1 mark c rest =>
    refine List.forall_mem_cons.mpr ⟨by decide, ?_⟩
    split at found
    case isTrue binary =>
      refine List.forall_mem_cons.mpr ⟨letters mark ?_, radixValue_chars found⟩
      obtain rfl | rfl := binary <;> decide
    case isFalse =>
      split at found
      case isTrue octal =>
        refine List.forall_mem_cons.mpr ⟨letters mark ?_, radixValue_chars found⟩
        obtain rfl | rfl := octal <;> decide
      case isFalse =>
        split at found
        case isTrue hexadecimal =>
          refine List.forall_mem_cons.mpr ⟨letters mark ?_, radixValue_chars found⟩
          obtain rfl | rfl := hexadecimal <;> decide
        case isFalse => cases found
  case h_2 => cases found

theorem exponent_chars {text : List Char} {value : Int} (found : exponent text = some value) :
    ∀ c ∈ text, isNumeralChar c = true := by
  cases text with
  | nil => exact nofun
  | cons mark rest =>
      rw [exponent] at found
      split at found
      case isTrue isMark =>
        refine List.forall_mem_cons.mpr ⟨?_, signed_chars found⟩
        obtain rfl | rfl := isMark <;> decide
      case isFalse => cases found

theorem decimal_chars {text : List Char} {value : List Char × Int} (found : decimal text = some value) :
    ∀ c ∈ text, isNumeralChar c = true := by
  have digits : ∀ text : List Char, (∀ c ∈ text.dropWhile Char.isDigit, isNumeralChar c = true) →
      ∀ c ∈ text, isNumeralChar c = true := by
    intro text rest c member
    rw [← List.takeWhile_append_dropWhile (p := Char.isDigit) (l := text)] at member
    obtain digit | other := List.mem_append.mp member
    · exact isNumeralChar_of_digit (List.mem_takeWhile_imp digit)
    · exact rest c other
  apply digits
  unfold decimal at found
  simp only at found
  split at found
  case h_1 more point =>
    rw [point]
    split at found
    · cases found
    · obtain ⟨power, after, _⟩ := Option.map_eq_some_iff.mp found
      exact List.forall_mem_cons.mpr ⟨by decide, digits more (exponent_chars after)⟩
  case h_2 =>
    split at found
    · cases found
    · obtain ⟨power, after, _⟩ := Option.map_eq_some_iff.mp found
      exact exponent_chars after

theorem decimalInteger_chars {text : List Char} {value : Int} (found : decimalInteger text = some value) :
    ∀ c ∈ text, isNumeralChar c = true := by
  obtain ⟨parts, here, _⟩ := Option.bind_eq_some_iff.mp found
  exact decimal_chars here

/-- A text with any other character is no number. -/
theorem number_chars {text : List Char} {value : Int} (found : number text = some value) :
    ∀ c ∈ text, isNumeralChar c = true := by
  have trimmed : ∀ c ∈ trim text, isNumeralChar c = true := by
    unfold number at found
    split at found
    case h_1 empty =>
      rw [empty]
      exact nofun
    case h_2 rest negative =>
      rw [negative]
      obtain ⟨amount, here, _⟩ := Option.map_eq_some_iff.mp found
      exact List.forall_mem_cons.mpr ⟨by decide, decimalInteger_chars here⟩
    case h_3 rest positive =>
      rw [positive]
      exact List.forall_mem_cons.mpr ⟨by decide, decimalInteger_chars found⟩
    case h_4 =>
      split at found
      case h_1 amount here => exact prefixed_chars here
      case h_2 => exact decimalInteger_chars found
  intro c member
  cases space : isSpace c with
  | true => simp [isNumeralChar, space]
  | false => exact trimmed c (mem_trim member space)

end Polyengine.Library.Numeral
