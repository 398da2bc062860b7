import Mathlib.Data.Char
import Mathlib.Data.Prod.Lex
import Polyengine.Embedder.Version

/-!
# Tracks and precedence

The numbers of a version are read as doubles. Up to that, the keys of tracks tell tracks apart, and
versions are ordered by their precedence.
-/

set_option autoImplicit false

namespace Polyengine.Embedder.Version

open Polyengine.Library.Rounding

/-! ## Precedence -/

/-- A numeric identifier ranks below every other, and by its number. -/
def identifierRank (reads : Nat → Nat) (text : Text) : Nat ⊕ₗ Text :=
  if isNumeric text then toLex (.inl (reads (natOf text))) else toLex (.inr text)

/-- Numbers before the identifiers of a prerelease, of which a release has none above it. -/
abbrev Rank := Nat ×ₗ Nat ×ₗ Nat ×ₗ WithTop (List (Nat ⊕ₗ Text))

/-- The precedence of a version: a release ranks above its prereleases. -/
def rank (reads : Nat → Nat) (v : Semver) : Rank :=
  toLex (v.major, toLex (v.minor, toLex (v.patch,
    if v.prerelease = [] then ⊤ else ↑(v.prerelease.map (identifierRank reads)))))

/-- The sign of a number tells how two elements are ordered. -/
def Decides {Rank : Type} [LinearOrder Rank] (n : Int) (a b : Rank) : Prop :=
  compare n 0 = compare a b

namespace Decides

variable {Rank : Type} [LinearOrder Rank] {n : Int} {a b : Rank}

theorem below (negative : n < 0) (less : a < b) : Decides n a b :=
  (compare_lt_iff_lt.mpr negative).trans (compare_lt_iff_lt.mpr less).symm

theorem same (zero : n = 0) (equal : a = b) : Decides n a b :=
  (compare_eq_iff_eq.mpr zero).trans (compare_eq_iff_eq.mpr equal).symm

theorem above (positive : 0 < n) (greater : b < a) : Decides n a b :=
  (compare_gt_iff_gt.mpr positive).trans (compare_gt_iff_gt.mpr greater).symm

theorem sub (m n : Nat) : Decides ((m : Int) - n) m n := by
  obtain less | equal | greater := Nat.lt_trichotomy m n
  · exact below (by omega) less
  · exact same (by omega) equal
  · exact above (by omega) greater

theorem le_iff (decides : Decides n a b) : n ≤ 0 ↔ a ≤ b := by
  rw [← compare_le_iff_le, ← compare_le_iff_le, decides]

theorem pos_iff (decides : Decides n a b) : 0 < n ↔ b < a := by
  rw [← not_le, decides.le_iff, not_le]

theorem neg_iff (decides : Decides n a b) : n < 0 ↔ a < b := by
  rw [← compare_lt_iff_lt, ← compare_lt_iff_lt, decides]

theorem zero_iff (decides : Decides n a b) : n = 0 ↔ a = b := by
  constructor
  · intro zero
    exact compare_eq_iff_eq.mp (decides.symm.trans (compare_eq_iff_eq.mpr zero))
  · intro equal
    exact compare_eq_iff_eq.mp (decides.trans (compare_eq_iff_eq.mpr equal))

variable {Second : Type} [LinearOrder Second] {c d : Second}

theorem first (decides : Decides n a b) (differs : a ≠ b) :
    Decides n (toLex (a, c)) (toLex (b, d)) := by
  obtain less | greater := lt_or_gt_of_ne differs
  · exact below (decides.neg_iff.mpr less) (Prod.Lex.toLex_lt_toLex.mpr (.inl less))
  · exact above (decides.pos_iff.mpr greater) (Prod.Lex.toLex_lt_toLex.mpr (.inl greater))

theorem second (decides : Decides n c d) (agrees : a = b) :
    Decides n (toLex (a, c)) (toLex (b, d)) := by
  subst agrees
  obtain less | equal | greater := lt_trichotomy c d
  · exact below (decides.neg_iff.mpr less) (Prod.Lex.toLex_lt_toLex.mpr (.inr ⟨rfl, less⟩))
  · exact same (decides.zero_iff.mpr equal) (by rw [equal])
  · exact above (decides.pos_iff.mpr greater) (Prod.Lex.toLex_lt_toLex.mpr (.inr ⟨rfl, greater⟩))

variable {as bs : List Rank}

theorem head (decides : Decides n a b) (differs : a ≠ b) : Decides n (a :: as) (b :: bs) := by
  obtain less | greater := lt_or_gt_of_ne differs
  · exact below (decides.neg_iff.mpr less) (List.cons_lt_cons_iff.mpr (.inl less))
  · exact above (decides.pos_iff.mpr greater) (List.cons_lt_cons_iff.mpr (.inl greater))

theorem tail (decides : Decides n as bs) (agrees : a = b) : Decides n (a :: as) (b :: bs) := by
  subst agrees
  obtain less | equal | greater := lt_trichotomy as bs
  · exact below (decides.neg_iff.mpr less) (List.cons_lt_cons_iff.mpr (.inr ⟨rfl, less⟩))
  · exact same (decides.zero_iff.mpr equal) (by rw [equal])
  · exact above (decides.pos_iff.mpr greater) (List.cons_lt_cons_iff.mpr (.inr ⟨rfl, greater⟩))

end Decides

theorem identifierRank_numeric {reads : Nat → Nat} {text : Text} (numeric : isNumeric text = true) :
    identifierRank reads text = toLex (.inl (reads (natOf text))) := by
  rw [identifierRank, if_pos numeric]

theorem identifierRank_other {reads : Nat → Nat} {text : Text} (other : ¬isNumeric text = true) :
    identifierRank reads text = toLex (.inr text) := by
  rw [identifierRank, if_neg other]

theorem compareIdentifiers_decides (xs ys : List Text) :
    Decides (compareIdentifiers xs ys) (xs.map (identifierRank double))
      (ys.map (identifierRank double)) := by
  induction xs generalizing ys with
  | nil =>
      cases ys with
      | nil => exact .same rfl rfl
      | cons y ys => exact .below (by simp only [compareIdentifiers]; decide) (List.nil_lt_cons _ _)
  | cons x xs ih =>
      cases ys with
      | nil => exact .above (by simp only [compareIdentifiers]; decide) (List.nil_lt_cons _ _)
      | cons y ys =>
          simp only [compareIdentifiers, List.map_cons]
          by_cases xNumeric : isNumeric x = true
          · rw [identifierRank_numeric xNumeric]
            by_cases yNumeric : isNumeric y = true
            · rw [identifierRank_numeric yNumeric, if_pos (by rw [xNumeric, yNumeric]; rfl)]
              by_cases differ : number x ≠ number y
              · rw [if_pos differ]
                have decides := Decides.sub (number x) (number y)
                obtain less | greater := lt_or_gt_of_ne differ
                · exact .below (decides.neg_iff.mpr less)
                    (List.cons_lt_cons_iff.mpr (.inl (Sum.Lex.inl_lt_inl_iff.mpr less)))
                · exact .above (decides.pos_iff.mpr greater)
                    (List.cons_lt_cons_iff.mpr (.inl (Sum.Lex.inl_lt_inl_iff.mpr greater)))
              · rw [if_neg differ]
                have equal : number x = number y := Decidable.not_not.mp differ
                exact (ih ys).tail (congrArg (fun n => toLex (Sum.inl n)) equal)
            · rw [identifierRank_other yNumeric, Bool.eq_false_iff.mpr yNumeric, xNumeric]
              exact .below (by simp) (List.cons_lt_cons_iff.mpr (.inl (Sum.Lex.inl_lt_inr _ _)))
          · rw [identifierRank_other xNumeric]
            by_cases yNumeric : isNumeric y = true
            · rw [identifierRank_numeric yNumeric, Bool.eq_false_iff.mpr xNumeric, yNumeric]
              exact .above (by simp) (List.cons_lt_cons_iff.mpr (.inl (Sum.Lex.inl_lt_inr _ _)))
            · rw [identifierRank_other yNumeric, Bool.eq_false_iff.mpr xNumeric,
                Bool.eq_false_iff.mpr yNumeric]
              simp only [Bool.false_and, Bool.false_eq_true, if_false, ne_eq, not_true_eq_false]
              by_cases equal : x = y
              · rw [if_neg (not_not.mpr equal)]
                exact (ih ys).tail (congrArg (fun text => toLex (Sum.inr text)) equal)
              · rw [if_pos equal]
                by_cases less : x < y
                · rw [if_pos less]
                  exact .below (by decide)
                    (List.cons_lt_cons_iff.mpr (.inl (Sum.Lex.inr_lt_inr_iff.mpr less)))
                · rw [if_neg less]
                  have greater : y < x := lt_of_le_of_ne (not_lt.mp less) (Ne.symm equal)
                  exact .above (by decide)
                    (List.cons_lt_cons_iff.mpr (.inl (Sum.Lex.inr_lt_inr_iff.mpr greater)))

theorem compareSemver_decides (a b : Semver) :
    Decides (compareSemver a b) (rank double a) (rank double b) := by
  unfold compareSemver rank
  by_cases major : a.major ≠ b.major
  · rw [if_pos major]
    exact (Decides.sub _ _).first major
  · rw [if_neg major]
    refine .second ?_ (not_not.mp major)
    by_cases minor : a.minor ≠ b.minor
    · rw [if_pos minor]
      exact (Decides.sub _ _).first minor
    · rw [if_neg minor]
      refine .second ?_ (not_not.mp minor)
      by_cases patch : a.patch ≠ b.patch
      · rw [if_pos patch]
        exact (Decides.sub _ _).first patch
      · rw [if_neg patch]
        refine .second ?_ (not_not.mp patch)
        by_cases first : a.prerelease = []
        · by_cases second : b.prerelease = []
          · rw [if_pos ⟨first, second⟩, if_pos first, if_pos second]
            exact .same rfl rfl
          · rw [if_neg fun both => second both.2, if_pos first, if_pos first, if_neg second]
            exact .above (by decide) (WithTop.coe_lt_top _)
        · rw [if_neg fun both => first both.1, if_neg first, if_neg first]
          by_cases second : b.prerelease = []
          · rw [if_pos second, if_pos second]
            exact .below (by decide) (WithTop.coe_lt_top _)
          · rw [if_neg second, if_neg second]
            have identifiers := compareIdentifiers_decides a.prerelease b.prerelease
            obtain less | equal | greater := lt_trichotomy
              (a.prerelease.map (identifierRank double)) (b.prerelease.map (identifierRank double))
            · exact .below (identifiers.neg_iff.mpr less) (WithTop.coe_lt_coe.mpr less)
            · exact .same (identifiers.zero_iff.mpr equal) (congrArg _ equal)
            · exact .above (identifiers.pos_iff.mpr greater) (WithTop.coe_lt_coe.mpr greater)

theorem compareSemver_preorder :
    (∀ a b, compare (compareSemver b a) 0 = (compare (compareSemver a b) 0).swap) ∧
      ∀ a b c, compareSemver a b ≤ 0 → compareSemver b c ≤ 0 → compareSemver a c ≤ 0 := by
  constructor
  · intro a b
    rw [compareSemver_decides a b, compareSemver_decides b a]
    obtain less | equal | greater := lt_trichotomy (rank double a) (rank double b)
    · rw [compare_lt_iff_lt.mpr less, compare_gt_iff_gt.mpr less]
      rfl
    · rw [compare_eq_iff_eq.mpr equal, compare_eq_iff_eq.mpr equal.symm]
      rfl
    · rw [compare_gt_iff_gt.mpr greater, compare_lt_iff_lt.mpr greater]
      rfl
  · intro a b c first second
    rw [(compareSemver_decides a c).le_iff]
    exact le_trans ((compareSemver_decides a b).le_iff.mp first)
      ((compareSemver_decides b c).le_iff.mp second)

/-! ## Numbers -/

theorem roundTo_infinity : roundTo 53 infinity = infinity := by
  have fits := @roundTo_of_fits 53 1 1024 (by decide) (by decide)
  rw [Nat.one_mul] at fits
  unfold infinity
  exact fits

theorem double_double (n : Nat) : double (double n) = double n := by
  unfold double
  obtain finite | infinite := Nat.le_total (roundTo 53 n) infinity
  · rw [Nat.min_eq_left finite, roundTo_roundTo (by decide), Nat.min_eq_left finite]
  · rw [Nat.min_eq_right infinite, roundTo_infinity, Nat.min_self]

theorem double_eq_zero_iff (n : Nat) : double n = 0 ↔ n = 0 := by
  have positive : 0 < infinity := by
    unfold infinity
    exact Nat.two_pow_pos 1024
  rw [← @roundTo_eq_zero_iff 53 (by decide) n, double]
  omega

theorem double_of_le {n : Nat} (small : n ≤ 2 ^ 53) : double n = n := by
  have finite : n ≤ infinity := by
    unfold infinity
    exact Nat.le_trans small (Nat.pow_le_pow_right Nat.two_pos (by decide))
  rw [double, roundTo_of_le (by decide) small, Nat.min_eq_left finite]

theorem double_le {n : Nat} (bounded : n < 2 ^ 64) : double n ≤ 2 ^ 64 := by
  obtain ⟨significand, fits, same⟩ := roundTo_fits 53 n (by decide)
  have shift : n.log2 - (53 - 1) ≤ 11 := by
    by_cases zero : n = 0
    · simp [zero]
    · have log := (Nat.log2_lt zero).mpr bounded
      omega
  calc double n ≤ roundTo 53 n := Nat.min_le_left _ _
    _ = significand * 2 ^ (n.log2 - (53 - 1)) := same
    _ ≤ 2 ^ 53 * 2 ^ 11 := Nat.mul_le_mul fits (Nat.pow_le_pow_right Nat.two_pos shift)

theorem roundMultiple_le (unit value : Nat) : roundMultiple unit value ≤ value + unit := by
  have part : value / unit * unit ≤ value := Nat.div_mul_le_self value unit
  simp only [roundMultiple]
  split
  · rw [Nat.succ_mul]
    omega
  · omega

theorem double_shortest {x : Nat} (isDouble : double x = x) : double (shortest x) = x := by
  simp only [shortest]
  cases found : List.find? (fun y => decide (double y = x))
      (((List.range ((Nat.toDigits 10 x).length + 1)).reverse).map
        fun count => roundMultiple (10 ^ count) x) with
  | none => exact isDouble
  | some y => simpa using List.find?_some found

theorem shortest_le {x : Nat} (bounded : x ≤ 2 ^ 64) : shortest x ≤ 2 ^ 64 + 10 ^ 20 := by
  have count : (Nat.toDigits 10 x).length ≤ 20 := by
    rw [Nat.length_toDigits_le_iff (by decide) (by decide)]
    exact Nat.lt_of_le_of_lt bounded (by decide)
  simp only [shortest]
  cases found : List.find? (fun y => decide (double y = x))
      (((List.range ((Nat.toDigits 10 x).length + 1)).reverse).map
        fun count => roundMultiple (10 ^ count) x) with
  | none =>
      simp only [Option.getD_none]
      omega
  | some y =>
      obtain ⟨zeros, listed, rfl⟩ := List.mem_map.mp (List.mem_of_find?_eq_some found)
      rw [List.mem_reverse, List.mem_range] at listed
      have unit : 10 ^ zeros ≤ 10 ^ 20 := Nat.pow_le_pow_right (by decide) (by omega)
      have close := roundMultiple_le (10 ^ zeros) x
      simp only [Option.getD_some]
      omega

theorem numberText_eq {x : Nat} (bounded : x ≤ 2 ^ 64) :
    numberText x = Nat.toDigits 10 (shortest x) := by
  have finite : ¬infinity ≤ x := by
    have large : 2 ^ 64 < infinity := by
      unfold infinity
      exact Nat.pow_lt_pow_right (by decide) (by decide)
    omega
  have short : (Nat.toDigits 10 (shortest x)).length ≤ 21 := by
    rw [Nat.length_toDigits_le_iff (by decide) (by decide)]
    exact Nat.lt_of_le_of_lt (shortest_le bounded) (by decide)
  simp only [numberText, if_neg finite, if_pos short]

theorem numberText_inj {x y : Nat} (xBounded : x ≤ 2 ^ 64) (yBounded : y ≤ 2 ^ 64)
    (xDouble : double x = x) (yDouble : double y = y) (same : numberText x = numberText y) :
    x = y := by
  rw [numberText_eq xBounded, numberText_eq yBounded] at same
  have shortestSame : shortest x = shortest y := by
    rw [← @Nat.ofDigitChars_ten_toDigits (shortest x), same, Nat.ofDigitChars_ten_toDigits]
  rw [← double_shortest xDouble, shortestSame, double_shortest yDouble]

theorem numberText_digits {x : Nat} (bounded : x ≤ 2 ^ 64) {c : Char}
    (member : c ∈ numberText x) : c.isDigit = true := by
  rw [numberText_eq bounded] at member
  exact Nat.isDigit_of_mem_toDigits (by decide) (by decide) member

/-! ## Ids -/

theorem splitLast_append {mark : Char} (base : Text) {version : Text} (absent : mark ∉ version) :
    splitLast mark (base ++ mark :: version) = some (base, version) := by
  have none : splitLast mark version = none := by
    induction version with
    | nil => rfl
    | cons c rest ih =>
        rw [List.mem_cons, not_or] at absent
        rw [splitLast, ih absent.2]
        simp only
        rw [if_neg (Ne.symm absent.1)]
  induction base with
  | nil => simp only [List.nil_append, splitLast, none, if_true]
  | cons c rest ih => simp only [List.cons_append, splitLast, ih]

/-- The version with its numbers read as doubles. -/
def Semver.doubles (v : Semver) : Semver :=
  { v with major := double v.major, minor := double v.minor, patch := double v.patch }

/-- The base and the version that an id spells, with the numbers that the digits denote. -/
def exactId (id : Text) : Option (Text × Semver) :=
  (splitLast '@' id).bind fun (base, version) =>
    (execSemver version).map fun groups => (base, groups.semver natOf)

theorem parseInterfaceId_of_exact {id base : Text} {v : Semver}
    (isExact : exactId id = some (base, v)) :
    (parseInterfaceId id).base = base ∧ (parseInterfaceId id).semver = some v.doubles := by
  unfold exactId at isExact
  unfold parseInterfaceId
  cases split : splitLast '@' id with
  | none =>
      rw [split] at isExact
      cases isExact
  | some parts =>
      obtain ⟨before, version⟩ := parts
      rw [split] at isExact
      simp only [Option.bind_some, Option.map_eq_some_iff, Prod.mk.injEq] at isExact
      obtain ⟨groups, matched, rfl, rfl⟩ := isExact
      refine ⟨rfl, ?_⟩
      simp only [parseSemver, matched]
      rfl

/-! ## Tracks -/

/-- Two versions on one compatibility track. -/
def SameTrack (v w : Semver) : Prop :=
  v.prerelease = [] ∧ w.prerelease = [] ∧
    ((v.major = w.major ∧ 0 < v.major) ∨
      (v.major = 0 ∧ w.major = 0 ∧ v.minor = w.minor ∧ 0 < v.minor))

/-- The numbers that name a track are of 64 bits. -/
def Semver.Bounded (v : Semver) : Prop := v.major < 2 ^ 64 ∧ v.minor < 2 ^ 64

theorem doubles_sameTrack {v w : Semver} (same : SameTrack v w) : SameTrack v.doubles w.doubles := by
  obtain ⟨vRelease, wRelease, numbers⟩ := same
  have positive : ∀ {n}, 0 < n → 0 < double n := by
    intro n positive
    rw [Nat.pos_iff_ne_zero] at positive ⊢
    exact fun zero => positive ((double_eq_zero_iff n).mp zero)
  refine ⟨vRelease, wRelease, ?_⟩
  obtain ⟨major, some⟩ | ⟨vZero, wZero, minor, some⟩ := numbers
  · exact .inl ⟨congrArg double major, positive some⟩
  · refine .inr ⟨?_, ?_, congrArg double minor, positive some⟩
    · exact (double_eq_zero_iff _).mpr vZero
    · exact (double_eq_zero_iff _).mpr wZero

theorem append_mark_inj {base other v w : Text} (vAbsent : '@' ∉ v) (wAbsent : '@' ∉ w)
    (same : base ++ '@' :: v = other ++ '@' :: w) : base = other ∧ v = w := by
  have split := splitLast_append other wAbsent
  rw [← same, splitLast_append base vAbsent] at split
  exact Prod.mk.inj (Option.some.inj split)

theorem trackKeyOf_some {base key : Text} {v : Semver}
    (isKey : trackKeyOf base v.doubles = some key) :
    v.prerelease = [] ∧
      ((0 < double v.major ∧ key = base ++ '@' :: numberText (double v.major)) ∨
        (double v.major = 0 ∧ 0 < double v.minor ∧
          key = base ++ '@' :: '0' :: '.' :: numberText (double v.minor))) := by
  unfold trackKeyOf at isKey
  split at isKey
  · cases isKey
  case isFalse release =>
    refine ⟨not_not.mp release, ?_⟩
    split at isKey
    case isTrue major => exact .inl ⟨major, (Option.some.inj isKey).symm⟩
    case isFalse major =>
      split at isKey
      case isTrue minor =>
        exact .inr ⟨Nat.eq_zero_of_not_pos major, minor, (Option.some.inj isKey).symm⟩
      case isFalse => cases isKey

theorem trackKeyOf_eq_iff {base other : Text} {v w : Semver} (vBounded : v.Bounded)
    (wBounded : w.Bounded) :
    (trackKeyOf base v.doubles = trackKeyOf other w.doubles ∧ trackKeyOf base v.doubles ≠ none) ↔
      base = other ∧ SameTrack v.doubles w.doubles := by
  have noMark : ∀ {n}, n < 2 ^ 64 → '@' ∉ numberText (double n) ∧ '.' ∉ numberText (double n) := by
    intro n bounded
    refine ⟨fun member => ?_, fun member => ?_⟩
    · exact absurd (numberText_digits (double_le bounded) member) (by decide)
    · exact absurd (numberText_digits (double_le bounded) member) (by decide)
  have inj : ∀ {m n}, m < 2 ^ 64 → n < 2 ^ 64 →
      numberText (double m) = numberText (double n) → double m = double n := by
    intro m n mBounded nBounded same
    exact numberText_inj (double_le mBounded) (double_le nBounded) (double_double m)
      (double_double n) same
  have minorMark : ∀ {n}, n < 2 ^ 64 → '@' ∉ '0' :: '.' :: numberText (double n) := by
    intro n bounded
    simp only [List.mem_cons, not_or]
    exact ⟨by decide, by decide, (noMark bounded).1⟩
  have mixed : ∀ {m n}, m < 2 ^ 64 →
      numberText (double m) ≠ '0' :: '.' :: numberText (double n) := by
    intro m n bounded same
    apply (noMark bounded).2
    rw [same]
    exact List.mem_cons_of_mem _ List.mem_cons_self
  constructor
  · rintro ⟨same, there⟩
    obtain ⟨key, isKey⟩ := Option.ne_none_iff_exists'.mp there
    obtain ⟨vRelease, vNumbers⟩ := trackKeyOf_some isKey
    obtain ⟨wRelease, wNumbers⟩ := trackKeyOf_some (same.symm.trans isKey)
    obtain ⟨vMajor, rfl⟩ | ⟨vMajor, vMinor, rfl⟩ := vNumbers
    · obtain ⟨wMajor, texts⟩ | ⟨wMajor, wMinor, texts⟩ := wNumbers
      · obtain ⟨bases, numbers⟩ := append_mark_inj (noMark vBounded.1).1 (noMark wBounded.1).1 texts
        exact ⟨bases, vRelease, wRelease, .inl ⟨inj vBounded.1 wBounded.1 numbers, vMajor⟩⟩
      · obtain ⟨_, numbers⟩ := append_mark_inj (noMark vBounded.1).1 (minorMark wBounded.2) texts
        exact absurd numbers (mixed vBounded.1)
    · obtain ⟨wMajor, texts⟩ | ⟨wMajor, wMinor, texts⟩ := wNumbers
      · obtain ⟨_, numbers⟩ := append_mark_inj (minorMark vBounded.2) (noMark wBounded.1).1 texts
        exact absurd numbers.symm (mixed wBounded.1)
      · obtain ⟨bases, numbers⟩ := append_mark_inj (minorMark vBounded.2) (minorMark wBounded.2) texts
        injection numbers with _ numbers
        injection numbers with _ numbers
        exact ⟨bases, vRelease, wRelease,
          .inr ⟨vMajor, wMajor, inj vBounded.2 wBounded.2 numbers, vMinor⟩⟩
  · rintro ⟨rfl, vRelease, wRelease, numbers⟩
    have vNone : ¬v.doubles.prerelease ≠ [] := not_not.mpr vRelease
    have wNone : ¬w.doubles.prerelease ≠ [] := not_not.mpr wRelease
    obtain ⟨major, some⟩ | ⟨vZero, wZero, minor, some⟩ := numbers
    · simp only [trackKeyOf, if_neg vNone, if_neg wNone, ← major, if_pos some]
      exact ⟨trivial, nofun⟩
    · simp only [trackKeyOf, if_neg vNone, if_neg wNone, vZero, wZero, Nat.lt_irrefl, if_false,
        ← minor, if_pos some]
      exact ⟨trivial, nofun⟩

theorem trackKey_of_exact {id base : Text} {v : Semver} (isExact : exactId id = some (base, v)) :
    trackKey id = trackKeyOf base v.doubles := by
  obtain ⟨isBase, isSemver⟩ := parseInterfaceId_of_exact isExact
  simp only [trackKey, isSemver, isBase, Option.bind_some]

end Polyengine.Embedder.Version
