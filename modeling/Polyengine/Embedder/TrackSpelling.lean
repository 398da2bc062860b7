import Polyengine.Embedder.RegistrationOrder

/-!
# The spelling of tracks

Which registrations under a track key can be resolved.
-/

set_option autoImplicit false

namespace Polyengine.Embedder.Version

open Polyengine.Library

variable {Value : Type}

def Rendered (digits : Text) : Prop := 0 < number digits ∧ numberText (number digits) = digits

instance (digits : Text) : Decidable (Rendered digits) := inferInstanceAs (Decidable (_ ∧ _))

/-- The version text of a track, `major` or `0.minor`, as it is rendered. -/
def Canonical : Text → Prop
  | '0' :: '.' :: minor => Rendered minor
  | major => Rendered major

/-- `/^\d+$/` or `/^0\.\d+$/`. -/
def TrackText (version : Text) : Prop :=
  isNumeric version = true ∨ ∃ minor, version = '0' :: '.' :: minor ∧ isNumeric minor = true

def SpelledAs (key version : Text) : Prop :=
  (parseInterfaceId key).version = some version ∧ (parseInterfaceId key).semver = none ∧
    TrackText version

def trackNumber : Text → Bool × Nat
  | '0' :: '.' :: minor => (true, number minor)
  | major => (false, number major)

/-- Every key that is spelled as a track is the key of its base for some version, is what that
version resolves to, and is the only spelling of its track. -/
structure NoDeadTrack (record : ImportRecord Value) : Prop where
  live : ∀ resolver, ImportResolver.create record.entries = .ok resolver →
    ∀ key ∈ record.keys, ∀ spelling, SpelledAs key spelling →
      ∃ version semver value, parseSemver version = some semver ∧
        resolver.resolve ((parseInterfaceId key).base ++ '@' :: version) = .ok (some (key, value))
  rendered : ∀ resolver, ImportResolver.create record.entries = .ok resolver →
    ∀ key ∈ record.keys, ∀ spelling, SpelledAs key spelling → ∃ id, trackKey id = some key
  single : ∀ resolver, ImportResolver.create record.entries = .ok resolver →
    ∀ key ∈ record.keys, ∀ spelling, SpelledAs key spelling →
    ∀ other ∈ record.keys, ∀ otherSpelling, SpelledAs other otherSpelling →
      (parseInterfaceId key).base = (parseInterfaceId other).base →
      trackNumber spelling = trackNumber otherSpelling → key = other

/-! ## Texts of numbers -/

theorem isNumeric_iff {text : Text} :
    isNumeric text = true ↔ text ≠ [] ∧ ∀ c ∈ text, c.isDigit = true := by
  simp [isNumeric]

theorem mark_notMem_numberText (x : Nat) : '@' ∉ numberText x := by
  have plain : ∀ n, '@' ∉ Nat.toDigits 10 n := by
    intro n member
    have digit := Nat.isDigit_of_mem_toDigits (by decide) (by decide) member
    exact absurd digit (by decide)
  intro member
  simp only [numberText] at member
  split at member
  · exact absurd member (by decide)
  · split at member
    · exact plain _ member
    · have front : ∀ c ∈ ((Nat.toDigits 10 (shortest x)).reverse.dropWhile (· = '0')).reverse,
          c ∈ Nat.toDigits 10 (shortest x) := by
        intro c there
        have suffix := (List.dropWhile_suffix (· = '0')).subset (List.mem_reverse.mp there)
        exact List.mem_reverse.mp suffix
      split at member
      · exact plain _ member
      case h_2 first single =>
        rw [single] at front
        obtain same | more := List.mem_cons.mp member
        · exact plain _ (same ▸ front first (List.mem_singleton_self _))
        obtain same | more := List.mem_cons.mp more
        · exact absurd same (by decide)
        obtain same | exponent := List.mem_cons.mp more
        · exact absurd same (by decide)
        · exact plain _ exponent
      case h_3 first rest _ several =>
        rw [several] at front
        obtain same | more := List.mem_cons.mp member
        · exact plain _ (same ▸ front first List.mem_cons_self)
        obtain same | more := List.mem_cons.mp more
        · exact absurd same (by decide)
        obtain later | more := List.mem_append.mp more
        · exact plain _ (front _ (List.mem_cons_of_mem _ later))
        obtain same | more := List.mem_cons.mp more
        · exact absurd same (by decide)
        obtain same | exponent := List.mem_cons.mp more
        · exact absurd same (by decide)
        · exact plain _ exponent

theorem numberText_digits_or_letter (x : Nat) :
    numberText x = Nat.toDigits 10 (shortest x) ∨
      ∃ c ∈ numberText x, c.isDigit = false ∧ c ≠ '.' := by
  simp only [numberText]
  split
  · exact .inr ⟨'I', by decide, by decide, by decide⟩
  · split
    · exact .inl rfl
    · split
      · exact .inl rfl
      · exact .inr ⟨'e', List.mem_cons_of_mem _ List.mem_cons_self, by decide, by decide⟩
      · refine .inr ⟨'e', ?_, by decide, by decide⟩
        refine List.mem_cons_of_mem _ (List.mem_cons_of_mem _ ?_)
        exact List.mem_append_right _ List.mem_cons_self

theorem rendered_of_digits {x : Nat} (isDouble : double x = x) (positive : 0 < x)
    (plain : numberText x = Nat.toDigits 10 (shortest x)) : Rendered (numberText x) := by
  have same : number (numberText x) = x := by
    rw [plain, number, natOf, Nat.ofDigitChars_ten_toDigits, double_shortest isDouble]
  rw [Rendered, same]
  exact ⟨positive, rfl⟩

theorem number_double (digits : Text) : double (number digits) = number digits :=
  double_double (natOf digits)

/-! ## Spelled keys -/

section

variable {key version : Text}

theorem key_of_version (isVersion : (parseInterfaceId key).version = some version) :
    key = (parseInterfaceId key).base ++ '@' :: version ∧ '@' ∉ version := by
  unfold parseInterfaceId at isVersion ⊢
  cases split : splitLast '@' key with
  | none =>
      rw [split] at isVersion
      cases isVersion
  | some parts =>
      rw [split] at isVersion
      cases isVersion
      exact splitLast_some split

theorem SpelledAs.eq (spelled : SpelledAs key version) :
    key = (parseInterfaceId key).base ++ '@' :: version ∧ '@' ∉ version :=
  key_of_version spelled.1

theorem SpelledAs.spelled (spelled : SpelledAs key version) : Spelled key ∨ Zero key := by
  obtain ⟨isVersion, noSemver, text⟩ := spelled
  have some : asTrackKeySpelling key = some key ∨
      asTrackKeySpelling key = none ∧ version = ['0'] := by
    simp only [asTrackKeySpelling, isVersion, noSemver]
    obtain major | ⟨minor, rfl, digits⟩ := text
    · rw [if_pos major]
      by_cases zero : version = ['0']
      · exact .inr ⟨if_pos zero, zero⟩
      · exact .inl (if_neg zero)
    · have notMajor : ¬isNumeric ('0' :: '.' :: minor) = true := by
        simp [isNumeric]
      rw [if_neg notMajor]
      exact .inl (if_pos digits)
  obtain same | ⟨none, zero⟩ := some
  · exact .inl same
  · exact .inr ⟨none, zero ▸ isVersion⟩

theorem TrackText.plain {text : Text} (isText : TrackText text) :
    ∀ c ∈ text, c.isDigit = true ∨ c = '.' := by
  intro c member
  obtain major | ⟨minor, rfl, digits⟩ := isText
  · exact .inl ((isNumeric_iff.mp major).2 c member)
  · obtain rfl | member := List.mem_cons.mp member
    · exact .inl (by decide)
    obtain rfl | member := List.mem_cons.mp member
    · exact .inr rfl
    · exact .inl ((isNumeric_iff.mp digits).2 c member)

theorem numberText_plain {x : Nat} (chars : ∀ c ∈ numberText x, c.isDigit = true ∨ c = '.') :
    numberText x = Nat.toDigits 10 (shortest x) := by
  obtain plain | ⟨c, member, noDigit, noDot⟩ := numberText_digits_or_letter x
  · exact plain
  · obtain digit | dot := chars c member
    · rw [noDigit] at digit
      cases digit
    · exact absurd dot noDot

theorem canonical_major {text : Text} (digits : ∀ c ∈ text, c.isDigit = true)
    (rendered : Rendered text) : Canonical text := by
  unfold Canonical
  split
  · exact absurd (digits '.' (List.mem_cons_of_mem _ List.mem_cons_self)) (by decide)
  · exact rendered

theorem canonical_minor {text : Text} : Canonical ('0' :: '.' :: text) ↔ Rendered text := Iff.rfl

theorem canonical_of_trackKey {id : Text} (spelled : SpelledAs key version)
    (isTrack : trackKey id = some key) : Canonical version := by
  obtain ⟨semver, isSemver, isKey⟩ := semver_of_trackKey isTrack
  have doubles : double semver.major = semver.major ∧ double semver.minor = semver.minor := by
    unfold parseInterfaceId at isSemver
    split at isSemver
    · cases isSemver
    · obtain ⟨groups, _, rfl⟩ := Option.map_eq_some_iff.mp isSemver
      exact ⟨number_double _, number_double _⟩
  obtain ⟨whole, absent⟩ := spelled.eq
  have chars := spelled.2.2.plain
  unfold trackKeyOf at isKey
  split at isKey
  · cases isKey
  · split at isKey
    case isTrue positive =>
      have same := Option.some.inj isKey
      rw [whole] at same
      obtain ⟨-, text⟩ := append_mark_inj (mark_notMem_numberText _) absent same
      rw [← text] at chars
      have plain := numberText_plain chars
      have rendered := rendered_of_digits doubles.1 positive plain
      have digits : ∀ c ∈ numberText semver.major, c.isDigit = true := by
        intro c member
        rw [plain] at member
        exact Nat.isDigit_of_mem_toDigits (by decide) (by decide) member
      rw [text] at rendered digits
      exact canonical_major digits rendered
    case isFalse =>
      split at isKey
      case isFalse => cases isKey
      case isTrue positive =>
        have same := Option.some.inj isKey
        rw [whole] at same
        have noMark : ∀ {text : Text}, '@' ∉ text → '@' ∉ '0' :: '.' :: text := by
          intro text absent
          simp [absent]
        obtain ⟨-, rfl⟩ := append_mark_inj (noMark (mark_notMem_numberText _)) absent same
        have plain := numberText_plain fun c member =>
          chars c (List.mem_cons_of_mem _ (List.mem_cons_of_mem _ member))
        exact canonical_minor.mpr (rendered_of_digits doubles.2 positive plain)

theorem parseSemver_of_digits {major minor : Text} (isMajor : isNumeric major = true)
    (isMinor : isNumeric minor = true) :
    parseSemver (major ++ '.' :: minor ++ ".0".toList) =
      some ⟨number major, number minor, 0, [], none⟩ := by
  have scan : ∀ {text more : Text}, isNumeric text = true →
      digits (text ++ '.' :: more) = some (text, '.' :: more) := by
    intro text more numeric
    obtain ⟨there, all⟩ := isNumeric_iff.mp numeric
    have taken : (text ++ '.' :: more).takeWhile Char.isDigit = text := by
      rw [List.takeWhile_append_of_pos all]
      simp
    have left : (text ++ '.' :: more).dropWhile Char.isDigit = '.' :: more := by
      rw [List.dropWhile_append_of_pos all]
      simp
    rw [digits, taken, left, if_neg there]
  have zero : number ['0'] = 0 := (double_eq_zero_iff _).mpr (by decide)
  have shape : major ++ '.' :: minor ++ ".0".toList = major ++ '.' :: (minor ++ ['.', '0']) := by
    simp
  rw [shape, parseSemver, execSemver, scan isMajor]
  simp only [bind, Option.bind, dot, scan isMinor]
  have last : digits ['0'] = some (['0'], []) := by decide
  simp only [last, tag, if_true, Option.map_some, Groups.semver, zero]
  rfl

theorem version_of_canonical (spelled : SpelledAs key version) (canonical : Canonical version) :
    ∃ full semver, parseSemver full = some semver ∧ '@' ∉ full ∧
      trackKeyOf (parseInterfaceId key).base semver = some key := by
  obtain ⟨whole, absent⟩ := spelled.eq
  have zeroText : isNumeric ['0'] = true := by decide
  have zero : number ['0'] = 0 := (double_eq_zero_iff _).mpr (by decide)
  have noMark : ∀ {text : Text}, isNumeric text = true → '@' ∉ text := fun numeric member =>
    absurd ((isNumeric_iff.mp numeric).2 _ member) (by decide)
  obtain major | ⟨minor, rfl, isMinor⟩ := spelled.2.2
  · have rendered : Rendered version := by
      unfold Canonical at canonical
      split at canonical
      · exact absurd major (by simp [isNumeric])
      · exact canonical
    refine ⟨_, _, parseSemver_of_digits major zeroText, ?_, ?_⟩
    · simp [noMark major]
    · simp only [trackKeyOf, ne_eq, not_true_eq_false, if_false, if_pos rendered.1, rendered.2]
      exact congrArg some whole.symm
  · refine ⟨_, _, parseSemver_of_digits zeroText isMinor, ?_, ?_⟩
    · simp [noMark isMinor]
    · have rendered : Rendered minor := canonical_minor.mp canonical
      have zeroMajor : ¬0 < number ['0'] := by omega
      simp only [trackKeyOf, ne_eq, not_true_eq_false, if_false, if_neg zeroMajor,
        if_pos rendered.1, rendered.2]
      exact congrArg some whole.symm

theorem trackNumber_inj {other : Text} (canonical : Canonical version) (otherToo : Canonical other)
    (same : trackNumber version = trackNumber other) : version = other := by
  have rendered : ∀ {text : Text}, Canonical text →
      text = if (trackNumber text).1 then '0' :: '.' :: numberText (trackNumber text).2
        else numberText (trackNumber text).2 := by
    intro text canonical
    unfold Canonical at canonical
    unfold trackNumber
    split at canonical
    · simp only [if_true, canonical.2]
    · simp only [Bool.false_eq_true, if_false, canonical.2]
  rw [rendered canonical, rendered otherToo, same]

end

/-! ## Records -/

section

variable {record : ImportRecord Value}

theorem resolves_of_canonical {resolver : ImportResolver Value}
    (built : Built record.entries resolver) (acceptable : Acceptable record.keys)
    {key spelling : Text}
    (member : key ∈ record.keys) (spelled : SpelledAs key spelling)
    (canonical : Canonical spelling) :
    ∃ version semver value, parseSemver version = some semver ∧
      resolver.resolve ((parseInterfaceId key).base ++ '@' :: version) =
        .ok (some (key, value)) := by
  have isSpelled : Spelled key := spelled.spelled.resolve_right (acceptable.zero key member)
  obtain ⟨version, semver, parsed, noMark, isKey⟩ := version_of_canonical spelled canonical
  have id : parseInterfaceId ((parseInterfaceId key).base ++ '@' :: version) =
      ⟨(parseInterfaceId key).base, some version, some semver⟩ := by
    conv_lhs => rw [parseInterfaceId, splitLast_append _ noMark]
    simp only [parsed]
  have isTrack : trackKey ((parseInterfaceId key).base ++ '@' :: version) = some key := by
    simp only [trackKey, id, Option.bind_some, isKey]
  have absent : (parseInterfaceId key).base ++ '@' :: version ∉ record.keys := by
    intro listed
    have none := acceptable.tracks key member isSpelled
    have there : _ ∈ versioned key record.keys :=
      List.mem_filter.mpr ⟨listed, decide_eq_true isTrack⟩
    rw [none] at there
    exact absurd there List.not_mem_nil
  have held : holder record.keys key = some ⟨key, none⟩ := by
    rw [holder, if_pos ⟨member, isSpelled⟩]
  exact ⟨version, semver, _, parsed, resolve_track built absent (by rw [id]) (by rw [id])
    (by rw [id]; exact isKey) held⟩

/-- No registration under a track key is dead exactly where the construction fails or every such key
is rendered. -/
theorem noDeadTrack_iff (record : ImportRecord Value) :
    NoDeadTrack record ↔
      (Acceptable record.keys →
        ∀ key ∈ record.keys, ∀ spelling, SpelledAs key spelling → Canonical spelling) := by
  constructor
  · intro live acceptable key member spelling spelled
    obtain ⟨resolver, created, -⟩ := record.create_ok acceptable
    obtain ⟨id, isTrack⟩ := live.rendered resolver created key member spelling spelled
    exact canonical_of_trackKey spelled isTrack
  · intro condition
    have accepted : ∀ resolver, ImportResolver.create record.entries = .ok resolver →
        Acceptable record.keys ∧ Built record.entries resolver := by
      intro resolver created
      have spec := record.create_spec
      rwa [created] at spec
    refine ⟨?_, ?_, ?_⟩
    · intro resolver created key member spelling spelled
      obtain ⟨acceptable, built⟩ := accepted resolver created
      exact resolves_of_canonical built acceptable member spelled
        (condition acceptable key member spelling spelled)
    · intro resolver created key member spelling spelled
      obtain ⟨acceptable, -⟩ := accepted resolver created
      obtain ⟨version, semver, parsed, noMark, isKey⟩ :=
        version_of_canonical spelled (condition acceptable key member spelling spelled)
      refine ⟨(parseInterfaceId key).base ++ '@' :: version, ?_⟩
      conv_lhs => rw [trackKey, parseInterfaceId, splitLast_append _ noMark]
      simp only [parsed, Option.bind_some, isKey]
    · intro resolver created key member spelling spelled other otherMember otherSpelling
        otherSpelled base same
      obtain ⟨acceptable, -⟩ := accepted resolver created
      have text := trackNumber_inj (condition acceptable key member spelling spelled)
        (condition acceptable other otherMember otherSpelling otherSpelled) same
      rw [spelled.eq.1, otherSpelled.eq.1, base, text]

def zeroMinor : ImportRecord Nat where
  entries := [("a:b/c@0.0".toList, 1)]
  distinct := by decide

/-- No version is served by the registration for the minor version zero. -/
theorem zeroMinor_dead : ¬∀ record : ImportRecord Nat, NoDeadTrack record := by
  intro all
  have zero : number ['0'] = 0 := (double_eq_zero_iff _).mpr (by decide)
  have listed : "a:b/c@0.0".toList ∈ zeroMinor.keys := List.mem_singleton_self _
  have acceptable : Acceptable zeroMinor.keys := by
    refine ⟨fun key member => ?_, fun track member spelled => ?_⟩
    · obtain rfl := List.mem_singleton.mp member
      exact fun zero => absurd zero.1 (by decide)
    · obtain rfl := List.mem_singleton.mp member
      decide
  have canonical := (noDeadTrack_iff zeroMinor).mp (all zeroMinor) acceptable _ listed "0.0".toList
    ⟨by decide, by decide, .inr ⟨['0'], rfl, by decide⟩⟩
  have rendered : Rendered ['0'] := canonical
  rw [Rendered, zero] at rendered
  exact absurd rendered.1 (by decide)

end

end Polyengine.Embedder.Version
