import Polyengine.Embedder.RegistrationOrder

/-!
# The soundness of tracks

Where reading numbers as doubles neither merges two tracks nor changes the precedence of two versions,
an import is served on its own track and by the highest version there.
-/

set_option autoImplicit false

namespace Polyengine.Embedder.Version

open Polyengine.Library.Rounding

variable {Value : Type}

/-! ## Pairs of versions -/

/-- The precedence of versions, with the numbers that their digits denote. -/
def precedence (v w : Semver) : Ordering := compare (rank (fun n => n) v) (rank (fun n => n) w)

/-- The precedence of versions, with the doubles closest to their numbers. -/
def doublePrecedence (v w : Semver) : Ordering :=
  compare (rank double v.doubles) (rank double w.doubles)

/-- For two ids: the keys of their tracks are those of one track exactly if the versions are on one
track, and the comparison is that of the precedence. -/
structure Sound (id other : Text) (base otherBase : Text) (v w : Semver) : Prop where
  tracks : (trackKey id = trackKey other ∧ trackKey id ≠ none) ↔ base = otherBase ∧ SameTrack v w
  order : ∀ p q, (parseInterfaceId id).semver = some p → (parseInterfaceId other).semver = some q →
    compare (compareSemver p q) 0 = precedence v w

/-- The doubles of the numbers merge no tracks and order the versions as the numbers do. -/
structure Separated (base otherBase : Text) (v w : Semver) : Prop where
  tracks : base = otherBase → SameTrack v.doubles w.doubles → SameTrack v w
  order : doublePrecedence v w = precedence v w

section

variable {id other base otherBase : Text} {v w : Semver}

theorem trackKey_eq_iff (isExact : exactId id = some (base, v))
    (otherExact : exactId other = some (otherBase, w)) (vBounded : v.Bounded)
    (wBounded : w.Bounded) :
    (trackKey id = trackKey other ∧ trackKey id ≠ none) ↔
      base = otherBase ∧ SameTrack v.doubles w.doubles := by
  rw [trackKey_of_exact isExact, trackKey_of_exact otherExact]
  exact trackKeyOf_eq_iff vBounded wBounded

theorem sound_iff (isExact : exactId id = some (base, v))
    (otherExact : exactId other = some (otherBase, w)) (vBounded : v.Bounded)
    (wBounded : w.Bounded) : Sound id other base otherBase v w ↔ Separated base otherBase v w := by
  have keys := trackKey_eq_iff isExact otherExact vBounded wBounded
  have compared : compare (compareSemver v.doubles w.doubles) 0 = doublePrecedence v w :=
    compareSemver_decides v.doubles w.doubles
  have isSemver := (parseInterfaceId_of_exact isExact).2
  have otherSemver := (parseInterfaceId_of_exact otherExact).2
  constructor
  · intro sound
    refine ⟨fun bases doubles => (sound.tracks.mp (keys.mpr ⟨bases, doubles⟩)).2, ?_⟩
    exact compared.symm.trans (sound.order _ _ isSemver otherSemver)
  · rintro ⟨apart, alike⟩
    refine ⟨keys.trans ⟨fun ⟨bases, doubles⟩ => ⟨bases, apart bases doubles⟩, fun ⟨bases, same⟩ =>
      ⟨bases, doubles_sameTrack same⟩⟩, ?_⟩
    intro p q isP isQ
    cases isSemver.symm.trans isP
    cases otherSemver.symm.trans isQ
    exact compared.trans alike

end

/-! ## Small numbers -/

/-- The numbers of a version, those of its prerelease included, are below `2 ^ 53`. -/
structure Semver.Small (v : Semver) : Prop where
  major : v.major < 2 ^ 53
  minor : v.minor < 2 ^ 53
  patch : v.patch < 2 ^ 53
  identifiers : ∀ text ∈ v.prerelease, isNumeric text = true → natOf text < 2 ^ 53

theorem Semver.Small.doubles_eq {v : Semver} (small : v.Small) : v.doubles = v := by
  rw [Semver.doubles, double_of_le small.major.le, double_of_le small.minor.le,
    double_of_le small.patch.le]

theorem Semver.Small.rank_eq {v : Semver} (small : v.Small) :
    rank double v = rank (fun n => n) v := by
  have identifiers : v.prerelease.map (identifierRank double) =
      v.prerelease.map (identifierRank fun n => n) := by
    apply List.map_congr_left
    intro text member
    unfold identifierRank
    split
    case isTrue numeric => rw [double_of_le (small.identifiers text member numeric).le]
    case isFalse => rfl
  rw [rank, rank, identifiers]

theorem separated_of_small {base otherBase : Text} {v w : Semver} (vSmall : v.Small)
    (wSmall : w.Small) : Separated base otherBase v w := by
  constructor
  · intro _ same
    rwa [vSmall.doubles_eq, wSmall.doubles_eq] at same
  · rw [doublePrecedence, precedence, vSmall.doubles_eq, wSmall.doubles_eq, vSmall.rank_eq,
      wSmall.rank_eq]

/-- The track of a version, spelled with the number itself. -/
def exactTrack (base : Text) (v : Semver) : Option Text :=
  if v.prerelease ≠ [] then none
  else if 0 < v.major then some (base ++ '@' :: Nat.toDigits 10 v.major)
  else if 0 < v.minor then some (base ++ '@' :: '0' :: '.' :: Nat.toDigits 10 v.minor)
  else none

/-! ## Imports -/

/-- The key serves a version on its own track, and no version there is above it. -/
def Best (keys : List Text) (base : Text) (v : Semver) (key : Text) : Prop :=
  (exactTrack base v = some key ∧ Spelled key) ∨
    ∃ w, exactId key = some (base, w) ∧ SameTrack v w ∧
      ∀ other ∈ keys, ∀ u, exactId other = some (base, u) → SameTrack v u → precedence u w ≠ .gt

theorem exactId_of_semver {key : Text} {semver : Semver}
    (isSemver : (parseInterfaceId key).semver = some semver) :
    ∃ base w, exactId key = some (base, w) := by
  unfold parseInterfaceId at isSemver
  unfold exactId
  cases split : splitLast '@' key with
  | none =>
      rw [split] at isSemver
      cases isSemver
  | some parts =>
      obtain ⟨base, version⟩ := parts
      rw [split] at isSemver
      obtain ⟨groups, matched, _⟩ := Option.map_eq_some_iff.mp isSemver
      exact ⟨base, groups.semver natOf, by simp only [Option.bind_some, matched, Option.map_some]⟩

/-- The ids of which the doubles tell tracks and precedence. -/
structure Told (ids : List Text) : Prop where
  bounded : ∀ id ∈ ids, ∀ base v, exactId id = some (base, v) → v.Bounded
  separated : ∀ id ∈ ids, ∀ other ∈ ids, ∀ base v otherBase w, exactId id = some (base, v) →
    exactId other = some (otherBase, w) → Separated base otherBase v w
  spelled : ∀ id ∈ ids, ∀ base v, exactId id = some (base, v) → trackKey id = exactTrack base v

theorem serves_best {keys : List Text} {id key base : Text} {v : Semver}
    (told : Told (id :: keys)) (isExact : exactId id = some (base, v))
    (serves : Serves keys id key) : key = id ∨ Best keys base v key := by
  obtain ⟨member, own | ⟨track, idTrack, ⟨rfl, spelled⟩ | ⟨keyTrack, highest⟩⟩⟩ := serves
  · exact .inl own
  · right
    left
    rw [← told.spelled id List.mem_cons_self base v isExact]
    exact ⟨idTrack, spelled⟩
  · right
    right
    have idListed : id ∈ id :: keys := List.mem_cons_self
    have keyListed : key ∈ id :: keys := List.mem_cons_of_mem _ member
    obtain ⟨semver, isSemver, _⟩ := semver_of_trackKey keyTrack
    obtain ⟨keyBase, w, keyExact⟩ := exactId_of_semver isSemver
    have vBounded := told.bounded id idListed base v isExact
    have wBounded := told.bounded key keyListed keyBase w keyExact
    have tracks := trackKey_eq_iff isExact keyExact vBounded wBounded
    have alike : trackKey id = trackKey key ∧ trackKey id ≠ none := by
      rw [idTrack, keyTrack]
      exact ⟨rfl, nofun⟩
    obtain ⟨rfl, doubles⟩ := tracks.mp alike
    have same := (told.separated id idListed key keyListed base v base w isExact keyExact).tracks rfl
      doubles
    refine ⟨w, keyExact, same, fun other listed u otherExact otherSame => ?_⟩
    have otherListed : other ∈ id :: keys := List.mem_cons_of_mem _ listed
    have uBounded := told.bounded other otherListed base u otherExact
    have onTrack := (trackKey_eq_iff isExact otherExact vBounded uBounded).mpr
      ⟨rfl, doubles_sameTrack otherSame⟩
    rw [idTrack] at onTrack
    have below := highest other (List.mem_filter.mpr ⟨listed, decide_eq_true onTrack.1.symm⟩)
    rw [rankOf_some (parseInterfaceId_of_exact otherExact).2,
      rankOf_some (parseInterfaceId_of_exact keyExact).2, WithBot.coe_le_coe] at below
    rw [← (told.separated other otherListed key keyListed base u base w otherExact keyExact).order]
    exact compare_le_iff_le.mpr below

/-- Two versions have sound keys and comparisons exactly where the doubles of their numbers keep tracks
apart and in order; the comparison is a total preorder; and the ids that doubles tell are served on
their own track and by the best there. -/
theorem tracks_sound :
    (∀ id other base otherBase v w, exactId id = some (base, v) →
      exactId other = some (otherBase, w) → v.Bounded → w.Bounded →
      (Sound id other base otherBase v w ↔ Separated base otherBase v w)) ∧
    ((∀ a b, compare (compareSemver b a) 0 = (compare (compareSemver a b) 0).swap) ∧
      ∀ a b c, compareSemver a b ≤ 0 → compareSemver b c ≤ 0 → compareSemver a c ≤ 0) ∧
    ∀ (record : ImportRecord Value) (resolver : ImportResolver Value) id base v key value,
      ImportResolver.create record.entries = .ok resolver →
      resolver.resolve id = .ok (some (key, value)) → exactId id = some (base, v) →
      Told (id :: record.keys) → key = id ∨ Best record.keys base v key := by
  refine ⟨fun id other base otherBase v w => sound_iff, compareSemver_preorder, ?_⟩
  intro record resolver id base v key value made resolved isExact told
  have spec := record.create_spec
  rw [made] at spec
  exact serves_best told isExact (resolve_serves spec.2 resolved).1

/-- The keys of `1.2.3` and `1.3.0` are sound. -/
theorem tracks_sound_small :
    Sound "a:b/c@1.2.3".toList "a:b/c@1.3.0".toList "a:b/c".toList "a:b/c".toList
      ⟨1, 2, 3, [], none⟩ ⟨1, 3, 0, [], none⟩ := by
  refine ((@tracks_sound Nat).1 _ _ _ _ _ _ (by decide) (by decide) ⟨by decide, by decide⟩
    ⟨by decide, by decide⟩).mpr ?_
  exact separated_of_small ⟨by decide, by decide, by decide, nofun⟩
    ⟨by decide, by decide, by decide, nofun⟩

/-- Two tracks have one key. -/
theorem largeMajors_merged :
    ¬∀ id other base otherBase v w, exactId id = some (base, v) →
      exactId other = some (otherBase, w) → v.Bounded → w.Bounded →
      Sound id other base otherBase v w := by
  intro sound
  have merged : trackKey "x@9007199254740992.0.0".toList =
      trackKey "x@9007199254740993.0.0".toList := by
    decide +kernel
  have there : trackKey "x@9007199254740992.0.0".toList ≠ none := by
    decide +kernel
  have pair := sound "x@9007199254740992.0.0".toList "x@9007199254740993.0.0".toList "x".toList
    "x".toList ⟨9007199254740992, 0, 0, [], none⟩ ⟨9007199254740993, 0, 0, [], none⟩
    (by decide) (by decide) ⟨by decide, by decide⟩ ⟨by decide, by decide⟩
  obtain ⟨_, _, _, ⟨major, _⟩ | ⟨zero, _⟩⟩ := pair.tracks.mp ⟨merged, there⟩
  · exact absurd major (by decide)
  · exact absurd zero (by decide)

end Polyengine.Embedder.Version
