import Mathlib.Data.List.TakeWhile
import Mathlib.Data.Set.Finite.Basic
import Polyengine.Embedder.ImportResolution

/-!
# The order of registration

Records of the same entries in another order are resolved alike as long as no track has two keys whose
versions are of one, highest, precedence.
-/

set_option autoImplicit false

namespace Polyengine.Embedder.Version

open Polyengine.Library

variable {Value : Type}

/-! ## Resolving -/

/-- Both fail, or both return the same key and value. -/
def Alike (first second : Except Failure (Option (Text × Option Value))) : Prop :=
  match first, second with
  | .error _, .error _ => True
  | .ok found, .ok other => found = other
  | _, _ => False

/-- Both constructions fail, or both succeed and resolve every id alike. -/
def Agree (first second : Except Failure (ImportResolver Value)) : Prop :=
  match first, second with
  | .error _, .error _ => True
  | .ok resolver, .ok other => ∀ id, Alike (resolver.resolve id) (other.resolve id)
  | _, _ => False

/-- The key that serves an id: its own, or the one that holds its track, which is the track key or a
version that no other on the track is above. -/
def Serves (keys : List Text) (id key : Text) : Prop :=
  key ∈ keys ∧
    (key = id ∨ ∃ track, trackKey id = some track ∧
      ((key = track ∧ Spelled track) ∨
        (trackKey key = some track ∧ ∀ other ∈ versioned track keys, rankOf other ≤ rankOf key)))

theorem holder_serves {keys : List Text} {track : Text} {claim : TrackClaim}
    (held : holder keys track = some claim) :
    claim.key ∈ keys ∧
      ((claim.key = track ∧ Spelled track) ∨
        (trackKey claim.key = some track ∧
          ∀ other ∈ versioned track keys, rankOf other ≤ rankOf claim.key)) := by
  unfold holder at held
  split at held
  case isTrue spelled =>
    cases held
    exact ⟨spelled.1, .inl ⟨rfl, spelled.2⟩⟩
  case isFalse =>
    obtain ⟨key, first, rfl⟩ := Option.map_eq_some_iff.mp held
    obtain ⟨member, isTrack⟩ := trackKey_of_mem (List.argmax_mem first)
    exact ⟨member, .inr ⟨isTrack, fun other listed => List.le_of_mem_argmax listed first⟩⟩

theorem resolve_serves {record : List (Text × Value)} {resolver : ImportResolver Value}
    (built : Built record resolver) {id key : Text} {value : Option Value}
    (resolved : resolver.resolve id = .ok (some (key, value))) :
    Serves (record.map Prod.fst) id key ∧ value = record.lookup key := by
  unfold ImportResolver.resolve at resolved
  rw [built.exact] at resolved
  cases found : record.lookup id with
  | some own =>
      rw [found] at resolved
      cases resolved
      have member : id ∈ record.map Prod.fst :=
        Registry.lookup_isSome_iff.mp (by rw [found]; rfl)
      exact ⟨⟨member, .inl rfl⟩, found.symm⟩
  | none =>
      rw [found] at resolved
      simp only at resolved
      split at resolved
      case h_1 version semver isVersion isSemver =>
        split at resolved
        case h_1 claim claimed =>
          cases resolved
          obtain ⟨track, isTrack, held⟩ := Option.bind_eq_some_iff.mp claimed
          rw [built.tracks] at held
          have idTrack : trackKey id = some track := by
            simp only [trackKey, isSemver, Option.bind_some, isTrack]
          obtain ⟨member, serves⟩ := holder_serves held
          exact ⟨⟨member, .inr ⟨track, idTrack, serves⟩⟩, rfl⟩
        case h_2 => split at resolved <;> cases resolved
      case h_2 => split at resolved <;> cases resolved
      case h_3 => cases resolved

/-! ## Permutations -/

/-- No track has two keys of one precedence that no other on the track is above. -/
def NoTies (keys : List Text) : Prop :=
  ∀ track, ∀ a ∈ versioned track keys, ∀ b ∈ versioned track keys, rankOf a = rankOf b →
    (∀ c ∈ versioned track keys, rankOf c ≤ rankOf a) → a = b

section

variable {keys others : List Text}

theorem versioned_perm (perm : keys.Perm others) (track : Text) :
    (versioned track keys).Perm (versioned track others) :=
  perm.filter _

theorem acceptable_perm (perm : keys.Perm others) (acceptable : Acceptable keys) :
    Acceptable others := by
  refine ⟨fun key member => acceptable.zero key (perm.mem_iff.mpr member), ?_⟩
  intro track member spelled
  have none := acceptable.tracks track (perm.mem_iff.mpr member) spelled
  have others := versioned_perm perm track
  rw [none] at others
  exact List.nil_perm.mp others

theorem holder_perm (perm : keys.Perm others) (noTies : NoTies keys) (track : Text) :
    holder keys track = holder others track := by
  have first := Registry.argmax_perm (versioned_perm perm track) (noTies track)
  simp only [holder, perm.mem_iff, first]

end

section

variable {record other : List (Text × Value)} {resolver next : ImportResolver Value}

theorem resolve_perm (distinct : (record.map Prod.fst).Nodup) (perm : record.Perm other)
    (noTies : NoTies (record.map Prod.fst)) (built : Built record resolver)
    (otherBuilt : Built other next) (id : Text) : Alike (resolver.resolve id) (next.resolve id) := by
  have sameKeys := perm.map Prod.fst
  have lookups : ∀ key, record.lookup key = other.lookup key :=
    fun key => Registry.lookup_perm distinct perm
  have tracks : resolver.tracks = next.tracks := by
    funext track
    rw [built.tracks, otherBuilt.tracks, holder_perm sameKeys noTies]
  have unversioned : resolver.unversioned = next.unversioned := by
    funext base
    rw [built.unversioned, otherBuilt.unversioned]
    simp only [sameKeys.mem_iff]
  have near : ∀ base : Text,
      ((record.map Prod.fst).filter fun k => decide ((parseInterfaceId k).base = base)) = [] ↔
        ((other.map Prod.fst).filter fun k => decide ((parseInterfaceId k).base = base)) = [] := by
    intro base
    have filtered := sameKeys.filter fun k => decide ((parseInterfaceId k).base = base)
    constructor
    · intro empty
      rw [empty] at filtered
      exact List.nil_perm.mp filtered
    · intro empty
      rw [empty] at filtered
      exact List.perm_nil.mp filtered
  unfold ImportResolver.resolve
  simp only [built.exact, otherBuilt.exact, lookups, tracks, unversioned]
  cases other.lookup id with
  | some value => exact rfl
  | none =>
      simp only
      cases (parseInterfaceId id).version with
      | none =>
          simp only
          by_cases empty : ((other.map Prod.fst).filter fun k =>
              decide ((parseInterfaceId k).base = (parseInterfaceId id).base)) = []
          · rw [if_neg (not_not.mpr empty), if_neg (not_not.mpr ((near _).mpr empty))]
            exact rfl
          · rw [if_pos empty, if_pos fun none => empty ((near _).mp none)]
            trivial
      | some version =>
          cases (parseInterfaceId id).semver with
          | none => exact rfl
          | some semver =>
              simp only
              cases (trackKeyOf (parseInterfaceId id).base semver).bind next.tracks with
              | some claim => exact rfl
              | none =>
                  simp only
                  cases next.unversioned (parseInterfaceId id).base with
                  | some un => trivial
                  | none => exact rfl

end

/-! ## Further ids of a track -/

theorem splitLast_some {mark : Char} {text before after : Text}
    (split : splitLast mark text = some (before, after)) :
    text = before ++ mark :: after ∧ mark ∉ after := by
  have absent : ∀ text : Text, splitLast mark text = none → mark ∉ text := by
    intro text none
    induction text with
    | nil => exact List.not_mem_nil
    | cons c rest ih =>
        rw [splitLast] at none
        split at none
        case h_1 => cases none
        case h_2 later =>
          split at none
          case isTrue => cases none
          case isFalse other => exact List.not_mem_cons_of_ne_of_not_mem (Ne.symm other) (ih later)
  induction text generalizing before with
  | nil => cases split
  | cons c rest ih =>
      rw [splitLast] at split
      split at split
      case h_1 first second later =>
        cases split
        obtain ⟨rfl, none⟩ := ih later
        exact ⟨rfl, none⟩
      case h_2 later =>
        split at split
        case isFalse => cases split
        case isTrue isMark =>
          cases split
          exact ⟨by rw [isMark, List.nil_append], absent _ later⟩

theorem splitLast_append_right {mark : Char} {text before after more : Text}
    (split : splitLast mark text = some (before, after)) (absent : mark ∉ more) :
    splitLast mark (text ++ more) = some (before, after ++ more) := by
  obtain ⟨rfl, none⟩ := splitLast_some split
  have noneMore : mark ∉ after ++ more := by
    rw [List.mem_append, not_or]
    exact ⟨none, absent⟩
  rw [List.append_assoc, List.cons_append]
  exact splitLast_append before noneMore

theorem digits_append {text found rest more : Text} (isDigits : digits text = some (found, rest))
    (there : rest ≠ []) : digits (text ++ more) = some (found, rest ++ more) := by
  simp only [digits] at isDigits ⊢
  split at isDigits
  · cases isDigits
  case isFalse some =>
    cases isDigits
    have notAll : ¬(text.takeWhile Char.isDigit).length = text.length := by
      intro all
      have whole := @List.takeWhile_append_dropWhile _ Char.isDigit text
      have lengths := congrArg List.length whole
      rw [List.length_append, all] at lengths
      exact there (List.length_eq_zero_iff.mp (by omega))
    have left : (text ++ more).takeWhile Char.isDigit = text.takeWhile Char.isDigit := by
      rw [List.takeWhile_append, if_neg notAll]
    have right : (text ++ more).dropWhile Char.isDigit = text.dropWhile Char.isDigit ++ more := by
      rw [List.dropWhile_append, if_neg (by simpa using there)]
    rw [left, right, if_neg some]

theorem dot_some {text rest : Text} (isDot : dot text = some rest) : text = '.' :: rest := by
  unfold dot at isDot
  split at isDot
  · rw [Option.some.inj isDot]
  · cases isDot

def zeros (count : Nat) : Text := List.replicate count '0'

theorem scan_append {holds : Char → Bool} {text more : Text} (some : text.takeWhile holds ≠ [])
    (whole : text.dropWhile holds = []) (all : ∀ c ∈ more, holds c = true) :
    (text ++ more).takeWhile holds ≠ [] ∧ (text ++ more).dropWhile holds = [] := by
  constructor
  · intro none
    have holdsAll : ∀ c ∈ text, holds c = true := List.dropWhile_eq_nil_iff.mp whole
    rw [List.takeWhile_append_of_pos holdsAll] at none
    rw [(List.append_eq_nil_iff.mp none).1] at some
    exact some rfl
  · apply List.dropWhile_eq_nil_iff.mpr
    intro c member
    obtain before | after := List.mem_append.mp member
    · exact List.dropWhile_eq_nil_iff.mp whole c before
    · exact all c after

theorem all_zeros {holds : Char → Bool} (zero : holds '0' = true) (count : Nat) :
    ∀ c ∈ zeros count, holds c = true := by
  intro c member
  rw [List.eq_of_mem_replicate member]
  exact zero

theorem digits_zeros {text found : Text} (isDigits : digits text = some (found, [])) (count : Nat) :
    ∃ more, digits (text ++ zeros count) = some (more, []) := by
  simp only [digits] at isDigits ⊢
  split at isDigits
  · cases isDigits
  case isFalse there =>
    injection isDigits with parts
    injection parts with _ rest
    obtain ⟨left, right⟩ := scan_append there rest (all_zeros (by rfl) count)
    rw [right, if_neg left]
    exact ⟨_, rfl⟩

theorem tag_minus {text rest : Text} (absent : tag '-' text = (none, rest)) : rest = text := by
  unfold tag at absent
  split at absent
  · exact (Prod.mk.inj absent).2.symm
  · simp only at absent
    split at absent
    · cases absent
    · exact (Prod.mk.inj absent).2.symm

theorem tag_plus_zeros {text : Text} {build : Option Text} (isBuild : tag '+' text = (build, []))
    (there : text ≠ []) (count : Nat) :
    ∃ more, tag '-' (text ++ zeros count) = (none, text ++ zeros count) ∧
      tag '+' (text ++ zeros count) = (some more, []) := by
  cases text with
  | nil => exact absurd rfl there
  | cons c rest =>
      simp only [tag] at isBuild
      split at isBuild
      case isFalse => cases isBuild
      case isTrue isMark =>
        obtain ⟨rfl, tagged⟩ := isMark
        obtain ⟨left, right⟩ :=
          scan_append tagged (Prod.mk.inj isBuild).2 (all_zeros (by rfl) count)
        refine ⟨(rest ++ zeros count).takeWhile isTagChar, ?_, ?_⟩
        · rw [List.cons_append]
          simp only [tag]
          rw [if_neg fun both => absurd both.1 (by decide)]
        · rw [List.cons_append]
          simp only [tag]
          rw [if_pos ⟨trivial, left⟩, right]

theorem execSemver_zeros {version : Text} {groups : Groups}
    (matched : execSemver version = some groups) (release : groups.prerelease = none) (count : Nat) :
    ∃ patch build, execSemver (version ++ zeros count) =
      some ⟨groups.major, groups.minor, patch, none, build⟩ := by
  unfold execSemver at matched ⊢
  obtain ⟨⟨major, afterMajor⟩, isMajor, fromMajor⟩ := Option.bind_eq_some_iff.mp matched
  obtain ⟨beforeMinor, firstDot, fromDot⟩ := Option.bind_eq_some_iff.mp fromMajor
  obtain ⟨⟨minor, afterMinor⟩, isMinor, fromMinor⟩ := Option.bind_eq_some_iff.mp fromDot
  obtain ⟨beforePatch, secondDot, fromSecond⟩ := Option.bind_eq_some_iff.mp fromMinor
  obtain ⟨⟨patch, afterPatch⟩, isPatch, fromPatch⟩ := Option.bind_eq_some_iff.mp fromSecond
  cases dot_some firstDot
  cases dot_some secondDot
  simp only [digits_append isMajor (List.cons_ne_nil _ _), List.cons_append, dot,
    digits_append isMinor (List.cons_ne_nil _ _), bind, Option.bind]
  cases prerelease : tag '-' afterPatch with
  | mk found rest =>
      cases build : tag '+' rest with
      | mk metadata last =>
          simp only [prerelease, build] at fromPatch
          split at fromPatch
          case isFalse => cases fromPatch
          case isTrue ended =>
            cases fromPatch
            cases release
            cases tag_minus prerelease
            rw [ended] at build
            by_cases there : afterPatch = []
            · subst there
              obtain ⟨more, isMore⟩ := digits_zeros isPatch count
              rw [isMore]
              exact ⟨more, none, rfl⟩
            · obtain ⟨more, noPrerelease, isBuild⟩ := tag_plus_zeros build there count
              rw [digits_append isPatch there]
              simp only [noPrerelease, isBuild]
              exact ⟨patch, some more, rfl⟩

theorem trackKey_zeros {key track : Text} (isTrack : trackKey key = some track) (count : Nat) :
    ∃ version semver, (parseInterfaceId (key ++ zeros count)).version = some version ∧
      (parseInterfaceId (key ++ zeros count)).semver = some semver ∧
      trackKeyOf (parseInterfaceId (key ++ zeros count)).base semver = some track := by
  obtain ⟨semver, isSemver, claimed⟩ := semver_of_trackKey isTrack
  unfold parseInterfaceId at isSemver claimed ⊢
  cases split : splitLast '@' key with
  | none =>
      rw [split] at isSemver
      cases isSemver
  | some parts =>
      obtain ⟨base, version⟩ := parts
      rw [split] at isSemver claimed
      simp only [parseSemver] at isSemver claimed
      obtain ⟨groups, matched, rfl⟩ := Option.map_eq_some_iff.mp isSemver
      have release : groups.prerelease = none := by
        unfold trackKeyOf at claimed
        split at claimed
        case isTrue => cases claimed
        case isFalse none =>
          cases prerelease : groups.prerelease with
          | none => rfl
          | some text =>
              refine absurd (not_not.mp none) ?_
              simp only [Groups.semver, prerelease, Option.map_some, Option.getD_some]
              exact List.splitOn_ne_nil _ _
      have absent : '@' ∉ zeros count := fun member =>
        absurd (List.eq_of_mem_replicate member) (by decide)
      obtain ⟨patch, build, longer⟩ := execSemver_zeros matched release count
      rw [splitLast_append_right split absent]
      refine ⟨_, _, rfl, (by simp only [parseSemver, longer, Option.map_some]; rfl), ?_⟩
      rw [← claimed]
      simp only [trackKeyOf, Groups.semver, release]
      rfl

theorem exists_id {key track : Text} (isTrack : trackKey key = some track) (keys : List Text) :
    ∃ id ∉ keys, ∃ version semver, (parseInterfaceId id).version = some version ∧
      (parseInterfaceId id).semver = some semver ∧
      trackKeyOf (parseInterfaceId id).base semver = some track := by
  have injective : Function.Injective fun count => key ++ zeros count := by
    intro first second same
    have lengths := congrArg List.length (List.append_cancel_left same)
    simpa [zeros] using lengths
  obtain ⟨id, ⟨count, rfl⟩, absent⟩ :=
    (Set.infinite_range_of_injective injective).exists_notMem_finset keys.toFinset
  exact ⟨_, fun member => absent (List.mem_toFinset.mpr member), trackKey_zeros isTrack count⟩

/-! ## Ties -/

section

variable {record : List (Text × Value)} {resolver : ImportResolver Value}

theorem resolve_track (built : Built record resolver) {id version track : Text} {semver : Semver}
    {claim : TrackClaim} (absent : id ∉ record.map Prod.fst)
    (isVersion : (parseInterfaceId id).version = some version)
    (isSemver : (parseInterfaceId id).semver = some semver)
    (isTrack : trackKeyOf (parseInterfaceId id).base semver = some track)
    (held : holder (record.map Prod.fst) track = some claim) :
    resolver.resolve id = .ok (some (claim.key, record.lookup claim.key)) := by
  have notFound : record.lookup id = none := by
    rw [← Option.not_isSome_iff_eq_none, Registry.lookup_isSome_iff]
    exact absent
  rw [← built.tracks] at held
  simp only [ImportResolver.resolve, built.exact, notFound, isVersion, isSemver, isTrack,
    Option.bind_some, held]

theorem holder_head {key track : Text} {keys : List Text} (noKey : ¬(track ∈ key :: keys ∧ Spelled track))
    (isTrack : trackKey key = some track)
    (highest : ∀ other ∈ versioned track keys, rankOf other ≤ rankOf key) :
    holder (key :: keys) track = some ⟨key, (parseInterfaceId key).semver⟩ := by
  have first : versioned track (key :: keys) = key :: versioned track keys := by
    have holds : decide (trackKey key = some track) = true := decide_eq_true isTrack
    rw [versioned, List.filter_cons, if_pos holds]
    rfl
  rw [holder, if_neg noKey, first, Registry.argmax_head highest]
  rfl

end

/-- The resolution does not depend on the order of registration, and what serves an id is of the highest
version on its track. -/
structure OrderFree (record : ImportRecord Value) : Prop where
  agree : ∀ other : ImportRecord Value, record.entries.Perm other.entries →
    Agree (ImportResolver.create record.entries) (ImportResolver.create other.entries)
  highest : ∀ resolver, ImportResolver.create record.entries = .ok resolver →
    ∀ id key value, resolver.resolve id = .ok (some (key, value)) →
      Serves record.keys id key ∧ value = record.entries.lookup key

/-- The resolution is free of the order exactly where the construction fails or no track has a tie. -/
theorem orderFree_iff (record : ImportRecord Value) :
    OrderFree record ↔ (Acceptable record.keys → NoTies record.keys) := by
  constructor
  · intro free acceptable track a aOn b bOn same highest
    -- Each of the two comes first in one record, and then serves an id of the track.
    have served : ∀ key ∈ versioned track record.keys, rankOf key = rankOf a →
        ∀ resolver, ImportResolver.create record.entries = .ok resolver →
        ∀ id ∉ record.keys, ∀ version semver, (parseInterfaceId id).version = some version →
          (parseInterfaceId id).semver = some semver →
          trackKeyOf (parseInterfaceId id).base semver = some track →
          ∃ value, resolver.resolve id = .ok (some (key, value)) := by
      intro key keyOn keyRank resolver made id absent version semver isVersion isSemver isTrack
      obtain ⟨keyMember, keyTrack⟩ := trackKey_of_mem keyOn
      obtain ⟨entry, entryMember, rfl⟩ := List.mem_map.mp keyMember
      obtain ⟨before, after, split⟩ := List.append_of_mem entryMember
      have perm : record.entries.Perm (entry :: (before ++ after)) := by
        rw [split]
        exact List.perm_middle
      have distinct : ((entry :: (before ++ after)).map Prod.fst).Nodup :=
        (perm.map Prod.fst).nodup_iff.mp record.distinct
      have keys := perm.map Prod.fst
      obtain ⟨next, otherMade, built⟩ :=
        (⟨entry :: (before ++ after), distinct⟩ : ImportRecord Value).create_ok
          (acceptable_perm keys acceptable)
      have agree := free.agree ⟨_, distinct⟩ perm
      simp only [made, otherMade, Agree] at agree
      have noKey : ¬(track ∈ entry.1 :: (before ++ after).map Prod.fst ∧ Spelled track) := by
        rintro ⟨member, spelled⟩
        have none := acceptable.tracks track (keys.mem_iff.mpr member) spelled
        rw [ImportRecord.keys] at keyOn
        rw [ImportRecord.keys] at none
        rw [none] at keyOn
        cases keyOn
      have above : ∀ other ∈ versioned track ((before ++ after).map Prod.fst),
          rankOf other ≤ rankOf entry.1 := by
        intro other listed
        obtain ⟨member, otherTrack⟩ := trackKey_of_mem listed
        rw [keyRank]
        refine highest other (List.mem_filter.mpr ⟨?_, decide_eq_true otherTrack⟩)
        exact keys.mem_iff.mpr (List.mem_cons_of_mem _ member)
      have held := holder_head noKey keyTrack above
      have resolved := resolve_track built (fun member => absent (keys.mem_iff.mpr member)) isVersion
        isSemver isTrack held
      have alike := agree id
      rw [resolved] at alike
      cases result : resolver.resolve id with
      | error failure =>
          rw [result] at alike
          cases alike
      | ok found =>
          rw [result] at alike
          exact ⟨_, congrArg Except.ok alike⟩
    obtain ⟨_, aTrack⟩ := trackKey_of_mem aOn
    obtain ⟨id, absent, version, semver, isVersion, isSemver, isTrack⟩ :=
      exists_id aTrack record.keys
    obtain ⟨resolver, made, _⟩ := record.create_ok acceptable
    obtain ⟨_, first⟩ := served a aOn rfl resolver made id absent version semver isVersion isSemver
      isTrack
    obtain ⟨_, second⟩ := served b bOn same.symm resolver made id absent version semver isVersion
      isSemver isTrack
    rw [first] at second
    injection second with found
    injection found with found
    exact (Prod.mk.inj found).1
  · intro noTies
    constructor
    · intro other perm
      have keys : record.keys.Perm other.keys := perm.map Prod.fst
      by_cases acceptable : Acceptable record.keys
      · obtain ⟨resolver, made, built⟩ := record.create_ok acceptable
        obtain ⟨next, otherMade, otherBuilt⟩ := other.create_ok (acceptable_perm keys acceptable)
        rw [made, otherMade]
        exact resolve_perm record.distinct perm (noTies acceptable) built otherBuilt
      · obtain ⟨failure, made⟩ := record.create_error acceptable
        obtain ⟨otherFailure, otherMade⟩ := other.create_error
          fun accepted => acceptable (acceptable_perm keys.symm accepted)
        rw [made, otherMade]
        trivial
    · intro resolver made id key value resolved
      have spec := record.create_spec
      rw [made] at spec
      exact resolve_serves spec.2 resolved

theorem OrderFree.same {record other : ImportRecord Value} (free : OrderFree record)
    (perm : record.entries.Perm other.entries) {id : Text} {found second : Option (Text × Option Value)}
    (isFound : ((ImportResolver.create record.entries).bind fun resolver =>
      resolver.resolve id) = .ok found)
    (isSecond : ((ImportResolver.create other.entries).bind fun resolver =>
      resolver.resolve id) = .ok second) : found = second := by
  have agree := free.agree other perm
  cases made : ImportResolver.create record.entries with
  | error failure =>
      rw [made] at isFound
      cases isFound
  | ok resolver =>
      cases otherMade : ImportResolver.create other.entries with
      | error failure =>
          rw [otherMade] at isSecond
          cases isSecond
      | ok next =>
          rw [made, otherMade] at agree
          rw [made] at isFound
          rw [otherMade] at isSecond
          have alike := agree id
          simp only [Except.bind] at isFound isSecond
          rw [isFound, isSecond] at alike
          exact alike

/-- Two builds of one version. -/
def builds : ImportRecord Nat where
  entries := [("a:b/c@1.2.3+x".toList, 0), ("a:b/c@1.2.3+y".toList, 1)]
  distinct := by decide

def buildsReversed : ImportRecord Nat where
  entries := [("a:b/c@1.2.3+y".toList, 1), ("a:b/c@1.2.3+x".toList, 0)]
  distinct := by decide

/-- The build that is registered first serves the track. -/
theorem builds_inOrder : ¬∀ record : ImportRecord Nat, OrderFree record := by
  intro free
  have perm : builds.entries.Perm buildsReversed.entries := List.Perm.swap _ _ _
  have first : ((ImportResolver.create builds.entries).bind fun resolver =>
      resolver.resolve "a:b/c@1.2.0".toList) = .ok (some ("a:b/c@1.2.3+x".toList, some 0)) := by
    decide +kernel
  have second : ((ImportResolver.create buildsReversed.entries).bind fun resolver =>
      resolver.resolve "a:b/c@1.2.0".toList) = .ok (some ("a:b/c@1.2.3+y".toList, some 1)) := by
    decide +kernel
  have same := (free builds).same perm first second
  exact absurd same (by decide)

end Polyengine.Embedder.Version
