import Polyengine.Embedder.VersionOrder
import Polyengine.Library.Registry

/-!
# The resolution of imports

What the table of imports holds after it was built from a record, and what of it depends on the order
of the record.
-/

set_option autoImplicit false

namespace Polyengine.Embedder.Version

open Polyengine.Library

variable {Value : Type}

/-! ## What keys claim -/

theorem asTrackKeySpelling_some {key track : Text} (spelled : asTrackKeySpelling key = some track) :
    track = key ∧ (parseInterfaceId key).semver = none := by
  unfold asTrackKeySpelling at spelled
  simp only at spelled
  split at spelled
  case h_2 => cases spelled
  case h_1 version noSemver =>
    refine ⟨?_, noSemver⟩
    split at spelled
    · split at spelled
      · cases spelled
      · exact (Option.some.inj spelled).symm
    · split at spelled
      · split at spelled
        · exact (Option.some.inj spelled).symm
        · cases spelled
      · cases spelled

def Spelled (key : Text) : Prop := asTrackKeySpelling key = some key

instance (key : Text) : Decidable (Spelled key) := inferInstanceAs (Decidable (_ = _))

theorem spelled_or_none (key : Text) : Spelled key ∨ asTrackKeySpelling key = none := by
  cases spelled : asTrackKeySpelling key with
  | none => exact .inr rfl
  | some track =>
      left
      rw [Spelled, spelled, (asTrackKeySpelling_some spelled).1]

theorem trackKey_of_spelled {key : Text} (spelled : Spelled key) : trackKey key = none := by
  simp only [trackKey, (asTrackKeySpelling_some spelled).2, Option.bind_none]

def rankOf (key : Text) : WithBot Rank :=
  match (parseInterfaceId key).semver with
  | none => ⊥
  | some semver => ↑(rank double semver)

def versioned (track : Text) (keys : List Text) : List Text :=
  keys.filter fun key => trackKey key = some track

def holder (keys : List Text) (track : Text) : Option TrackClaim :=
  if track ∈ keys ∧ Spelled track then some ⟨track, none⟩
  else ((versioned track keys).argmax rankOf).map fun key => ⟨key, (parseInterfaceId key).semver⟩

def Zero (key : Text) : Prop :=
  asTrackKeySpelling key = none ∧ (parseInterfaceId key).version = some ['0']

structure Acceptable (keys : List Text) : Prop where
  zero : ∀ key ∈ keys, ¬Zero key
  tracks : ∀ track ∈ keys, Spelled track → versioned track keys = []

def Unversioned (key : Text) : Prop :=
  (parseInterfaceId key).version = none ∧ (key.contains '/' || key.contains ':') = true

instance (key : Text) : Decidable (Unversioned key) := inferInstanceAs (Decidable (_ ∧ _))

/-- The table over a record. -/
structure Built (record : List (Text × Value)) (resolver : ImportResolver Value) : Prop where
  exact : resolver.exact = record
  tracks : ∀ track, resolver.tracks track = holder (record.map Prod.fst) track
  unversioned : ∀ base, resolver.unversioned base =
    if base ∈ record.map Prod.fst ∧ Unversioned base then some base else none

theorem parseInterfaceId_unversioned {id : Text} (none : (parseInterfaceId id).version = none) :
    (parseInterfaceId id).base = id ∧ (parseInterfaceId id).semver = Option.none := by
  unfold parseInterfaceId at none ⊢
  cases split : splitLast '@' id with
  | none => exact ⟨rfl, rfl⟩
  | some parts =>
      rw [split] at none
      cases none

/-! ## One entry -/

section

variable {keys : List Text} {key : Text}

theorem versioned_append_of_ne {track : Text} (other : trackKey key ≠ some track) :
    versioned track (keys ++ [key]) = versioned track keys := by
  have none : [key].filter (fun key => decide (trackKey key = some track)) = [] := by
    simpa using other
  rw [versioned, List.filter_append, none, List.append_nil]
  rfl

theorem versioned_append {track : Text} (same : trackKey key = some track) :
    versioned track (keys ++ [key]) = versioned track keys ++ [key] := by
  have one : [key].filter (fun key => decide (trackKey key = some track)) = [key] := by
    simpa using same
  rw [versioned, List.filter_append, one]
  rfl

theorem holder_append_other (notSpelled : ¬Spelled key) {track : Text}
    (other : trackKey key ≠ some track) : holder (keys ++ [key]) track = holder keys track := by
  have member : (track ∈ keys ++ [key] ∧ Spelled track) ↔ (track ∈ keys ∧ Spelled track) := by
    rw [List.mem_append, List.mem_singleton]
    constructor
    · rintro ⟨before | rfl, spelled⟩
      · exact ⟨before, spelled⟩
      · exact absurd spelled notSpelled
    · exact fun ⟨before, spelled⟩ => ⟨.inl before, spelled⟩
  simp only [holder, member, versioned_append_of_ne other]

theorem holder_append_spelled (spelled : Spelled key) (track : Text) :
    holder (keys ++ [key]) track = if track = key then some ⟨key, none⟩ else holder keys track := by
  have noTrack : trackKey key ≠ some track := by
    rw [trackKey_of_spelled spelled]
    exact nofun
  by_cases same : track = key
  · subst same
    rw [if_pos rfl, holder, if_pos ⟨List.mem_append_right _ List.mem_cons_self, spelled⟩]
  · have member : (track ∈ keys ++ [key] ∧ Spelled track) ↔ (track ∈ keys ∧ Spelled track) := by
      rw [List.mem_append, List.mem_singleton, or_iff_left same]
    rw [if_neg same]
    simp only [holder, member, versioned_append_of_ne noTrack]

theorem acceptable_of_append (acceptable : Acceptable (keys ++ [key])) : Acceptable keys := by
  refine ⟨fun other member => acceptable.zero other (List.mem_append_left _ member), ?_⟩
  intro track member spelled
  have none := acceptable.tracks track (List.mem_append_left _ member) spelled
  rw [versioned, List.filter_append, List.append_eq_nil_iff] at none
  exact none.1

theorem acceptable_append_other (acceptable : Acceptable keys) (notSpelled : ¬Spelled key)
    (noTrack : trackKey key = none) : Acceptable (keys ++ [key]) ↔ ¬Zero key := by
  constructor
  · intro both
    exact both.zero key (List.mem_append_right _ List.mem_cons_self)
  · intro notZero
    refine ⟨fun other member => ?_, fun track member spelled => ?_⟩
    · obtain before | new := List.mem_append.mp member
      · exact acceptable.zero other before
      · cases List.mem_singleton.mp new
        exact notZero
    · rw [versioned_append_of_ne (by rw [noTrack]; exact nofun)]
      obtain before | new := List.mem_append.mp member
      · exact acceptable.tracks track before spelled
      · cases List.mem_singleton.mp new
        exact absurd spelled notSpelled

theorem unversioned_append (versionedKey : ¬Unversioned key) (base : Text) :
    (if base ∈ keys ++ [key] ∧ Unversioned base then some base else none) =
      if base ∈ keys ∧ Unversioned base then some base else none := by
  have member : (base ∈ keys ++ [key] ∧ Unversioned base) ↔ (base ∈ keys ∧ Unversioned base) := by
    rw [List.mem_append, List.mem_singleton]
    constructor
    · rintro ⟨before | rfl, unversioned⟩
      · exact ⟨before, unversioned⟩
      · exact absurd unversioned versionedKey
    · exact fun ⟨before, unversioned⟩ => ⟨.inl before, unversioned⟩
  simp only [member]

theorem semver_of_trackKey {track : Text} (isTrack : trackKey key = some track) :
    ∃ semver, (parseInterfaceId key).semver = some semver ∧
      trackKeyOf (parseInterfaceId key).base semver = some track :=
  Option.bind_eq_some_iff.mp isTrack

theorem trackKey_of_mem {track : Text} (member : key ∈ versioned track keys) :
    key ∈ keys ∧ trackKey key = some track := by
  obtain ⟨listed, isTrack⟩ := List.mem_filter.mp member
  exact ⟨listed, of_decide_eq_true isTrack⟩

theorem rankOf_some {semver : Semver} (isSemver : (parseInterfaceId key).semver = some semver) :
    rankOf key = ↑(rank double semver) := by
  rw [rankOf, isSemver]

end

/-- What becomes of the table when an entry is added. -/
def Registers (record : List (Text × Value)) (entry : Text × Value)
    (result : Except Failure (ImportResolver Value)) : Prop :=
  match result with
  | .ok next => Acceptable (record.map Prod.fst ++ [entry.1]) ∧ Built (record ++ [entry]) next
  | .error _ => ¬Acceptable (record.map Prod.fst ++ [entry.1])

section

variable {record : List (Text × Value)} {resolver : ImportResolver Value} {entry : Text × Value}

theorem claim_spelled (built : Built record resolver) (acceptable : Acceptable (record.map Prod.fst))
    (fresh : entry.1 ∉ record.map Prod.fst) (spelled : Spelled entry.1) :
    Registers record entry
      (({ resolver with exact := resolver.exact ++ [entry] } : ImportResolver Value).claim entry.1
        ⟨entry.1, none⟩) := by
  have notHeld : ¬(entry.1 ∈ record.map Prod.fst ∧ Spelled entry.1) := fun both => fresh both.1
  have noTrack : trackKey entry.1 = none := trackKey_of_spelled spelled
  have notUnversioned : ¬Unversioned entry.1 := by
    intro unversioned
    unfold Spelled asTrackKeySpelling at spelled
    simp only [unversioned.1] at spelled
    cases spelled
  unfold ImportResolver.claim
  simp only [built.tracks, holder, if_neg notHeld]
  cases first : (versioned entry.1 (record.map Prod.fst)).argmax rankOf with
  | none =>
      have none := List.argmax_eq_none.mp first
      simp only [Option.map_none]
      refine ⟨⟨fun key member zero => ?_, fun track member isSpelled => ?_⟩, ?_, ?_, ?_⟩
      · obtain before | new := List.mem_append.mp member
        · exact acceptable.zero key before zero
        · cases List.mem_singleton.mp new
          exact nomatch spelled.symm.trans zero.1
      · rw [versioned_append_of_ne (by rw [noTrack]; exact nofun)]
        obtain before | new := List.mem_append.mp member
        · exact acceptable.tracks track before isSpelled
        · cases List.mem_singleton.mp new
          exact none
      · simp only [ImportResolver.setTrack, built.exact]
      · intro track
        simp only [ImportResolver.setTrack, List.map_append, List.map_singleton,
          holder_append_spelled spelled, Function.update_apply, built.tracks]
      · intro base
        simp only [ImportResolver.setTrack, List.map_append, List.map_singleton,
          unversioned_append notUnversioned, built.unversioned]
  | some held =>
      have member := List.argmax_mem first
      obtain ⟨_, isTrack⟩ := trackKey_of_mem member
      obtain ⟨semver, isSemver, _⟩ := semver_of_trackKey isTrack
      simp only [Option.map_some, isSemver]
      intro both
      have empty := both.tracks entry.1 (List.mem_append_right _ List.mem_cons_self) spelled
      rw [versioned_append_of_ne (by rw [noTrack]; exact nofun)] at empty
      rw [empty] at member
      cases member

theorem claim_versioned (built : Built record resolver)
    (acceptable : Acceptable (record.map Prod.fst)) {track : Text} {semver : Semver}
    (isSemver : (parseInterfaceId entry.1).semver = some semver)
    (isTrack : trackKey entry.1 = some track) (notZero : ¬Zero entry.1) :
    Registers record entry
      (({ resolver with exact := resolver.exact ++ [entry] } : ImportResolver Value).claim track
        ⟨entry.1, some semver⟩) := by
  have notSpelled : ¬Spelled entry.1 := by
    intro spelled
    rw [trackKey_of_spelled spelled] at isTrack
    cases isTrack
  have notUnversioned : ¬Unversioned entry.1 := by
    intro unversioned
    rw [(parseInterfaceId_unversioned unversioned.1).2] at isSemver
    cases isSemver
  unfold ImportResolver.claim
  simp only [built.tracks]
  by_cases held : track ∈ record.map Prod.fst ∧ Spelled track
  · simp only [holder, if_pos held]
    intro both
    have empty := both.tracks track (List.mem_append_left _ held.1) held.2
    rw [versioned_append isTrack, List.append_eq_nil_iff] at empty
    exact List.cons_ne_nil _ _ empty.2
  have accepted : Acceptable (record.map Prod.fst ++ [entry.1]) := by
    refine ⟨fun key member => ?_, fun other member isSpelled => ?_⟩
    · obtain before | new := List.mem_append.mp member
      · exact acceptable.zero key before
      · cases List.mem_singleton.mp new
        exact notZero
    · obtain before | new := List.mem_append.mp member
      · have different : trackKey entry.1 ≠ some other := by
          intro same
          cases isTrack.symm.trans same
          exact held ⟨before, isSpelled⟩
        rw [versioned_append_of_ne different]
        exact acceptable.tracks other before isSpelled
      · cases List.mem_singleton.mp new
        exact absurd isSpelled notSpelled
  have stillUnclaimed : ¬(track ∈ record.map Prod.fst ++ [entry.1] ∧ Spelled track) := by
    rintro ⟨member, isSpelled⟩
    obtain before | new := List.mem_append.mp member
    · exact held ⟨before, isSpelled⟩
    · cases List.mem_singleton.mp new
      exact notSpelled isSpelled
  have elsewhere : ∀ other, other ≠ track →
      holder (record.map Prod.fst ++ [entry.1]) other = holder (record.map Prod.fst) other := by
    intro other different
    refine holder_append_other notSpelled fun same => different ?_
    exact (Option.some.inj (isTrack.symm.trans same)).symm
  -- The tracks are right once the track of the entry is.
  have tracks : ∀ next : ImportResolver Value, next.exact = resolver.exact ++ [entry] →
      (∀ other, other ≠ track → next.tracks other = resolver.tracks other) →
      next.tracks track = holder (record.map Prod.fst ++ [entry.1]) track →
      next.unversioned = resolver.unversioned →
      Registers record entry (.ok next) := by
    intro next isExact others here sameUnversioned
    refine ⟨accepted, by rw [isExact, built.exact], fun other => ?_, fun base => ?_⟩
    · rw [List.map_append, List.map_singleton]
      by_cases same : other = track
      · rw [same, here]
      · rw [others other same, elsewhere other same, built.tracks]
    · rw [sameUnversioned, List.map_append, List.map_singleton,
        unversioned_append notUnversioned, built.unversioned]
  have updated : ∀ claim : TrackClaim,
      holder (record.map Prod.fst ++ [entry.1]) track = some claim →
      Registers record entry (.ok
        (({ resolver with exact := resolver.exact ++ [entry] } :
          ImportResolver Value).setTrack track claim)) := by
    intro claim isHolder
    refine tracks _ rfl (fun other different => ?_) ?_ rfl
    · exact Function.update_of_ne different _ _
    · rw [isHolder]
      exact Function.update_self _ _ _
  have concat := @List.argmax_concat _ _ _ _ rankOf entry.1
    (versioned track (record.map Prod.fst))
  rw [← versioned_append isTrack] at concat
  simp only [holder, if_neg held]
  cases first : (versioned track (record.map Prod.fst)).argmax rankOf with
  | none =>
      simp only [Option.map_none]
      refine updated _ ?_
      rw [holder, if_neg stillUnclaimed, concat, first]
      simp only [Option.map_some, isSemver]
  | some key =>
      obtain ⟨_, keyTrack⟩ := trackKey_of_mem (List.argmax_mem first)
      obtain ⟨other, keySemver, _⟩ := semver_of_trackKey keyTrack
      simp only [Option.map_some, keySemver]
      have higher : 0 < compareSemver semver other ↔ rankOf key < rankOf entry.1 := by
        rw [rankOf_some keySemver, rankOf_some isSemver, WithBot.coe_lt_coe]
        exact (compareSemver_decides semver other).pos_iff
      rw [first] at concat
      simp only at concat
      by_cases greater : rankOf key < rankOf entry.1
      · rw [if_pos (higher.mpr greater)]
        refine updated _ ?_
        rw [holder, if_neg stillUnclaimed, concat, if_pos greater]
        simp only [Option.map_some, isSemver]
      · rw [if_neg fun positive => greater (higher.mp positive)]
        refine tracks _ rfl (fun _ _ => rfl) ?_ rfl
        rw [holder, if_neg stillUnclaimed, concat, if_neg greater]
        simp only [built.tracks, holder, if_neg held, first]

theorem register_registers (built : Built record resolver)
    (acceptable : Acceptable (record.map Prod.fst)) (fresh : entry.1 ∉ record.map Prod.fst) :
    Registers record entry
      (({ resolver with exact := resolver.exact ++ [entry] } : ImportResolver Value).register
        entry.1) := by
  obtain spelled | notSpelled := spelled_or_none entry.1
  · unfold ImportResolver.register
    rw [spelled]
    exact claim_spelled built acceptable fresh spelled
  have other : ¬Spelled entry.1 := by
    intro spelled
    rw [spelled] at notSpelled
    cases notSpelled
  -- A key that claims no track changes the list of entries, and the unversioned key of its base.
  have unclaimed : ∀ next : ImportResolver Value, trackKey entry.1 = none → ¬Zero entry.1 →
      next.exact = resolver.exact ++ [entry] → next.tracks = resolver.tracks →
      (∀ base, next.unversioned base =
        if base ∈ record.map Prod.fst ++ [entry.1] ∧ Unversioned base then some base else none) →
      Registers record entry (.ok next) := by
    intro next noTrack notZero isExact sameTracks isUnversioned
    refine ⟨(acceptable_append_other acceptable other noTrack).mpr notZero, ?_, fun track => ?_,
      fun base => ?_⟩
    · rw [isExact, built.exact]
    · rw [sameTracks, built.tracks, List.map_append, List.map_singleton]
      exact (holder_append_other other (by rw [noTrack]; exact nofun)).symm
    · rw [isUnversioned, List.map_append, List.map_singleton]
  have plain : trackKey entry.1 = none → ¬Zero entry.1 → ¬Unversioned entry.1 →
      Registers record entry
        (.ok ({ resolver with exact := resolver.exact ++ [entry] } : ImportResolver Value)) := by
    intro noTrack notZero versionedKey
    refine unclaimed _ noTrack notZero rfl rfl fun base => ?_
    rw [unversioned_append versionedKey, ← built.unversioned]
  unfold ImportResolver.register
  simp only [notSpelled]
  cases isVersion : (parseInterfaceId entry.1).version with
  | none =>
      obtain ⟨isBase, noSemver⟩ := parseInterfaceId_unversioned isVersion
      have noTrack : trackKey entry.1 = none := by
        simp only [trackKey, noSemver, Option.bind_none]
      have notZero : ¬Zero entry.1 := by
        rintro ⟨_, zero⟩
        rw [isVersion] at zero
        cases zero
      simp only [isBase]
      by_cases interface : (entry.1.contains '/' || entry.1.contains ':') = true
      · rw [if_pos interface]
        refine unclaimed _ noTrack notZero rfl rfl fun base => ?_
        simp only [Function.update_apply, built.unversioned, List.mem_append, List.mem_singleton]
        by_cases same : base = entry.1
        · subst same
          rw [if_pos rfl, if_pos ⟨.inr rfl, isVersion, interface⟩]
        · rw [if_neg same]
          simp only [same, or_false]
      · rw [if_neg interface]
        exact plain noTrack notZero fun unversioned => interface unversioned.2
  | some version =>
      have versionedKey : ¬Unversioned entry.1 := by
        rintro ⟨none, _⟩
        rw [isVersion] at none
        cases none
      simp only
      by_cases zero : version = ['0']
      · rw [if_pos zero]
        intro both
        refine both.zero entry.1 (List.mem_append_right _ List.mem_cons_self) ⟨notSpelled, ?_⟩
        rw [isVersion, zero]
      rw [if_neg zero]
      have notZero : ¬Zero entry.1 := by
        rintro ⟨_, isZero⟩
        rw [isVersion] at isZero
        exact zero (Option.some.inj isZero)
      cases isSemver : (parseInterfaceId entry.1).semver with
      | none =>
          refine plain ?_ notZero versionedKey
          simp only [trackKey, isSemver, Option.bind_none]
      | some semver =>
          have isTrack : trackKey entry.1 = trackKeyOf (parseInterfaceId entry.1).base semver := by
            simp only [trackKey, isSemver, Option.bind_some]
          simp only
          cases claimed : trackKeyOf (parseInterfaceId entry.1).base semver with
          | none => exact plain (isTrack.trans claimed) notZero versionedKey
          | some track =>
              exact claim_versioned built acceptable isSemver (isTrack.trans claimed) notZero

theorem add_registers (built : Built record resolver)
    (acceptable : Acceptable (record.map Prod.fst)) (fresh : entry.1 ∉ record.map Prod.fst) :
    Registers record entry (resolver.add entry) := by
  have unregistered : ¬(resolver.exact.lookup entry.1).isSome = true := by
    rw [built.exact, Registry.lookup_isSome_iff]
    exact fresh
  rw [ImportResolver.add, if_neg unregistered]
  exact register_registers built acceptable fresh

end

/-! ## The whole record -/

/-- The imports of an embedder: values under distinct keys, in the order of registration. -/
structure ImportRecord (Value : Type) where
  entries : List (Text × Value)
  distinct : (entries.map Prod.fst).Nodup

namespace ImportRecord

def keys (record : ImportRecord Value) : List Text := record.entries.map Prod.fst

theorem create_spec (record : ImportRecord Value) :
    match ImportResolver.create record.entries with
    | .ok resolver => Acceptable record.keys ∧ Built record.entries resolver
    | .error _ => ¬Acceptable record.keys := by
  obtain ⟨entries, distinct⟩ := record
  unfold keys
  simp only
  induction entries using List.reverseRecOn with
  | nil =>
      refine ⟨⟨nofun, nofun⟩, rfl, fun track => ?_, fun base => ?_⟩
      · rw [holder, if_neg fun both => nomatch both.1]
        rfl
      · rw [if_neg fun both => nomatch both.1]
        rfl
  | append_singleton before entry ih =>
      rw [List.map_append, List.map_singleton, List.nodup_append] at distinct
      have fresh : entry.1 ∉ before.map Prod.fst := fun member =>
        distinct.2.2 _ member _ (List.mem_singleton_self _) rfl
      have previous := ih distinct.1
      unfold ImportResolver.create at previous ⊢
      rw [List.foldlM_append]
      cases made : before.foldlM ImportResolver.add (ImportResolver.empty : ImportResolver Value) with
      | error failure =>
          rw [made] at previous
          intro acceptable
          rw [List.map_append, List.map_singleton] at acceptable
          exact previous (acceptable_of_append acceptable)
      | ok resolver =>
          rw [made] at previous
          obtain ⟨acceptable, built⟩ := previous
          have registers := add_registers built acceptable fresh
          simp only [bind, Except.bind, List.foldlM_cons, List.foldlM_nil, List.map_append,
            List.map_singleton]
          cases added : resolver.add entry with
          | error failure =>
              rw [added] at registers
              exact registers
          | ok next =>
              rw [added] at registers
              exact registers

theorem create_ok (record : ImportRecord Value) (acceptable : Acceptable record.keys) :
    ∃ resolver, ImportResolver.create record.entries = .ok resolver ∧
      Built record.entries resolver := by
  have spec := record.create_spec
  cases made : ImportResolver.create record.entries with
  | error failure =>
      rw [made] at spec
      exact absurd acceptable spec
  | ok resolver =>
      rw [made] at spec
      exact ⟨resolver, rfl, spec.2⟩

theorem create_error (record : ImportRecord Value) (refused : ¬Acceptable record.keys) :
    ∃ failure, ImportResolver.create record.entries = .error failure := by
  have spec := record.create_spec
  cases made : ImportResolver.create record.entries with
  | error failure => exact ⟨failure, rfl⟩
  | ok resolver =>
      rw [made] at spec
      exact absurd spec.1 refused

end ImportRecord

end Polyengine.Embedder.Version
