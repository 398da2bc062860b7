import Mathlib.Data.List.Nodup
import Mathlib.Tactic.Choose
import Polyengine.Cabi.LiftSafety
import Polyengine.Embedder.ComponentValues
import Polyengine.Library.Fallible

/-!
# The value mapping of regular types

Where a type is regular, host values are the image of its internal values, and preparing a host value
gives an internal value of the type or refuses it.
-/

set_option autoImplicit false

namespace Polyengine.Embedder

open Polyengine.Cabi Polyengine.Library Fallible

/-! ## Properties -/

section

theorem lookup_of_mem {Value : Type} {entries : List (String × Value)} {key : String}
    {value : Value} (unique : (entries.map Prod.fst).Nodup) (member : (key, value) ∈ entries) :
    entries.lookup key = some value := by
  induction entries with
  | nil => cases member
  | cons entry entries ih =>
      rw [List.map_cons, List.nodup_cons] at unique
      cases member with
      | head => simp
      | tail _ member =>
          have other : key ≠ entry.1 := by
            rintro rfl
            exact unique.1 (List.mem_map.mpr ⟨_, member, rfl⟩)
          rw [List.lookup_cons, beq_eq_false_iff_ne.mpr other]
          exact ih unique.2 member

theorem lookup_of_not_mem {Value : Type} {entries : List (String × Value)} {key : String}
    (absent : key ∉ entries.map Prod.fst) : entries.lookup key = none := by
  rw [List.lookup_eq_none_iff]
  intro entry member
  rw [bne_iff_ne]
  rintro rfl
  exact absent (List.mem_map.mpr ⟨_, member, rfl⟩)

end

/-! ## Primitive values -/

theorem int_ok {v : Js} {lo hi : Int} {w : ComponentValue} (ran : int v lo hi = .ok w) :
    ∃ d n, v = .number d ∧ w = .number d ∧ d.integer? = some n ∧ lo ≤ n ∧ n ≤ hi := by
  cases v with
  | number d =>
      simp only [int] at ran
      cases integer : d.integer? with
      | none =>
          rw [integer] at ran
          cases ran
      | some n =>
          rw [integer] at ran
          by_cases inside : lo ≤ n ∧ n ≤ hi
          · simp only [if_pos inside] at ran
            cases ran
            exact ⟨d, n, rfl, rfl, integer, inside⟩
          · simp only [if_neg inside] at ran
            cases ran
  | _ => cases ran

theorem big_ok {v : Js} {lo hi : Int} {w : ComponentValue} (ran : big v lo hi = .ok w) :
    ∃ n, v = .bigint n ∧ w = .bigint n ∧ lo ≤ n ∧ n ≤ hi := by
  cases v with
  | bigint n =>
      simp only [big] at ran
      by_cases inside : lo ≤ n ∧ n ≤ hi
      · simp only [if_pos inside] at ran
        cases ran
        exact ⟨n, rfl, rfl, inside⟩
      · simp only [if_neg inside] at ran
        cases ran
  | _ => cases ran

theorem int_number {d : Double} {n lo hi : Int} (integer : d.integer? = some n) (low : lo ≤ n)
    (high : n ≤ hi) : int (.number d) lo hi = .ok (.number d) := by
  simp only [int, integer, if_pos (And.intro low high)]
  rfl

theorem preparePrim_same {kind : PrimKind} {v : ComponentValue} (typed : PrimType kind v) :
    preparePrim kind v.same = .ok v := by
  cases kind with
  | bool =>
      obtain ⟨b, rfl⟩ := typed
      rfl
  | f32 | f64 =>
      obtain ⟨d, rfl⟩ := typed
      rfl
  | string =>
      obtain ⟨units, rfl⟩ := typed
      rfl
  | char =>
      obtain ⟨units, c, rfl, scanned⟩ := typed
      simp only [ComponentValue.same, preparePrim, scanned]
      rfl
  | u64 | s64 =>
      obtain ⟨n, rfl, lo, hi, range, low, high⟩ := typed
      cases range
      simp only [ComponentValue.same, preparePrim, big, if_pos (And.intro low high)]
      rfl
  | u8 | u16 | u32 | s8 | s16 | s32 =>
      obtain ⟨d, n, rfl, integer, lo, hi, range, low, high⟩ := typed
      cases range
      exact int_number integer low high

theorem preparePrim_typed {kind : PrimKind} {x : Js} {w : ComponentValue}
    (ran : preparePrim kind x = .ok w) : PrimType kind w := by
  cases kind with
  | bool =>
      cases ran
      exact ⟨_, rfl⟩
  | f32 | f64 =>
      cases x with
      | number d =>
          cases ran
          exact ⟨d, rfl⟩
      | _ => cases ran
  | string =>
      cases x with
      | string units =>
          cases ran
          exact ⟨units, rfl⟩
      | _ => cases ran
  | char =>
      cases x with
      | string units =>
          simp only [preparePrim] at ran
          cases scanned : Utf16.scan units with
          | nil =>
              rw [scanned] at ran
              cases ran
          | cons first rest =>
              rw [scanned] at ran
              cases first with
              | none => cases ran
              | some c =>
                  cases rest with
                  | nil =>
                      cases ran
                      exact ⟨units, c, rfl, scanned⟩
                  | cons _ _ => cases ran
      | _ => cases ran
  | u64 | s64 =>
      obtain ⟨n, _, rfl, low, high⟩ := big_ok ran
      exact ⟨n, rfl, _, _, rfl, low, high⟩
  | u8 | u16 | u32 | s8 | s16 | s32 =>
      obtain ⟨d, n, _, rfl, integer, low, high⟩ := int_ok ran
      exact ⟨d, n, rfl, integer, _, _, rfl, low, high⟩

/-! ## Round trips -/

theorem primKind_u8_iff (element : ValType) :
    (despecialize element).primKind = some .u8 ↔ element = .prim .u8 := by
  cases element <;> simp [despecialize, DespecializedValType.primKind]

/-- The value reaches the host and comes back. -/
def Returns (engine : Engine) (type : ValType) (inOption : Bool) (v : ComponentValue) : Prop :=
  ∃ x, toHost engine type inOption v = .ok x ∧ prepareHostValue engine type inOption x = .ok v

section

variable {engine : Engine} {inOption : Bool}

theorem prim_returns {kind : PrimKind} {v : ComponentValue} (typed : PrimType kind v) :
    Returns engine (.prim kind) inOption v :=
  ⟨v.same, by simp only [toHost]; rfl, by
    simp only [prepareHostValue]
    exact preparePrim_same typed⟩

theorem bytes_returns (length : Option Nat) (data : List UInt8) :
    Returns engine (.list (.prim .u8) length) inOption (.bytes data) := by
  have isBytes := (primKind_u8_iff (.prim .u8)).mpr rfl
  refine ⟨.bytes data, ?_, ?_⟩
  · simp only [toHost, if_pos isBytes]
    rfl
  · simp only [prepareHostValue, if_pos isBytes]
    rfl

theorem array_returns {element : ValType} {length : Option Nat} {elements : List ComponentValue}
    (notBytes : element ≠ .prim .u8)
    (returns : ∀ v ∈ elements, Returns engine element false v) :
    Returns engine (.list element length) inOption (.array elements) := by
  choose! host hosted prepared using returns
  have notU8 := (primKind_u8_iff element).not.mpr notBytes
  refine ⟨.array (elements.map host), ?_, ?_⟩
  · simp only [toHost, if_neg notU8, mapM_ok hosted]
    rfl
  · simp only [prepareHostValue, if_neg notU8, mapM_map_ok_iff.mpr prepared, List.map_id']
    rfl

theorem map_returns {key value : ValType} {entries : List (ComponentValue × ComponentValue)}
    (keys : ∀ entry ∈ entries, Returns engine key false entry.1)
    (values : ∀ entry ∈ entries, Returns engine value false entry.2) :
    Returns engine (.map key value) inOption
      (.array (entries.map fun (k, x) => .record [("0", k), ("1", x)])) := by
  choose! hostKey hostedKey preparedKey using keys
  choose! hostValue hostedValue preparedValue using values
  refine ⟨.array (entries.map fun entry => .array [hostKey entry, hostValue entry]), ?_, ?_⟩
  · have hosted : ∀ entry ∈ entries,
        entryToHost (toHost engine key false) (toHost engine value false)
          (.record [("0", entry.1), ("1", entry.2)]) =
            .ok (.array [hostKey entry, hostValue entry]) := by
      intro entry member
      change (toHost engine key false entry.1 >>= _) = _
      rw [hostedKey entry member]
      change (toHost engine value false entry.2 >>= _) = _
      rw [hostedValue entry member]
      rfl
    simp only [toHost, mapM_map_ok_iff.mpr hosted]
    rfl
  · have prepared : ∀ entry ∈ entries,
        prepareEntry (prepareHostValue engine key false) (prepareHostValue engine value false)
          (.array [hostKey entry, hostValue entry]) =
            .ok (.record [("0", entry.1), ("1", entry.2)]) := by
      intro entry member
      simp only [prepareEntry, preparedKey entry member, preparedValue entry member]
      rfl
    simp only [prepareHostValue, mapM_map_ok_iff.mpr prepared]
    rfl

/-! The variant family. -/

theorem unitsOf_injective {first second : String} (same : unitsOf first = unitsOf second) :
    first = second := by
  have decoded := congrArg Utf16.decode? same
  simp only [unitsOf, Utf16.decode?_encode, Option.some.injEq] at decoded
  exact String.toList_injective decoded

@[simp] theorem unitsOf_inj {first second : String} :
    unitsOf first = unitsOf second ↔ first = second :=
  ⟨unitsOf_injective, congrArg unitsOf⟩

theorem hostTag_hostCase (kind : String) (value : Option Js) :
    hostTag engine (hostCase kind value) = .ok (unitsOf kind, value) := by
  cases value with
  | none => rfl
  | some value => rfl

theorem payloadToHost_none (kind : String) (value : ComponentValue) :
    payloadToHost engine kind none value = .ok (hostCase kind none) := by
  simp only [payloadToHost]
  rfl

theorem payloadToHost_some {kind : String} {type : ValType} {value : ComponentValue} {x : Js}
    (hosted : toHost engine type false value = .ok x) :
    payloadToHost engine kind (some type) value = .ok (hostCase kind (some x)) := by
  simp only [payloadToHost, hosted]
  rfl

theorem preparePayload_none (kind : String) (value : Option Js) :
    preparePayload engine kind none value = .ok (.variant kind .null) := by
  simp only [preparePayload]
  rfl

theorem preparePayload_some {kind : String} {type : ValType} {value : ComponentValue} {x : Js}
    (prepared : prepareHostValue engine type false x = .ok value) :
    preparePayload engine kind (some type) (some x) = .ok (.variant kind value) := by
  simp only [preparePayload, prepared]
  rfl

theorem caseToHost_of_mem {cases : List CaseType} (unique : (cases.map CaseType.label).Nodup)
    {label : String} {type : Option ValType} (member : ⟨label, type⟩ ∈ cases)
    (value : ComponentValue) :
    caseToHost engine cases label value = payloadToHost engine label type value := by
  induction cases with
  | nil => cases member
  | cons first rest ih =>
      rw [List.map_cons, List.nodup_cons] at unique
      cases member with
      | head => simp only [caseToHost, if_true]
      | tail _ member =>
          have other : first.label ≠ label := by
            rintro rfl
            exact unique.1 (List.mem_map.mpr ⟨_, member, rfl⟩)
          obtain ⟨firstLabel, firstType⟩ := first
          simp only [caseToHost, if_neg other]
          exact ih unique.2 member

theorem prepareCase_of_mem {cases : List CaseType} (unique : (cases.map CaseType.label).Nodup)
    {label : String} {type : Option ValType} (member : ⟨label, type⟩ ∈ cases) (value : Option Js) :
    prepareCase engine cases (unitsOf label) value = preparePayload engine label type value := by
  induction cases with
  | nil => cases member
  | cons first rest ih =>
      rw [List.map_cons, List.nodup_cons] at unique
      cases member with
      | head => simp only [prepareCase, if_true]
      | tail _ member =>
          have other : first.label ≠ label := by
            rintro rfl
            exact unique.1 (List.mem_map.mpr ⟨_, member, rfl⟩)
          obtain ⟨firstLabel, firstType⟩ := first
          simp only [prepareCase, unitsOf_inj, if_neg other]
          exact ih unique.2 member

theorem case_returns {cases : List CaseType} (unique : (cases.map CaseType.label).Nodup)
    {label : String} {type : ValType} (member : ⟨label, some type⟩ ∈ cases)
    {value : ComponentValue} (returns : Returns engine type false value) :
    Returns engine (.variant cases) inOption (.variant label value) := by
  obtain ⟨x, hosted, prepared⟩ := returns
  refine ⟨hostCase label (some x), ?_, ?_⟩
  · simp only [toHost, internalTag]
    exact (caseToHost_of_mem unique member value).trans (payloadToHost_some hosted)
  · simp only [prepareHostValue, hostTag_hostCase]
    exact (prepareCase_of_mem unique member (some x)).trans (preparePayload_some prepared)

theorem emptyCase_returns {cases : List CaseType} (unique : (cases.map CaseType.label).Nodup)
    {label : String} (member : ⟨label, none⟩ ∈ cases) :
    Returns engine (.variant cases) inOption (.variant label .null) := by
  refine ⟨hostCase label none, ?_, ?_⟩
  · simp only [toHost, internalTag]
    exact (caseToHost_of_mem unique member .null).trans (payloadToHost_none label .null)
  · simp only [prepareHostValue, hostTag_hostCase]
    exact (prepareCase_of_mem unique member none).trans (preparePayload_none label none)

theorem enum_returns {labels : List String} {label : String} (member : label ∈ labels) :
    Returns engine (.enum labels) inOption (.variant label .null) := by
  refine ⟨.string (unitsOf label), ?_, ?_⟩
  · simp only [toHost, internalTag]
    rfl
  · cases found : labels.find? fun other => unitsOf other = unitsOf label with
    | none =>
        have missed := List.find?_eq_none.mp found label member
        simp at missed
    | some other =>
        have same : other = label := by
          have matched := List.find?_some found
          simpa using matched
        simp only [prepareHostValue, found, same]
        rfl

theorem side_returns {ok error : Option ValType} {kind : String} {type : ValType}
    (member : (kind, some type) ∈ [("ok", ok), ("error", error)]) {value : ComponentValue}
    (returns : Returns engine type false value) :
    Returns engine (.result ok error) inOption (.variant kind value) := by
  obtain ⟨x, hosted, prepared⟩ := returns
  simp only [List.mem_cons, List.not_mem_nil, or_false, Prod.mk.injEq] at member
  rcases member with ⟨rfl, rfl⟩ | ⟨rfl, rfl⟩
  · refine ⟨hostCase "ok" (some x), ?_, ?_⟩
    · simp only [toHost, internalTag]
      exact payloadToHost_some hosted
    · simp only [prepareHostValue, hostTag_hostCase]
      exact preparePayload_some prepared
  · refine ⟨hostCase "err" (some x), ?_, ?_⟩
    · simp only [toHost, internalTag]
      exact payloadToHost_some hosted
    · simp only [prepareHostValue, hostTag_hostCase]
      exact preparePayload_some prepared

theorem emptySide_returns {ok error : Option ValType} {kind : String}
    (member : (kind, none) ∈ [("ok", ok), ("error", error)]) :
    Returns engine (.result ok error) inOption (.variant kind .null) := by
  simp only [List.mem_cons, List.not_mem_nil, or_false, Prod.mk.injEq] at member
  rcases member with ⟨rfl, rfl⟩ | ⟨rfl, rfl⟩
  · refine ⟨hostCase "ok" none, ?_, ?_⟩
    · simp only [toHost, internalTag]
      exact @payloadToHost_none engine "ok" .null
    · simp only [prepareHostValue, hostTag_hostCase]
      exact @preparePayload_none engine "ok" none
  · refine ⟨hostCase "err" none, ?_, ?_⟩
    · simp only [toHost, internalTag]
      exact @payloadToHost_none engine "err" .null
    · simp only [prepareHostValue, hostTag_hostCase]
      exact @preparePayload_none engine "error" none

/-! Options. -/

theorem hostCase_ne_undefined (kind : String) (value : Option Js) :
    hostCase kind value ≠ .undefined := by
  cases value <;> exact Js.noConfusion

theorem payloadToHost_ne_undefined {kind : String} {type : Option ValType} {value : ComponentValue}
    {x : Js} (hosted : payloadToHost engine kind type value = .ok x) : x ≠ .undefined := by
  cases type with
  | none =>
      simp only [payloadToHost] at hosted
      cases hosted
      exact hostCase_ne_undefined kind none
  | some type =>
      simp only [payloadToHost] at hosted
      obtain ⟨payload, _, hosted⟩ := bind_ok hosted
      cases hosted
      exact hostCase_ne_undefined kind (some payload)

theorem caseToHost_ne_undefined {cases : List CaseType} {kind : String} {value : ComponentValue}
    {x : Js} (hosted : caseToHost engine cases kind value = .ok x) : x ≠ .undefined := by
  induction cases with
  | nil =>
      simp only [caseToHost] at hosted
      cases hosted
  | cons first rest ih =>
      obtain ⟨label, type⟩ := first
      simp only [caseToHost] at hosted
      by_cases same : label = kind
      · rw [if_pos same] at hosted
        exact payloadToHost_ne_undefined hosted
      · rw [if_neg same] at hosted
        exact ih hosted

theorem toHost_ne_undefined {type : ValType} {v : ComponentValue} {x : Js} (typed : HasType type v)
    (hosted : toHost engine type true v = .ok x) : x ≠ .undefined := by
  cases typed with
  | @prim kind _ typed =>
      simp only [toHost] at hosted
      cases hosted
      cases kind with
      | bool | f32 | f64 | string =>
          obtain ⟨_, rfl⟩ := typed
          exact Js.noConfusion
      | char =>
          obtain ⟨_, _, rfl, _⟩ := typed
          exact Js.noConfusion
      | u64 | s64 =>
          obtain ⟨_, rfl, _⟩ := typed
          exact Js.noConfusion
      | u8 | u16 | u32 | s8 | s16 | s32 =>
          obtain ⟨_, _, rfl, _⟩ := typed
          exact Js.noConfusion
  | bytes _ =>
      simp only [toHost, if_pos ((primKind_u8_iff _).mpr rfl)] at hosted
      cases hosted
      exact Js.noConfusion
  | array notBytes _ _ =>
      simp only [toHost, if_neg ((primKind_u8_iff _).not.mpr notBytes)] at hosted
      obtain ⟨_, _, hosted⟩ := bind_ok hosted
      cases hosted
      exact Js.noConfusion
  | record pairs _ =>
      simp only [toHost] at hosted
      obtain ⟨_, _, hosted⟩ := bind_ok hosted
      obtain ⟨_, _, hosted⟩ := bind_ok hosted
      cases hosted
      exact Js.noConfusion
  | tuple pairs _ =>
      simp only [toHost] at hosted
      obtain ⟨_, _, hosted⟩ := bind_ok hosted
      cases hosted
      exact Js.noConfusion
  | payload _ _ | noPayload _ =>
      simp only [toHost, internalTag] at hosted
      exact caseToHost_ne_undefined hosted
  | enum _ =>
      simp only [toHost, internalTag] at hosted
      cases hosted
      exact Js.noConfusion
  | none =>
      simp only [toHost, internalTag] at hosted
      cases hosted
      exact hostCase_ne_undefined "none" none
  | some _ =>
      simp only [toHost, internalTag] at hosted
      obtain ⟨_, same, hosted⟩ := bind_ok hosted
      cases same
      have isSome : ¬("some" = "none") := by decide
      rw [if_neg isSome] at hosted
      obtain ⟨payload, _, hosted⟩ := bind_ok hosted
      cases hosted
      exact hostCase_ne_undefined "some" (some payload)
  | side _ _ | emptySide _ =>
      simp only [toHost, internalTag] at hosted
      obtain ⟨_, same, hosted⟩ := bind_ok hosted
      cases same
      split at hosted
      · exact payloadToHost_ne_undefined hosted
      · exact payloadToHost_ne_undefined hosted
  | flags pairs =>
      simp only [toHost] at hosted
      obtain ⟨_, _, hosted⟩ := bind_ok hosted
      cases hosted
      exact Js.noConfusion
  | map _ _ =>
      simp only [toHost] at hosted
      obtain ⟨_, _, hosted⟩ := bind_ok hosted
      cases hosted
      exact Js.noConfusion

theorem none_returns (type : ValType) :
    Returns engine (.option type) false (.variant "none" .null) :=
  ⟨.undefined, by simp only [toHost, internalTag]; rfl, by simp only [prepareHostValue]; rfl⟩

theorem prepareOption_there (type : ValType) {x : Js} (isThere : x ≠ .undefined) :
    prepareHostValue engine (.option type) false x =
      prepareHostValue engine type true x >>= fun payload =>
        pure (ComponentValue.variant "some" payload) := by
  cases x with
  | undefined => exact absurd rfl isThere
  | _ => simp only [prepareHostValue]

theorem some_returns {type : ValType} {value : ComponentValue} (typed : HasType type value)
    (returns : Returns engine type true value) :
    Returns engine (.option type) false (.variant "some" value) := by
  obtain ⟨x, hosted, prepared⟩ := returns
  have isThere : x ≠ .undefined := toHost_ne_undefined typed hosted
  refine ⟨x, ?_, ?_⟩
  · simp only [toHost, internalTag]
    change (toHost engine type true value >>= _) = _
    rw [hosted]
    rfl
  · rw [prepareOption_there type isThere, prepared]
    rfl

/-! Flags and tuples. -/

theorem toString_injective : Function.Injective (fun index : Nat => toString index) := by
  intro first second same
  have digits : Nat.toDigits 10 first = Nat.toDigits 10 second := by
    rw [← Nat.toList_repr, ← Nat.toList_repr]
    exact congrArg String.toList same
  have numbers := congrArg (Nat.ofDigitChars 10 · 0) digits
  simpa only [Nat.ofDigitChars_ten_toDigits] using numbers

theorem checkNoCollisions_ok {labels : List String} (unique : (labels.map camelCase).Nodup) :
    checkNoCollisions labels = .ok () := by
  rw [checkNoCollisions, if_pos unique]
  rfl

theorem flags_returns (pairs : List (String × Bool)) (labels : (pairs.map Prod.fst).Nodup)
    (names : ((pairs.map Prod.fst).map camelCase).Nodup) :
    Returns engine (.flags (pairs.map Prod.fst)) inOption
      (.record (pairs.map fun (label, b) => (label, .bool b))) := by
  have field : ∀ pair ∈ pairs,
      (ComponentValue.record (pairs.map fun (label, b) => (label, .bool b))).field pair.1 =
        .ok (.bool pair.2) := by
    intro pair member
    have found : (pairs.map fun (label, b) => (label, ComponentValue.bool b)).lookup pair.1 =
        some (.bool pair.2) := by
      apply lookup_of_mem
      · rw [List.map_map]
        exact labels
      · exact List.mem_map.mpr ⟨pair, member, rfl⟩
    simp only [ComponentValue.field, found]
    rfl
  have hosted : (pairs.map Prod.fst).map
      (flagToHost (.record (pairs.map fun (label, b) => (label, .bool b)))) =
        pairs.map fun (label, b) => (camelCase label, .bool b) := by
    rw [List.map_map]
    apply List.map_congr_left
    intro pair member
    simp only [Function.comp, flagToHost, field pair member]
    rfl
  refine ⟨.object (pairs.map fun (label, b) => (camelCase label, .bool b)), ?_, ?_⟩
  · simp only [toHost, checkNoCollisions_ok names, hosted]
    rfl
  · have prepared : ∀ pair ∈ pairs,
        engine.get (.object (pairs.map fun (label, b) => (camelCase label, .bool b)))
          (camelCase pair.1) = some (.bool pair.2) := by
      intro pair member
      have found : (pairs.map fun (label, b) => (camelCase label, Js.bool b)).lookup
          (camelCase pair.1) = some (.bool pair.2) := by
        apply lookup_of_mem
        · rw [List.map_map] at names ⊢
          exact names
        · exact List.mem_map.mpr ⟨pair, member, rfl⟩
      simp only [Engine.get, found]
    simp only [prepareHostValue, Js.isObject, if_true, checkNoCollisions_ok names]
    refine congrArg (fun properties => Except.ok (ComponentValue.record properties)) ?_
    rw [List.map_map]
    apply List.map_congr_left
    intro pair member
    simp only [Function.comp, prepared pair member, Option.getD_some, Js.truthy]

theorem elementsToHost_ok {v : ComponentValue} {host : ValType × ComponentValue → Js} :
    ∀ {pairs : List (ValType × ComponentValue)} {first : Nat},
      (∀ entry ∈ pairs.zipIdx first, v.field (toString entry.2) = .ok entry.1.2 ∧
        toHost engine entry.1.1 false entry.1.2 = .ok (host entry.1)) →
      elementsToHost engine first (pairs.map Prod.fst) v = .ok (pairs.map host) := by
  intro pairs
  induction pairs with
  | nil =>
      intro first _
      simp only [List.map_nil, elementsToHost]
      rfl
  | cons pair pairs ih =>
      intro first holds
      rw [List.zipIdx_cons] at holds
      obtain ⟨found, hosted⟩ := holds _ List.mem_cons_self
      have rest := ih fun entry member => holds entry (List.mem_cons_of_mem _ member)
      simp only [List.map_cons, elementsToHost, found, rest]
      change (toHost engine pair.1 false pair.2 >>= _) = _
      rw [hosted]
      rfl

theorem prepareElements_ok {host : ValType × ComponentValue → Js} :
    ∀ {pairs : List (ValType × ComponentValue)} {first : Nat},
      (∀ pair ∈ pairs, prepareHostValue engine pair.1 false (host pair) = .ok pair.2) →
      prepareElements engine first (pairs.map Prod.fst) (pairs.map host) =
        .ok ((pairs.zipIdx first).map fun (pair, index) => (toString index, pair.2)) := by
  intro pairs
  induction pairs with
  | nil =>
      intro first _
      simp only [List.map_nil, prepareElements]
      rfl
  | cons pair pairs ih =>
      intro first holds
      have rest := @ih (first + 1) fun other member => holds other (List.mem_cons_of_mem _ member)
      simp only [List.map_cons, prepareElements, holds pair List.mem_cons_self, rest,
        List.zipIdx_cons]
      rfl

theorem tuple_field {pairs : List (ValType × ComponentValue)}
    {entry : (ValType × ComponentValue) × Nat} (member : entry ∈ pairs.zipIdx) :
    (ComponentValue.record (pairs.zipIdx.map fun (pair, index) => (toString index, pair.2))).field
      (toString entry.2) = .ok entry.1.2 := by
  have found : (pairs.zipIdx.map fun (pair, index) => (toString index, pair.2)).lookup
      (toString entry.2) = some entry.1.2 := by
    apply lookup_of_mem
    · have names : (pairs.zipIdx.map fun (pair, index) => (toString index, pair.2)).map Prod.fst =
          (List.range' 0 pairs.length).map toString := by
        rw [← List.zipIdx_map_snd, List.map_map, List.map_map]
        rfl
      rw [names]
      exact List.Nodup.map toString_injective List.nodup_range'
    · exact List.mem_map.mpr ⟨entry, member, rfl⟩
  simp only [ComponentValue.field, found]
  rfl

theorem tuple_returns (pairs : List (ValType × ComponentValue))
    (returns : ∀ pair ∈ pairs, Returns engine pair.1 false pair.2) :
    Returns engine (.tuple (pairs.map Prod.fst)) inOption
      (.record (pairs.zipIdx.map fun (pair, index) => (toString index, pair.2))) := by
  choose! host hosted prepared using returns
  refine ⟨.array (pairs.map host), ?_, ?_⟩
  · simp only [toHost]
    rw [@elementsToHost_ok _ _ host]
    · rfl
    · intro entry member
      exact ⟨tuple_field member, hosted _ (List.fst_mem_of_mem_zipIdx member)⟩
  · simp only [prepareHostValue, List.length_map, if_true, prepareElements_ok prepared]
    rfl

/-! Records. -/

def hostProperty (host : FieldType × ComponentValue → Js) (pair : FieldType × ComponentValue) :
    Option (String × Js) :=
  if isOption pair.1.type ∧ pair.2.isNone then none else some (camelCase pair.1.label, host pair)

def Omitted (pair : FieldType × ComponentValue) : Prop :=
  isOption pair.1.type = true ∧ pair.2.isNone = true

theorem hostProperty_omitted (host : FieldType × ComponentValue → Js)
    {pair : FieldType × ComponentValue} (omitted : Omitted pair) : hostProperty host pair = none :=
  if_pos omitted

theorem hostProperty_there (host : FieldType × ComponentValue → Js)
    {pair : FieldType × ComponentValue} (there : ¬Omitted pair) :
    hostProperty host pair = some (camelCase pair.1.label, host pair) :=
  if_neg there

theorem fieldsToHost_ok {v : ComponentValue} {host : FieldType × ComponentValue → Js}
    {pairs : List (FieldType × ComponentValue)}
    (holds : ∀ pair ∈ pairs, v.field pair.1.label = .ok pair.2 ∧
      toHost engine pair.1.type false pair.2 = .ok (host pair)) :
    fieldsToHost engine (pairs.map Prod.fst) v = .ok (pairs.filterMap (hostProperty host)) := by
  induction pairs with
  | nil =>
      simp only [List.map_nil, fieldsToHost]
      rfl
  | cons pair pairs ih =>
      obtain ⟨found, hosted⟩ := holds pair List.mem_cons_self
      have rest := ih fun other member => holds other (List.mem_cons_of_mem _ member)
      obtain ⟨⟨label, type⟩, value⟩ := pair
      simp only [List.map_cons, fieldsToHost, rest]
      change (ComponentValue.field v label >>= _) = _
      rw [found]
      change (toHost engine type false value >>= _) = _
      rw [hosted]
      by_cases omitted : Omitted (⟨label, type⟩, value)
      · rw [List.filterMap_cons_none (hostProperty_omitted host omitted)]
        exact congrArg Except.ok (if_pos omitted)
      · rw [List.filterMap_cons_some (hostProperty_there host omitted)]
        exact congrArg Except.ok (if_neg omitted)

theorem hostProperty_names (host : FieldType × ComponentValue → Js)
    (pairs : List (FieldType × ComponentValue)) :
    ((pairs.filterMap (hostProperty host)).map Prod.fst).Sublist
      (pairs.map fun pair => camelCase pair.1.label) := by
  induction pairs with
  | nil => exact .slnil
  | cons pair pairs ih =>
      by_cases omitted : Omitted pair
      · rw [List.filterMap_cons_none (hostProperty_omitted host omitted)]
        exact ih.cons _
      · rw [List.filterMap_cons_some (hostProperty_there host omitted)]
        exact ih.cons_cons _

theorem lookup_hostProperty {host : FieldType × ComponentValue → Js}
    {pairs : List (FieldType × ComponentValue)}
    (names : (pairs.map fun pair => camelCase pair.1.label).Nodup)
    {pair : FieldType × ComponentValue} (member : pair ∈ pairs) :
    (pairs.filterMap (hostProperty host)).lookup (camelCase pair.1.label) =
      (hostProperty host pair).map Prod.snd := by
  by_cases omitted : Omitted pair
  · rw [hostProperty_omitted host omitted]
    apply lookup_of_not_mem
    intro listed
    obtain ⟨property, listed, sameName⟩ := List.mem_map.mp listed
    obtain ⟨other, otherMember, there⟩ := List.mem_filterMap.mp listed
    by_cases otherOmitted : Omitted other
    · rw [hostProperty_omitted host otherOmitted] at there
      cases there
    · rw [hostProperty_there host otherOmitted] at there
      cases there
      have same : other = pair := List.inj_on_of_nodup_map names otherMember member sameName
      exact otherOmitted (same ▸ omitted)
  · have there := hostProperty_there host omitted
    rw [there]
    apply lookup_of_mem
    · exact names.sublist (hostProperty_names host pairs)
    · exact List.mem_filterMap.mpr ⟨pair, member, there⟩

/-- What a field of a record is prepared from. -/
def fieldSource (engine : Engine) (x : Js) (field : FieldType) : Except Failure Js :=
  match engine.get x (camelCase field.label) with
  | some value => pure value
  | none => if isOption field.type then pure .undefined else throw typeError

def prepareField (engine : Engine) (x : Js) (field : FieldType) :
    Except Failure (String × ComponentValue) := do
  let source ← fieldSource engine x field
  let value ← prepareHostValue engine field.type false source
  return (field.label, value)

theorem prepareFields_eq (fields : List FieldType) (x : Js) :
    prepareFields engine fields x = fields.mapM (prepareField engine x) := by
  induction fields with
  | nil =>
      simp only [prepareFields]
      rfl
  | cons field fields ih =>
      obtain ⟨label, type⟩ := field
      simp only [prepareFields, ih, List.mapM_cons, prepareField, fieldSource, bind_assoc, pure_bind]
      cases engine.get x (camelCase label) with
      | some source => rfl
      | none =>
          by_cases option : isOption type = true
          · simp only [if_pos option]
            rfl
          · simp only [if_neg option]

theorem isNone_typed {type : ValType} {value : ComponentValue} (typed : HasType type value)
    (option : isOption type = true) (isNone : value.isNone = true) :
    value = .variant "none" .null := by
  cases type with
  | option type =>
      cases typed with
      | none => rfl
      | some _ => cases isNone
  | _ => cases option

theorem record_field {pairs : List (FieldType × ComponentValue)}
    (labels : ((pairs.map Prod.fst).map FieldType.label).Nodup)
    {pair : FieldType × ComponentValue} (member : pair ∈ pairs) :
    (ComponentValue.record (pairs.map fun (field, value) => (field.label, value))).field
      pair.1.label = .ok pair.2 := by
  have found : (pairs.map fun (field, value) => (field.label, value)).lookup pair.1.label =
      some pair.2 := by
    apply lookup_of_mem
    · rw [List.map_map] at labels ⊢
      exact labels
    · exact List.mem_map.mpr ⟨pair, member, rfl⟩
  simp only [ComponentValue.field, found]
  rfl

theorem record_returns (pairs : List (FieldType × ComponentValue))
    (labels : ((pairs.map Prod.fst).map FieldType.label).Nodup)
    (names : ((pairs.map Prod.fst).map (camelCase ∘ FieldType.label)).Nodup)
    (own : ∀ pair ∈ pairs, isOption pair.1.type = true → camelCase pair.1.label ∉ objectPrototype)
    (typed : ∀ pair ∈ pairs, HasType pair.1.type pair.2)
    (returns : ∀ pair ∈ pairs, Returns engine pair.1.type false pair.2) :
    Returns engine (.record (pairs.map Prod.fst)) inOption
      (.record (pairs.map fun (field, value) => (field.label, value))) := by
  choose! host hosted prepared using returns
  rw [List.map_map] at names
  have noCollisions : checkNoCollisions ((pairs.map Prod.fst).map FieldType.label) = .ok () := by
    apply checkNoCollisions_ok
    rw [List.map_map, List.map_map]
    exact names
  refine ⟨.object (pairs.filterMap (hostProperty host)), ?_, ?_⟩
  · simp only [toHost, noCollisions,
      fieldsToHost_ok fun pair member => ⟨record_field labels member, hosted pair member⟩]
    rfl
  · have fields : (pairs.map Prod.fst).mapM
        (prepareField engine (.object (pairs.filterMap (hostProperty host)))) =
          .ok (pairs.map fun (field, value) => (field.label, value)) := by
      apply mapM_map_ok_iff.mpr
      intro pair member
      have found := @lookup_hostProperty host _ names _ member
      by_cases omitted : Omitted pair
      · have isNone := isNone_typed (typed pair member) omitted.1 omitted.2
        rw [hostProperty_omitted host omitted, Option.map_none] at found
        obtain ⟨⟨label, type⟩, value⟩ := pair
        cases type with
        | option type =>
            cases isNone
            simp only [prepareField, fieldSource, Engine.get, found,
              if_neg (own _ member omitted.1)]
            simp only [isOption, if_true, pure_bind, prepareHostValue]
            rfl
        | _ => cases omitted.1
      · rw [hostProperty_there host omitted, Option.map_some] at found
        simp only [prepareField, fieldSource, Engine.get, found, pure_bind, prepared pair member]
        rfl
    simp only [prepareHostValue, Js.isObject, if_true, noCollisions, prepareFields_eq, fields]
    rfl

theorem returns_of_regular (type : ValType) : ∀ inOption, Valid type inOption →
    Regular type inOption → ∀ v, HasType type v → Returns engine type inOption v := by
  induction type using child_induction with
  | step type ih =>
      intro inOption valid regular v typed
      have parts : ∀ part inPart, Child part inPart type → ∀ v, HasType part v →
          Returns engine part inPart v := by
        intro part inPart isChild
        exact ih part inPart isChild inPart (valid.child isChild) (regular.child isChild)
      have validHere := valid.here
      have regularHere := regular.here
      cases typed with
      | prim typed => exact prim_returns typed
      | bytes _ => exact bytes_returns _ _
      | array notBytes _ elements =>
          apply array_returns notBytes
          intro v member
          exact parts _ _ (.element _ _) v (elements v member)
      | record pairs fields =>
          obtain ⟨names, own⟩ := regularHere
          apply record_returns pairs validHere names
          · intro pair member
            exact own pair.1 (List.mem_map_of_mem member)
          · exact fields
          · intro pair member
            exact parts _ _ (.field (List.mem_map_of_mem member)) _ (fields pair member)
      | tuple pairs elements =>
          apply tuple_returns
          intro pair member
          exact parts _ _ (.tuple (List.mem_map_of_mem member)) _ (elements pair member)
      | payload member typed =>
          exact case_returns validHere.2 member (parts _ _ (.case member) _ typed)
      | noPayload member => exact emptyCase_returns validHere.2 member
      | enum member => exact enum_returns member
      | none =>
          cases regularHere
          exact none_returns _
      | some typed =>
          cases regularHere
          exact some_returns typed (parts _ _ (.option _) _ typed)
      | side member typed => exact side_returns member (parts _ _ (.side member) _ typed)
      | emptySide member => exact emptySide_returns member
      | flags pairs => exact flags_returns pairs validHere regularHere
      | map keys values =>
          apply map_returns
          · intro entry member
            exact parts _ _ (.key _ _) _ (keys entry member)
          · intro entry member
            exact parts _ _ (.value _ _) _ (values entry member)

end

end Polyengine.Embedder
