import Mathlib.Data.List.Lex
import Mathlib.Data.List.Sort
import Polyengine.Library.JsonText
import Polyengine.Library.Utf16

/-!
# Cache keys

The identity that a translation is stored under: the hash of the component, the hash of the
translator and the features, in any order. An entry is named by the hash of a canonical JSON text of
the key.
-/

set_option autoImplicit false

namespace Polyengine.Cache

open Polyengine.Library

structure CacheKey where
  componentSha256 : String
  translatorBuildHash : String
  features : List String
  deriving Repr, DecidableEq

/-- The code units by which a sort without a comparator orders strings. -/
def codeUnits (text : String) : List Nat := (Utf16.encode text.toList).map UInt16.toNat

/-- `[...features].sort()`. -/
def sorted (features : List String) : List String :=
  features.mergeSort fun first second => decide (codeUnits first ≤ codeUnits second)

/-- The name of a property and the colon after it. -/
def property (name : String) : List Char := JsonText.quote name ++ [':']

/-- `JSON.stringify` of the key with its features in order. -/
def canonical (key : CacheKey) : List Char :=
  '{' :: property "componentSha256" ++ JsonText.quote key.componentSha256 ++
    ',' :: property "translatorBuildHash" ++ JsonText.quote key.translatorBuildHash ++
    ',' :: property "features" ++ JsonText.array (sorted key.features) ++ ['}']

/-- `TextEncoder`'s encoding. -/
def encodeUtf8 (text : List Char) : List UInt8 := (String.ofList text).toByteArray.data.toList

/-- `keyHex`; `sha256Hex` is the digest of bytes, as a hexadecimal text. -/
def keyHex (sha256Hex : List UInt8 → String) (key : CacheKey) : String :=
  sha256Hex (encodeUtf8 (canonical key))

/-- The keys of one translation. -/
structure SameKey (first second : CacheKey) : Prop where
  component : first.componentSha256 = second.componentSha256
  translator : first.translatorBuildHash = second.translatorBuildHash
  features : first.features.Perm second.features

theorem codeUnits_inj {first second : String} (same : codeUnits first = codeUnits second) :
    first = second := by
  have units := List.map_injective_iff.mpr (fun _ _ => UInt16.toNat_inj.mp) same
  have chars := congrArg Utf16.scalars units
  rw [Utf16.scalars_encode, Utf16.scalars_encode] at chars
  exact String.toList_inj.mp chars

theorem sorted_eq_iff (first second : List String) :
    sorted first = sorted second ↔ first.Perm second := by
  have perm (features : List String) : (sorted features).Perm features := List.mergeSort_perm _ _
  have ordered (features : List String) :
      (sorted features).Pairwise fun a b => codeUnits a ≤ codeUnits b := by
    have pairwise := @List.pairwise_mergeSort _
      (fun first second => decide (codeUnits first ≤ codeUnits second))
      (fun a b c below above => decide_eq_true
        (le_trans (of_decide_eq_true below) (of_decide_eq_true above)))
      (fun a b => by simpa using le_total (codeUnits a) (codeUnits b)) features
    exact pairwise.imp of_decide_eq_true
  constructor
  · intro same
    exact (perm first).symm.trans (same ▸ perm second)
  · intro same
    have sortedPerm := (perm first).trans (same.trans (perm second).symm)
    exact List.Perm.eq_of_pairwise
      (fun a b _ _ below above => codeUnits_inj (le_antisymm below above))
      (ordered first) (ordered second) sortedPerm

theorem canonical_eq_iff (first second : CacheKey) :
    canonical first = canonical second ↔ SameKey first second := by
  constructor
  · intro same
    unfold canonical at same
    generalize property "componentSha256" = component at same
    generalize property "translatorBuildHash" = translator at same
    generalize property "features" = features at same
    simp only [List.cons_append, List.append_assoc, List.cons.injEq, true_and,
      List.append_cancel_left_eq] at same
    obtain ⟨components, rest⟩ := JsonText.quote_inj same
    simp only [List.cons.injEq, true_and, List.append_cancel_left_eq] at rest
    obtain ⟨translators, last⟩ := JsonText.quote_inj rest
    simp only [List.cons.injEq, true_and, List.append_cancel_left_eq] at last
    obtain ⟨equal, _⟩ := JsonText.array_inj last
    exact ⟨components, translators, (sorted_eq_iff _ _).mp equal⟩
  · intro ⟨component, translator, features⟩
    unfold canonical
    rw [component, translator, (sorted_eq_iff _ _).mpr features]

theorem encodeUtf8_inj {first second : List Char} (same : encodeUtf8 first = encodeUtf8 second) :
    first = second := by
  unfold encodeUtf8 at same
  have bytes := ByteArray.ext (Array.toList_inj.mp same)
  exact String.ofList_injective (String.toByteArray_inj.mp bytes)

theorem keyHex_eq_iff {sha256Hex : List UInt8 → String} (collisionFree : sha256Hex.Injective)
    (first second : CacheKey) :
    keyHex sha256Hex first = keyHex sha256Hex second ↔ SameKey first second := by
  rw [← canonical_eq_iff]
  unfold keyHex
  generalize canonical first = text
  generalize canonical second = other
  constructor
  · intro same
    exact encodeUtf8_inj (collisionFree same)
  · intro same
    rw [same]

end Polyengine.Cache
