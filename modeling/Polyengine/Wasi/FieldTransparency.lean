import Mathlib.Algebra.Order.BigOperators.Group.List
import Polyengine.Cabi.StringProperties
import Polyengine.Library.Fallible
import Polyengine.Wasi.HttpFields

/-!
# The bytes of field values

Values pass through text codecs on the way out and on the way in. ASCII values keep their bytes; other
values are refused, or their bytes change.
-/

set_option autoImplicit false

namespace Polyengine.Wasi.HttpFields

open Polyengine.Cabi

/-! ## Accepted fields -/

def Accepted (entries : List (Name × List UInt8)) : Prop :=
  ∀ entry ∈ entries, isToken entry.1 = true ∧ validFieldValue entry.2 = true

namespace Fields

inductive Built (toLowerCase : Name → Name) : Fields → Prop where
  | new : Built toLowerCase Fields.new
  | fromList {entries : List (Name × List UInt8)} {fields : Fields} :
      Fields.fromList entries = .ok fields → Built toLowerCase fields
  | set {fields next : Fields} {name : Name} {value : List (List UInt8)} :
      Built toLowerCase fields → fields.set toLowerCase name value = .ok next →
      Built toLowerCase next
  | delete {fields next : Fields} {name : Name} :
      Built toLowerCase fields → fields.delete toLowerCase name = .ok next →
      Built toLowerCase next
  | getAndDelete {fields next : Fields} {name : Name} {values : List (List UInt8)} :
      Built toLowerCase fields → fields.getAndDelete toLowerCase name = .ok (values, next) →
      Built toLowerCase next
  | append {fields next : Fields} {name : Name} {value : List UInt8} :
      Built toLowerCase fields → fields.append name value = .ok next → Built toLowerCase next
  | clone {fields : Fields} : Built toLowerCase fields → Built toLowerCase fields.clone

theorem checkEntry_ok {name : Name} {value : List UInt8} :
    checkEntry name value = .ok () ↔ isToken name = true ∧ validFieldValue value = true := by
  unfold checkEntry
  cases isToken name <;> cases validFieldValue value <;> simp

theorem accepted_without {toLowerCase : Name → Name} {fields : Fields}
    (accepted : Accepted fields.entries) (name : Name) :
    Accepted (fields.without toLowerCase name) :=
  fun entry member => accepted entry (List.mem_filter.mp member).1

theorem fromList_ok {entries : List (Name × List UInt8)} {fields : Fields}
    (made : fromList entries = .ok fields) : fields.entries = entries ∧ Accepted entries := by
  have checks : ∀ entries : List (Name × List UInt8),
      (entries.forM fun entry => checkEntry entry.1 entry.2) = .ok () → Accepted entries := by
    intro entries checked
    induction entries with
    | nil => exact List.forall_mem_nil _
    | cons entry rest ih =>
        unfold List.forM at checked
        cases first : checkEntry entry.1 entry.2 with
        | error failure =>
            simp only [first, bind, Except.bind] at checked
            cases checked
        | ok done =>
            simp only [first, bind, Except.bind] at checked
            intro other member
            obtain rfl | later := List.mem_cons.mp member
            · exact checkEntry_ok.mp first
            · exact ih checked other later
  obtain ⟨_, checked, ended⟩ := Library.Fallible.bind_ok made
  cases ended
  exact ⟨rfl, checks entries checked⟩

theorem Built.accepted {toLowerCase : Name → Name} {fields : Fields}
    (built : Built toLowerCase fields) : Accepted fields.entries := by
  have mutableOk : ∀ fields : Fields, fields.requireMutableFields = .ok () ∨
      fields.requireMutableFields = .error .immutable := by
    intro fields
    unfold requireMutableFields
    cases fields.mutable
    · exact .inr rfl
    · exact .inl rfl
  induction built with
  | new => exact nofun
  | fromList made =>
      obtain ⟨same, accepted⟩ := fromList_ok made
      rw [same]
      exact accepted
  | @set fields next name value _ made ih =>
      unfold Fields.set at made
      obtain isMutable | isImmutable := mutableOk fields
      · simp only [isMutable, bind, Except.bind] at made
        split at made
        · cases made
        case isFalse isName =>
          split at made
          · cases made
          case isFalse isValue =>
            cases made
            intro entry member
            obtain old | new := List.mem_append.mp member
            · exact accepted_without ih name entry old
            · obtain ⟨one, listed, rfl⟩ := List.mem_map.mp new
              rw [Bool.not_eq_false] at isName isValue
              exact ⟨isName, List.all_eq_true.mp isValue one listed⟩
      · simp only [isImmutable, bind, Except.bind] at made
        cases made
  | @delete fields next name _ made ih =>
      unfold Fields.delete at made
      obtain isMutable | isImmutable := mutableOk fields
      · simp only [isMutable, bind, Except.bind] at made
        cases made
        exact accepted_without ih name
      · simp only [isImmutable, bind, Except.bind] at made
        cases made
  | @getAndDelete fields next name values _ made ih =>
      unfold Fields.getAndDelete at made
      obtain isMutable | isImmutable := mutableOk fields
      · simp only [isMutable, bind, Except.bind] at made
        cases made
        exact accepted_without ih name
      · simp only [isImmutable, bind, Except.bind] at made
        cases made
  | @append fields next name value _ made ih =>
      unfold Fields.append at made
      obtain isMutable | isImmutable := mutableOk fields
      · simp only [isMutable, bind, Except.bind] at made
        cases checked : checkEntry name value with
        | error failure =>
            rw [checked] at made
            cases made
        | ok done =>
            rw [checked] at made
            cases made
            intro entry member
            obtain old | new := List.mem_append.mp member
            · exact ih entry old
            · cases List.mem_singleton.mp new
              exact checkEntry_ok.mp checked
      · simp only [isImmutable, bind, Except.bind] at made
        cases made
  | clone _ ih => exact ih

end Fields

/-! ## Decoding -/

def IsAscii (value : List UInt8) : Prop := ∀ b ∈ value, b < 0x80

/-- How many bytes are above ASCII. -/
def high (value : List UInt8) : Nat := value.countP fun b => 0x80 ≤ b

/-- Inside a sequence that encodes a code point above `0xff`. -/
def Large (state : DecoderState) : Prop :=
  state.upper ≤ 0xbf ∧
    ((state.needed = 1 ∧ 4 ≤ state.codePoint) ∨
      (state.needed = 2 ∧ (1 ≤ state.codePoint ∨ 0xa0 ≤ state.lower)) ∨
      (state.needed = 3 ∧ (1 ≤ state.codePoint ∨ 0x90 ≤ state.lower)))

instance (state : DecoderState) : Decidable (Large state) := inferInstanceAs (Decidable (_ ∧ _))

/-- After the first byte of a sequence that encodes a code point of Latin-1. -/
def Small (lead : UInt8) (state : DecoderState) : Prop :=
  (lead = 0xc2 ∧ state = ⟨1, 2, 0x80, 0xbf⟩) ∨ (lead = 0xc3 ∧ state = ⟨1, 3, 0x80, 0xbf⟩)

instance (lead : UInt8) (state : DecoderState) : Decidable (Small lead state) :=
  inferInstanceAs (Decidable (_ ∨ _))

theorem decodeLead_ascii {b : UInt8} (ascii : b < 0x80) : decodeLead b = ([b.toNat], idle) :=
  if_pos ascii

theorem decodeLead_high : ∀ b : UInt8, ¬b < 0x80 →
    decodeLead b = ([replacement], idle) ∨
      ((decodeLead b).1 = [] ∧ (Large (decodeLead b).2 ∨ Small b (decodeLead b).2)) :=
  forall_byte (by decide +kernel)

theorem decodeByte_large {state : DecoderState} (large : Large state) (b : UInt8) :
    (∃ point ∈ (decodeByte state b).1, 0xff < point) ∨
      ((decodeByte state b).1 = [] ∧ Large (decodeByte state b).2) := by
  obtain ⟨upper, kind⟩ := large
  have there : state.needed ≠ 0 := by omega
  unfold decodeByte
  rw [if_neg there]
  by_cases outside : b < state.lower ∨ state.upper < b
  · left
    rw [if_pos outside]
    exact ⟨replacement, List.mem_cons_self, by decide⟩
  · rw [if_neg outside]
    simp only [UInt8.lt_iff_toNat_lt, not_or, not_lt] at outside
    have most : state.upper.toNat ≤ 0xbf := UInt8.le_iff_toNat_le.mp upper
    have lower : ∀ bound : UInt8, bound ≤ state.lower → bound.toNat ≤ b.toNat := by
      intro bound below
      exact Nat.le_trans (UInt8.le_iff_toNat_le.mp below) outside.1
    obtain ⟨one, point⟩ | ⟨two, point⟩ | ⟨three, point⟩ := kind
    · left
      rw [if_pos one]
      exact ⟨_, List.mem_singleton_self _, by omega⟩
    · right
      rw [if_neg (by omega)]
      refine ⟨rfl, ?_⟩
      have enough : 4 ≤ state.codePoint * 64 + b.toNat % 64 := by
        obtain some | first := point
        · omega
        · have bound : 0xa0 ≤ b.toNat := lower 0xa0 first
          omega
      exact ⟨UInt8.le_refl 0xbf, .inl ⟨by rw [two], enough⟩⟩
    · right
      rw [if_neg (by omega)]
      refine ⟨rfl, ?_⟩
      have enough : 1 ≤ state.codePoint * 64 + b.toNat % 64 := by
        obtain some | first := point
        · omega
        · have bound : 0x90 ≤ b.toNat := lower 0x90 first
          omega
      exact ⟨UInt8.le_refl 0xbf, .inr (.inl ⟨by rw [three], .inl enough⟩)⟩

theorem decodeByte_small {lead : UInt8} {state : DecoderState} (small : Small lead state) (b : UInt8) :
    (∃ point ∈ (decodeByte state b).1, 0xff < point) ∨
      ∃ x, decodeByte state b = ([x.toNat], idle) ∧ encode [x] = [lead, b] := by
  have all : ∀ b : UInt8, ∀ pair ∈ [((0xc2 : UInt8), (⟨1, 2, 0x80, 0xbf⟩ : DecoderState)),
      (0xc3, ⟨1, 3, 0x80, 0xbf⟩)],
      (∃ point ∈ (decodeByte pair.2 b).1, 0xff < point) ∨
        ∃ point ∈ (decodeByte pair.2 b).1,
          decodeByte pair.2 b = ([(UInt8.ofNat point).toNat], idle) ∧
            encode [UInt8.ofNat point] = [pair.1, b] :=
    forall_byte (by decide +kernel)
  have pair := all b
  obtain ⟨rfl, rfl⟩ | ⟨rfl, rfl⟩ := small
  · obtain error | ⟨point, _, decoded, encoded⟩ := pair _ List.mem_cons_self
    · exact .inl error
    · exact .inr ⟨_, decoded, encoded⟩
  · obtain error | ⟨point, _, decoded, encoded⟩ :=
      pair _ (List.mem_cons_of_mem _ List.mem_cons_self)
    · exact .inl error
    · exact .inr ⟨_, decoded, encoded⟩

theorem decodeFrom_cons (state : DecoderState) (b : UInt8) (rest : List UInt8) :
    decodeFrom state (b :: rest) =
      (decodeByte state b).1 ++ decodeFrom (decodeByte state b).2 rest := rfl

theorem decodeFrom_large {state : DecoderState} (large : Large state) (bytes : List UInt8) :
    ∃ point ∈ decodeFrom state bytes, 0xff < point := by
  induction bytes generalizing state with
  | nil =>
      have there : state.needed ≠ 0 := by
        obtain ⟨_, kind⟩ := large
        omega
      rw [decodeFrom, if_neg there]
      exact ⟨replacement, List.mem_singleton_self _, by decide⟩
  | cons b rest ih =>
      rw [decodeFrom_cons]
      obtain ⟨point, member, above⟩ | ⟨none, next⟩ := decodeByte_large large b
      · exact ⟨point, List.mem_append_left _ member, above⟩
      · obtain ⟨point, member, above⟩ := ih next
        exact ⟨point, List.mem_append_right _ member, above⟩

/-- Every code point fits a byte. -/
def IsLatin1 (points : List Nat) : Prop := ∀ point ∈ points, point ≤ 0xff

instance (points : List Nat) : Decidable (IsLatin1 points) :=
  inferInstanceAs (Decidable (∀ point ∈ points, _))

def bytesOf (points : List Nat) : List UInt8 := points.map UInt8.ofNat

theorem encode_append (value more : List UInt8) : encode (value ++ more) = encode value ++ encode more :=
  List.flatMap_append

/-- What the encoding of one byte is, and how it is decoded again. -/
theorem encode_byte : ∀ b : UInt8,
    (b < 0x80 → encode [b] = [b]) ∧ high (encode [b]) = 2 * high [b] ∧
      (isWhitespace b = true → high [b] = 0) ∧
      ((encode [b] = [b] ∧ decodeByte idle b = ([b.toNat], idle)) ∨
        ∃ lead ∈ encode [b], ∃ next ∈ encode [b], encode [b] = [lead, next] ∧
          (decodeByte idle lead).1 = [] ∧
          decodeByte (decodeByte idle lead).2 next = ([b.toNat], idle)) :=
  forall_byte (by decide +kernel)

theorem encode_ascii (b : UInt8) (ascii : b < 0x80) : encode [b] = [b] := (encode_byte b).1 ascii

theorem bytesOf_cons (x : UInt8) (points : List Nat) :
    bytesOf (x.toNat :: points) = [x] ++ bytesOf points := by
  rw [bytesOf, List.map_cons, UInt8.ofNat_toNat]
  rfl

theorem decodeFrom_encode (bytes : List UInt8) :
    (IsLatin1 (decodeFrom idle bytes) → encode (bytesOf (decodeFrom idle bytes)) = bytes) ∧
      ∀ lead state, Small lead state → IsLatin1 (decodeFrom state bytes) →
        encode (bytesOf (decodeFrom state bytes)) = lead :: bytes := by
  induction bytes with
  | nil =>
      refine ⟨fun _ => rfl, fun lead state small latin1 => ?_⟩
      have there : state.needed ≠ 0 := by
        obtain ⟨_, rfl⟩ | ⟨_, rfl⟩ := small
        · decide
        · decide
      rw [decodeFrom, if_neg there] at latin1
      exact absurd (latin1 replacement (List.mem_singleton_self _)) (by decide)
  | cons b rest ih =>
      obtain ⟨fromIdle, fromSmall⟩ := ih
      constructor
      · intro latin1
        have lead : decodeByte idle b = decodeLead b := if_pos rfl
        rw [decodeFrom_cons, lead] at latin1 ⊢
        by_cases ascii : b < 0x80
        · rw [decodeLead_ascii ascii] at latin1 ⊢
          simp only [List.singleton_append] at latin1 ⊢
          rw [bytesOf_cons, encode_append, encode_ascii b ascii,
            fromIdle fun point member => latin1 point (List.mem_cons_of_mem _ member)]
          rfl
        · obtain error | ⟨none, large | small⟩ := decodeLead_high b ascii
          · rw [error] at latin1
            exact absurd (latin1 replacement List.mem_cons_self) (by decide)
          · obtain ⟨point, member, above⟩ := decodeFrom_large large rest
            exact absurd (latin1 point (List.mem_append_right _ member)) (not_le.mpr above)
          · rw [none, List.nil_append] at latin1 ⊢
            exact fromSmall b _ small latin1
      · intro lead state small latin1
        rw [decodeFrom_cons] at latin1 ⊢
        obtain ⟨point, member, above⟩ | ⟨x, decoded, encoded⟩ := decodeByte_small small b
        · exact absurd (latin1 point (List.mem_append_left _ member)) (not_le.mpr above)
        · rw [decoded] at latin1 ⊢
          simp only [List.singleton_append] at latin1 ⊢
          rw [bytesOf_cons, encode_append, encoded,
            fromIdle fun point member => latin1 point (List.mem_cons_of_mem _ member)]
          rfl

theorem decodeFrom_ascii {bytes : List UInt8} (ascii : IsAscii bytes) :
    decodeFrom idle bytes = bytes.map UInt8.toNat := by
  induction bytes with
  | nil => rfl
  | cons b rest ih =>
      have lead : decodeByte idle b = ([b.toNat], idle) :=
        (if_pos rfl).trans (decodeLead_ascii (ascii b List.mem_cons_self))
      rw [decodeFrom_cons, lead, ih fun other member => ascii other (List.mem_cons_of_mem _ member)]
      rfl

theorem decode_ascii {value : List UInt8} (ascii : IsAscii value) :
    decode value = value.map UInt8.toNat := by
  unfold decode
  split
  · exact absurd (ascii 0xef List.mem_cons_self) (by decide)
  · exact decodeFrom_ascii ascii

/-! ## Bytes above ASCII -/

theorem high_append (value more : List UInt8) : high (value ++ more) = high value + high more :=
  List.countP_append

theorem high_eq_zero_iff {value : List UInt8} : high value = 0 ↔ IsAscii value := by
  rw [high, List.countP_eq_zero]
  simp only [decide_eq_true_iff, UInt8.not_le]
  exact Iff.rfl

theorem high_encode (value : List UInt8) : high (encode value) = 2 * high value := by
  induction value with
  | nil => rfl
  | cons b rest ih =>
      have split := encode_append [b] rest
      have count := high_append [b] rest
      rw [List.singleton_append] at split count
      rw [split, high_append, ih, (encode_byte b).2.1, count, Nat.mul_add]

theorem mem_encode {value : List UInt8} {b : UInt8} (ascii : b < 0x80) (member : b ∈ value) :
    b ∈ encode value := by
  refine List.mem_flatMap.mpr ⟨b, member, ?_⟩
  have one := encode_ascii b ascii
  rw [encode, List.flatMap_cons, List.flatMap_nil, List.append_nil] at one
  rw [one]
  exact List.mem_singleton_self b

theorem decodeFrom_latin1 {value : List UInt8} (latin1 : IsLatin1 (decodeFrom idle value)) :
    (∀ b ∈ bytesOf (decodeFrom idle value), b < 0x80 → b ∈ value) ∧
      high value = 2 * high (bytesOf (decodeFrom idle value)) := by
  have encoded := (decodeFrom_encode value).1 latin1
  constructor
  · intro b member ascii
    have there := mem_encode ascii member
    rwa [encoded] at there
  · rw [← high_encode, encoded]

theorem decode_latin1 {value : List UInt8} (latin1 : IsLatin1 (decode value)) :
    (∀ b ∈ bytesOf (decode value), b < 0x80 → b ∈ value) ∧
      high (bytesOf (decode value)) ≤ high value ∧
      (high (bytesOf (decode value)) = high value → IsAscii value) := by
  unfold decode at latin1 ⊢
  split at latin1
  case h_1 rest =>
    obtain ⟨comes, count⟩ := decodeFrom_latin1 latin1
    have mark : high (0xef :: 0xbb :: 0xbf :: rest) = 3 + high rest := by
      have split := high_append [0xef, 0xbb, 0xbf] rest
      exact split
    refine ⟨fun b member ascii => ?_, by omega, fun equal => ?_⟩
    · exact List.mem_cons_of_mem _ (List.mem_cons_of_mem _ (List.mem_cons_of_mem _
        (comes b member ascii)))
    · omega
  case h_2 =>
    obtain ⟨comes, count⟩ := decodeFrom_latin1 latin1
    refine ⟨comes, by omega, fun equal => ?_⟩
    exact high_eq_zero_iff.mp (by omega)

/-! ## Headers -/

theorem high_dropWhile {value : List UInt8} : high (value.dropWhile isWhitespace) = high value := by
  induction value with
  | nil => rfl
  | cons b rest ih =>
      rw [List.dropWhile_cons]
      cases white : isWhitespace b with
      | false => rfl
      | true =>
          have low := (encode_byte b).2.2.1 white
          have count := high_append [b] rest
          rw [List.singleton_append, low, Nat.zero_add] at count
          rw [if_pos rfl, ih, count]

theorem high_reverse (value : List UInt8) : high value.reverse = high value :=
  List.countP_reverse

theorem high_normalize (value : List UInt8) : high (normalize value) = high value := by
  rw [normalize, high_reverse, high_dropWhile, high_reverse, high_dropWhile]

theorem mem_normalize {value : List UInt8} {b : UInt8} (member : b ∈ normalize value) : b ∈ value := by
  have back := List.mem_reverse.mp member
  have trimmed := List.mem_reverse.mp (List.dropWhile_sublist _ |>.mem back)
  exact (List.dropWhile_sublist _).mem trimmed

theorem validFieldValue_iff {value : List UInt8} :
    validFieldValue value = true ↔ ∀ b ∈ value, b ≠ 0x00 ∧ b ≠ 0x0a ∧ b ≠ 0x0d := by
  unfold validFieldValue
  rw [Bool.not_eq_true', List.any_eq_false]
  simp only [Bool.or_eq_true, decide_eq_true_iff, not_or, and_assoc, ne_eq]

theorem validFieldValue_decode {value : List UInt8} (valid : validFieldValue value = true)
    (latin1 : IsLatin1 (decode value)) :
    validFieldValue (normalize (bytesOf (decode value))) = true := by
  rw [validFieldValue_iff] at valid ⊢
  intro b member
  by_cases ascii : b < 0x80
  · exact valid b ((decode_latin1 latin1).1 b (mem_normalize member) ascii)
  · refine ⟨?_, ?_, ?_⟩
    · rintro rfl
      exact ascii (by decide)
    · rintro rfl
      exact ascii (by decide)
    · rintro rfl
      exact ascii (by decide)

/-- What `send` makes of one entry. -/
def sentEntry (entry : Name × List UInt8) : Name × List UInt8 :=
  (entry.1, normalize (bytesOf (decode entry.2)))

theorem append_decoded {headers : Headers} {name : Name} {value : List UInt8}
    (isName : isToken name = true) (valid : validFieldValue value = true) :
    headers.append name (decode value) =
      if IsLatin1 (decode value) then some ⟨headers.list ++ [sentEntry (name, value)]⟩ else none := by
  unfold Headers.append toByteString
  by_cases latin1 : IsLatin1 (decode value)
  · have bytes : ∀ point ∈ decode value, point ≤ 0xff := latin1
    have normal := validFieldValue_decode valid latin1
    unfold bytesOf at normal
    rw [if_pos bytes, if_pos latin1]
    simp only [Option.bind_eq_bind, Option.bind_some, isName, normal, Bool.and_self, if_true]
    rfl
  · have bytes : ¬∀ point ∈ decode value, point ≤ 0xff := latin1
    rw [if_neg bytes, if_neg latin1]
    rfl

theorem foldlM_sent {entries : List (Name × List UInt8)} (accepted : Accepted entries)
    (headers : Headers) :
    entries.foldlM (fun headers (name, value) => headers.append name (decode value)) headers =
      if ∀ entry ∈ entries, IsLatin1 (decode entry.2) then
        some ⟨headers.list ++ entries.map sentEntry⟩
      else none := by
  induction entries generalizing headers with
  | nil => simp
  | cons entry rest ih =>
      obtain ⟨isName, valid⟩ := accepted entry List.mem_cons_self
      rw [List.foldlM_cons]
      simp only [append_decoded isName valid]
      by_cases first : IsLatin1 (decode entry.2)
      · rw [if_pos first]
        simp only [Option.bind_eq_bind, Option.bind_some]
        rw [ih fun other member => accepted other (List.mem_cons_of_mem _ member)]
        simp only [List.forall_mem_cons, first, true_and, List.append_assoc, List.map_cons,
          List.singleton_append]
      · rw [if_neg first, if_neg fun all => first (all entry List.mem_cons_self)]
        rfl

theorem sendHeaders_accepted {entries : List (Name × List UInt8)} (accepted : Accepted entries) :
    sendHeaders entries =
      if ∀ entry ∈ entries, IsLatin1 (decode entry.2) then some ⟨entries.map sentEntry⟩
      else none :=
  foldlM_sent accepted ⟨[]⟩

/-! ## Text of Latin-1 -/

/-- The UTF-8 of a text of code points up to `0xff`, possibly after a byte order mark. -/
def IsLatin1Text (value : List UInt8) : Prop :=
  ∃ text : List UInt8, value = encode text ∨ value = [0xef, 0xbb, 0xbf] ++ encode text

theorem decodeFrom_encoded (text : List UInt8) :
    decodeFrom idle (encode text) = text.map UInt8.toNat := by
  induction text with
  | nil => rfl
  | cons b rest ih =>
      have split := encode_append [b] rest
      rw [List.singleton_append] at split
      obtain ⟨same, decoded⟩ | ⟨lead, _, next, _, two, none, decoded⟩ :=
        (encode_byte b).2.2.2
      · rw [split, same, List.singleton_append, decodeFrom_cons, decoded, ih]
        rfl
      · rw [split, two]
        simp only [List.cons_append, List.nil_append]
        rw [decodeFrom_cons, none, decodeFrom_cons, decoded, ih]
        rfl

theorem isLatin1_bytes (text : List UInt8) : IsLatin1 (text.map UInt8.toNat) := by
  intro point member
  obtain ⟨b, _, rfl⟩ := List.mem_map.mp member
  have bound := b.toNat_lt
  omega

theorem isLatin1_decode_iff {value : List UInt8} : IsLatin1 (decode value) ↔ IsLatin1Text value := by
  constructor
  · intro latin1
    unfold decode at latin1
    split at latin1
    case h_1 rest =>
      refine ⟨bytesOf (decodeFrom idle rest), .inr ?_⟩
      rw [(decodeFrom_encode rest).1 latin1]
      rfl
    case h_2 =>
      exact ⟨_, .inl ((decodeFrom_encode value).1 latin1).symm⟩
  · rintro ⟨text, rfl | rfl⟩
    · have decoded := decodeFrom_encoded text
      unfold decode
      split
      case h_1 rest marked =>
        rw [marked] at decoded
        have mark : Large (decodeLead 0xef).2 := by decide
        obtain ⟨point, member, above⟩ := decodeFrom_large mark (0xbb :: 0xbf :: rest)
        have within : point ∈ decodeFrom idle (0xef :: 0xbb :: 0xbf :: rest) := member
        rw [decoded] at within
        exact absurd (isLatin1_bytes text point within) (not_le.mpr above)
      case h_2 =>
        rw [decoded]
        exact isLatin1_bytes text
    · have decoded : decode ([0xef, 0xbb, 0xbf] ++ encode text) = text.map UInt8.toNat :=
        decodeFrom_encoded text
      rw [decoded]
      exact isLatin1_bytes text

/-! ## Transparency -/

def carried (entries : List (Name × List UInt8)) (name : Name) : Option (List UInt8) :=
  Headers.get ⟨entries.map fun (k, value) => (k, normalize value)⟩ name

/-- The headers that `send` makes, if it makes any, carry the bytes of the values. -/
def RequestTransparent (entries : List (Name × List UInt8)) : Prop :=
  ∀ headers, sendHeaders entries = some headers → ∀ name, headers.get name = carried entries name

/-- The fields of a response hold the bytes of its header values. -/
def ResponseTransparent (toLowerCase : Name → Name) (headers : List (Name × List UInt8)) : Prop :=
  ∀ name, (fieldsFromFetchHeaders headers).get toLowerCase name =
    (Fields.mk headers false).get toLowerCase name

theorem bytesOf_decode_ascii {value : List UInt8} (ascii : IsAscii value) :
    bytesOf (decode value) = value := by
  rw [decode_ascii ascii, bytesOf, List.map_map]
  have same : UInt8.ofNat ∘ UInt8.toNat = id := funext fun b => UInt8.ofNat_toNat
  rw [same, List.map_id]

theorem encode_ascii_value {value : List UInt8} (ascii : IsAscii value) : encode value = value := by
  induction value with
  | nil => rfl
  | cons b rest ih =>
      have split := encode_append [b] rest
      rw [List.singleton_append] at split
      rw [split, encode_ascii b (ascii b List.mem_cons_self),
        ih fun other member => ascii other (List.mem_cons_of_mem _ member)]
      rfl

theorem high_intercalate (values : List (List UInt8)) :
    high ([0x2c, 0x20].intercalate values) = (values.map high).sum := by
  induction values with
  | nil => rfl
  | cons first rest ih =>
      cases rest with
      | nil => simp [List.intercalate]
      | cons second more =>
          have separator : high [0x2c, 0x20] = 0 := by decide
          rw [List.intercalate_cons_cons, high_append, high_append, ih, separator, Nat.add_zero]
          rfl

theorem values_map (entries : List (Name × List UInt8)) (name : Name)
    (change : List UInt8 → List UInt8) :
    Headers.values ⟨entries.map fun (k, value) => (k, change value)⟩ name =
      (Headers.values ⟨entries⟩ name).map change := by
  unfold Headers.values
  rw [List.filter_map, List.map_map, List.map_map]
  rfl

theorem get_high {first second : Headers} {name : Name} (same : first.get name = second.get name) :
    ((first.values name).map high).sum = ((second.values name).map high).sum := by
  unfold Headers.get at same
  by_cases none : first.values name = []
  · by_cases other : second.values name = []
    · rw [none, other]
    · rw [if_pos none, if_neg other] at same
      cases same
  · by_cases other : second.values name = []
    · rw [if_neg none, if_pos other] at same
      cases same
    · rw [if_neg none, if_neg other, Option.some.injEq] at same
      rw [← high_intercalate, ← high_intercalate, same]

theorem ascii_of_carried {entries : List (Name × List UInt8)} {name : Name}
    (latin1 : ∀ entry ∈ entries, IsLatin1 (decode entry.2))
    (same : Headers.get ⟨entries.map sentEntry⟩ name = carried entries name) :
    ∀ value ∈ Headers.values ⟨entries⟩ name, IsAscii value := by
  have counts := get_high same
  have sent := values_map entries name fun value => normalize (bytesOf (decode value))
  have kept := values_map entries name normalize
  unfold sentEntry at counts
  rw [sent, kept, List.map_map, List.map_map] at counts
  have decodable : ∀ value ∈ Headers.values ⟨entries⟩ name, IsLatin1 (decode value) := by
    intro value member
    obtain ⟨entry, filtered, rfl⟩ := List.mem_map.mp member
    exact latin1 entry (List.mem_filter.mp filtered).1
  have most : ∀ value ∈ Headers.values ⟨entries⟩ name,
      (high ∘ fun value => normalize (bytesOf (decode value))) value ≤ (high ∘ normalize) value := by
    intro value member
    simp only [Function.comp_apply, high_normalize]
    exact (decode_latin1 (decodable value member)).2.1
  intro value member
  by_contra notAscii
  have less : (high ∘ fun value => normalize (bytesOf (decode value))) value <
      (high ∘ normalize) value := by
    simp only [Function.comp_apply, high_normalize]
    have fewer := (decode_latin1 (decodable value member)).2
    exact Nat.lt_of_le_of_ne fewer.1 fun equal => notAscii (fewer.2 equal)
  have strict := List.sum_lt_sum _ _ most ⟨value, member, less⟩
  exact absurd counts (Nat.ne_of_lt strict)

theorem requestTransparent_iff {entries : List (Name × List UInt8)} (accepted : Accepted entries) :
    RequestTransparent entries ↔
      (∃ entry ∈ entries, ¬IsLatin1Text entry.2) ∨ ∀ entry ∈ entries, IsAscii entry.2 := by
  unfold RequestTransparent
  rw [sendHeaders_accepted accepted]
  by_cases latin1 : ∀ entry ∈ entries, IsLatin1 (decode entry.2)
  · rw [if_pos latin1]
    constructor
    · intro transparent
      right
      intro entry member
      have same := transparent _ rfl entry.1
      refine ascii_of_carried latin1 same entry.2 ?_
      exact List.mem_map.mpr ⟨entry, List.mem_filter.mpr ⟨member, decide_eq_true rfl⟩, rfl⟩
    · rintro (⟨entry, member, refused⟩ | ascii) headers sent name
      · exact absurd (isLatin1_decode_iff.mp (latin1 entry member)) refused
      · cases sent
        have same : entries.map sentEntry =
            entries.map fun (k, value) => (k, normalize value) := by
          apply List.map_congr_left
          intro entry member
          unfold sentEntry
          rw [bytesOf_decode_ascii (ascii entry member)]
        rw [same]
        rfl
  · rw [if_neg latin1]
    constructor
    · intro _
      left
      obtain ⟨entry, refused⟩ := not_forall.mp latin1
      obtain ⟨member, notLatin1⟩ := Classical.not_imp.mp refused
      exact ⟨entry, member, fun text => notLatin1 (isLatin1_decode_iff.mpr text)⟩
    · intro _ headers sent
      cases sent

theorem responseTransparent_iff (toLowerCase : Name → Name) (headers : List (Name × List UInt8)) :
    ResponseTransparent toLowerCase headers ↔ ∀ header ∈ headers, IsAscii header.2 := by
  constructor
  · intro transparent header member
    have same := transparent header.1
    unfold Fields.get fieldsFromFetchHeaders at same
    rw [List.filter_map, List.map_map] at same
    have here : header ∈ headers.filter fun (k, _) => toLowerCase k = toLowerCase header.1 :=
      List.mem_filter.mpr ⟨member, decide_eq_true rfl⟩
    have kept := (List.map_inj_left.mp same) header here
    have count := high_encode header.2
    have equal : encode header.2 = header.2 := kept
    rw [equal] at count
    exact high_eq_zero_iff.mp (by omega)
  · intro ascii name
    have same : (headers.map fun (k, value) => (k, encode value)) = headers := by
      apply (List.map_congr_left _).trans (List.map_id headers)
      intro header member
      exact congrArg (Prod.mk header.1) (encode_ascii_value (ascii header member))
    unfold fieldsFromFetchHeaders
    rw [same]

/-- Field values keep their bytes exactly where they are ASCII, or where the send fails. -/
theorem values_keep_bytes (toLowerCase : Name → Name) :
    (∀ fields, Fields.Built toLowerCase fields →
      (RequestTransparent fields.entries ↔
        (∃ entry ∈ fields.entries, ¬IsLatin1Text entry.2) ∨
          ∀ entry ∈ fields.entries, IsAscii entry.2)) ∧
      ∀ headers, ResponseTransparent toLowerCase headers ↔ ∀ header ∈ headers, IsAscii header.2 :=
  ⟨fun _ built => requestTransparent_iff built.accepted, responseTransparent_iff toLowerCase⟩

theorem fieldsOfAscii :
    Fields.fromList [("a".toList, [0x62])] = .ok ⟨[("a".toList, [0x62])], true⟩ := by
  decide

/-- An ASCII value is sent as it is. -/
theorem values_keep_bytes_ascii : RequestTransparent [("a".toList, [0x62])] :=
  ((values_keep_bytes lower).1 ⟨[("a".toList, [0x62])], true⟩
    (.fromList fieldsOfAscii)).mpr (.inr (by
      intro entry member b inside
      cases List.mem_singleton.mp member
      cases List.mem_singleton.mp inside
      decide))

/-- A field of `é` in UTF-8 is sent as one byte, and a header of one byte is received as two. -/
theorem eAcute_changes :
    ∃ fields headers, Fields.fromList [("a".toList, [0xc3, 0xa9])] = .ok fields ∧
      sendHeaders fields.entries = some headers ∧ headers.get "a".toList = some [0xe9] ∧
      carried fields.entries "a".toList = some [0xc3, 0xa9] ∧
      (fieldsFromFetchHeaders [("a".toList, [0xe9])]).get lower "a".toList = [[0xc3, 0xa9]] :=
  ⟨⟨[("a".toList, [0xc3, 0xa9])], true⟩, ⟨[("a".toList, [0xe9])]⟩, by decide⟩

end Polyengine.Wasi.HttpFields
