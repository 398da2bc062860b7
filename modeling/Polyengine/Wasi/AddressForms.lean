import Mathlib.Data.List.Forall2
import Polyengine.Wasi.SocketHostname

/-!
# Forms of address text

The text forms of addresses, which texts are read as addresses without having one of them, and which
names are answered without being literals.
-/

set_option autoImplicit false

namespace Polyengine.Wasi.Sockets.Hostname

open Polyengine.Library Numeral

/-! ## Forms -/

/-- A decimal number up to 255. -/
def decimalOctet (piece : Text) : Option Nat :=
  if piece ≠ [] ∧ piece.all Char.isDigit ∧ natOf piece ≤ 255 then some (natOf piece) else none

/-- The scope of a zone that is a decimal number of 32 bits, and zero of any other. -/
def decimalZone (zone : Text) : Nat :=
  if zone.all Char.isDigit ∧ natOf zone < 2 ^ 32 then natOf zone else 0

section

-- How a piece of a dotted quad is read.
variable (octet : Text → Option Nat)

/-- Four octets with dots between them. -/
def IsQuad (text : Text) (octets : List Nat) : Prop :=
  ∃ pieces, text = join '.' pieces ∧ pieces.length = 4 ∧ (∀ piece ∈ pieces, '.' ∉ piece) ∧
    pieces.mapM octet = some octets

inductive Groups : List Text → List Nat → Prop where
  | hexadecimal {pieces : List Text} {groups : List Nat} :
      pieces.mapM parseGroup = some groups → Groups pieces groups
  | embedded {pieces : List Text} {groups : List Nat} {last : Text} {a b c d : Nat} :
      pieces.mapM parseGroup = some groups → IsQuad octet last [a, b, c, d] →
      Groups (pieces ++ [last]) (groups ++ [a * 256 + b, c * 256 + d])

/-- Eight groups, or fewer around `::`. -/
inductive Ipv6Form : Text → List Nat → Prop where
  | full {pieces : List Text} {groups : List Nat} :
      Groups octet pieces groups → groups.length = 8 → Ipv6Form (join ':' pieces) groups
  | compressed {front back : List Text} {frontGroups backGroups : List Nat} :
      front.mapM parseGroup = some frontGroups → Groups octet back backGroups →
      frontGroups.length + backGroups.length ≤ 7 →
      Ipv6Form (join ':' front ++ ':' :: ':' :: join ':' back)
        (frontGroups ++ List.replicate (8 - (frontGroups.length + backGroups.length)) 0 ++ backGroups)

end

inductive Denotes (port : Nat) : Text → IpSocketAddress → Prop where
  | ipv4 {text : Text} {octets : List Nat} :
      IsQuad decimalOctet text octets → Denotes port text (.ipv4 port octets)
  | ipv6 {text : Text} {groups : List Nat} :
      Ipv6Form decimalOctet text groups → Denotes port text (.ipv6 port 0 groups 0)
  | zoned {text zone : Text} {groups : List Nat} :
      Ipv6Form decimalOctet text groups → zone ≠ [] →
      Denotes port (text ++ '%' :: zone) (.ipv6 port 0 groups (decimalZone zone))

/-! ## Texts that are misread -/

/-- A dotted quad before a final `::`, which is read after it. -/
def QuadFirst (text : Text) (groups : List Nat) : Prop :=
  ∃ front last frontGroups a b c d, text = join ':' (front ++ [last]) ++ [':', ':'] ∧
    front.mapM parseGroup = some frontGroups ∧ IsQuad readOctet last [a, b, c, d] ∧
    frontGroups.length + 2 ≤ 7 ∧
    groups = frontGroups ++ List.replicate (8 - (frontGroups.length + 2)) 0 ++
      [a * 256 + b, c * 256 + d]

/-- Nothing, or a zone. -/
def IsZone (rest : Text) : Prop := rest = [] ∨ ∃ zone, rest = '%' :: zone

/-- A text that has none of the forms and is read as an address: a piece of a dotted quad converts to an
octet but is not decimal, a dotted quad is before `::`, or the zone is empty. -/
inductive Misread : Text → Prop where
  | quad {text : Text} {octets : List Nat} :
      IsQuad readOctet text octets → ':' ∉ text → ¬IsQuad decimalOctet text octets → Misread text
  | embedded {text rest : Text} {groups : List Nat} :
      Ipv6Form readOctet text groups → ¬Ipv6Form decimalOctet text groups → IsZone rest →
      Misread (text ++ rest)
  | quadFirst {text rest : Text} {groups : List Nat} :
      QuadFirst text groups → IsZone rest → Misread (text ++ rest)
  | emptyZone {text : Text} {groups : List Nat} :
      Ipv6Form readOctet text groups → Misread (text ++ ['%'])

/-- A zone that converts to another scope than it denotes. -/
inductive MisreadZone : Text → Prop where
  | mk {text zone : Text} {groups : List Nat} :
      Ipv6Form readOctet text groups → readZone zone ≠ decimalZone zone →
      MisreadZone (text ++ '%' :: zone)

def ReadFaithfully (port : Nat) (text : Text) : Prop :=
  ∀ address, parseNetAddr text port = .ok address ↔ Denotes port text address

/-! ## Pieces -/

theorem mapM_some_iff {read : Text → Option Nat} {pieces : List Text} {values : List Nat} :
    pieces.mapM read = some values ↔
      List.Forall₂ (fun piece value => read piece = some value) pieces values := by
  induction pieces generalizing values with
  | nil => simp [eq_comm]
  | cons piece rest ih =>
      rw [List.mapM_cons]
      constructor
      · intro found
        obtain ⟨value, first, later⟩ := Option.bind_eq_some_iff.mp found
        obtain ⟨more, others, same⟩ := Option.bind_eq_some_iff.mp later
        cases same
        exact .cons first (ih.mp others)
      · rintro (_ | ⟨first, others⟩)
        rw [first, ih.mpr others]
        rfl

theorem not_mem_of_mem_splitOn {mark : Char} {text piece : Text} (member : piece ∈ text.splitOn mark) :
    mark ∉ piece := by
  induction text generalizing piece with
  | nil =>
      rw [List.splitOn_nil] at member
      cases List.mem_singleton.mp member
      exact List.not_mem_nil
  | cons c rest ih =>
      rw [List.splitOn_cons_eq_if_modifyHead] at member
      split at member
      · obtain rfl | later := List.mem_cons.mp member
        · exact List.not_mem_nil
        · exact ih later
      case isFalse other =>
        cases split : rest.splitOn mark with
        | nil => exact absurd split (List.splitOn_ne_nil mark rest)
        | cons first more =>
            rw [split] at member ih
            obtain rfl | later := List.mem_cons.mp member
            · rw [List.mem_cons, not_or]
              refine ⟨fun same => other ?_, ih List.mem_cons_self⟩
              rw [same]
              exact beq_self_eq_true c
            · exact ih (List.mem_cons_of_mem _ later)

theorem join_splitOn (mark : Char) (text : Text) : join mark (text.splitOn mark) = text :=
  List.intercalate_splitOn mark

theorem splitOn_join {mark : Char} {pieces : List Text} (there : pieces ≠ [])
    (apart : ∀ piece ∈ pieces, mark ∉ piece) : (join mark pieces).splitOn mark = pieces :=
  List.splitOn_intercalate mark apart there

theorem join_cons_cons (mark : Char) (first second : Text) (rest : List Text) :
    join mark (first :: second :: rest) = first ++ mark :: join mark (second :: rest) := by
  rw [join, List.intercalate_cons_cons, List.append_assoc]
  rfl

theorem mem_join {mark c : Char} {pieces : List Text} (member : c ∈ join mark pieces) :
    c = mark ∨ ∃ piece ∈ pieces, c ∈ piece := by
  induction pieces with
  | nil => exact absurd member List.not_mem_nil
  | cons first rest ih =>
      cases rest with
      | nil =>
          rw [join, List.intercalate_singleton] at member
          exact .inr ⟨first, List.mem_cons_self, member⟩
      | cons second more =>
          rw [join_cons_cons, List.mem_append, List.mem_cons] at member
          obtain here | rfl | later := member
          · exact .inr ⟨first, List.mem_cons_self, here⟩
          · exact .inl rfl
          · obtain same | ⟨piece, inside, there⟩ := ih later
            · exact .inl same
            · exact .inr ⟨piece, List.mem_cons_of_mem _ inside, there⟩

theorem mem_join_last {mark c : Char} {last : Text} (member : c ∈ last) (front : List Text) :
    c ∈ join mark (front ++ [last]) := by
  induction front with
  | nil =>
      rw [List.nil_append, join, List.intercalate_singleton]
      exact member
  | cons first rest ih =>
      cases rest with
      | nil =>
          rw [List.cons_append, List.nil_append, join_cons_cons]
          exact List.mem_append_right _ (List.mem_cons_of_mem _ ih)
      | cons second more =>
          rw [List.cons_append, List.cons_append, join_cons_cons]
          exact List.mem_append_right _ (List.mem_cons_of_mem _ ih)

/-- A piece between colons. -/
structure IsPiece (piece : Text) : Prop where
  there : piece ≠ []
  apart : ':' ∉ piece

theorem parseGroup_digits {piece : Text} {group : Nat} (found : parseGroup piece = some group) :
    piece ≠ [] ∧ ∀ c ∈ piece, (digitValue c).isSome = true := by
  unfold parseGroup at found
  split at found
  · cases found
  case isFalse long =>
    refine ⟨?_, radixValue_digits found⟩
    rintro rfl
    exact long (.inl rfl)

theorem not_mem_of_digits {piece : Text} (digits : ∀ c ∈ piece, (digitValue c).isSome = true)
    {c : Char} (other : digitValue c = none) : c ∉ piece := by
  intro member
  have digit := digits c member
  rw [other] at digit
  cases digit

theorem parseGroup_piece {piece : Text} {group : Nat} (found : parseGroup piece = some group) :
    IsPiece piece :=
  ⟨(parseGroup_digits found).1, not_mem_of_digits (parseGroup_digits found).2 (by decide)⟩

theorem readOctet_number {piece : Text} {value : Nat} (found : readOctet piece = some value) :
    number piece = some (value : Int) ∧ value ≤ 255 := by
  unfold readOctet at found
  split at found
  case h_1 amount here =>
    split at found
    case isTrue small =>
      cases found
      exact ⟨here, small⟩
    case isFalse => cases found
  case h_2 => cases found

theorem decimalOctet_spec {piece : Text} {value : Nat} (found : decimalOctet piece = some value) :
    piece ≠ [] ∧ (∀ c ∈ piece, c.isDigit = true) ∧ value = natOf piece ∧ value ≤ 255 := by
  unfold decimalOctet at found
  split at found
  case isTrue decimal =>
    cases found
    exact ⟨decimal.1, List.all_eq_true.mp decimal.2.1, rfl, decimal.2.2⟩
  case isFalse => cases found

theorem readOctet_of_decimal {piece : Text} {value : Nat} (found : decimalOctet piece = some value) :
    readOctet piece = some value := by
  obtain ⟨there, digits, rfl, small⟩ := decimalOctet_spec found
  unfold readOctet
  rw [number_digits there digits (by omega)]
  exact if_pos small

/-! ## Dotted quads -/

theorem IsQuad.imp {octet other : Text → Option Nat} {text : Text} {octets : List Nat}
    (quad : IsQuad octet text octets)
    (weaker : ∀ piece value, octet piece = some value → other piece = some value) :
    IsQuad other text octets := by
  obtain ⟨pieces, same, four, apart, found⟩ := quad
  exact ⟨pieces, same, four, apart,
    mapM_some_iff.mpr ((mapM_some_iff.mp found).imp fun {_ _} => weaker _ _)⟩

theorem isQuad_iff {octet : Text → Option Nat} {text : Text} {octets : List Nat} :
    IsQuad octet text octets ↔ (text.splitOn '.').mapM octet = some octets ∧ octets.length = 4 := by
  constructor
  · rintro ⟨pieces, rfl, four, apart, found⟩
    have there : pieces ≠ [] := by
      rintro rfl
      cases four
    rw [splitOn_join there apart]
    exact ⟨found, (mapM_some_iff.mp found).length_eq.symm.trans four⟩
  · rintro ⟨found, four⟩
    refine ⟨text.splitOn '.', (join_splitOn '.' text).symm, ?_, ?_, found⟩
    · rw [(mapM_some_iff.mp found).length_eq, four]
    · exact fun piece member => not_mem_of_mem_splitOn member

theorem readQuad_iff {text : Text} {octets : List Nat} :
    readQuad text = some octets ↔ IsQuad readOctet text octets := by
  rw [isQuad_iff]
  unfold readQuad
  constructor
  · intro found
    split at found
    case h_1 values read =>
      split at found
      case isTrue four =>
        cases found
        exact ⟨read, four⟩
      case isFalse => cases found
    case h_2 => cases found
  · rintro ⟨found, four⟩
    rw [found]
    exact if_pos four

theorem IsQuad.chars {text : Text} {octets : List Nat} (quad : IsQuad readOctet text octets) :
    ∀ c ∈ text, isNumeralChar c = true := by
  obtain ⟨pieces, rfl, _, _, found⟩ := quad
  intro c member
  obtain rfl | ⟨piece, inside, there⟩ := mem_join member
  · decide
  · have each : ∀ piece ∈ pieces, ∃ value, readOctet piece = some value := by
      intro piece inside
      obtain ⟨i, here, rfl⟩ := List.mem_iff_getElem.mp inside
      exact ⟨_, (mapM_some_iff.mp found).get here ((mapM_some_iff.mp found).length_eq ▸ here)⟩
    obtain ⟨value, read⟩ := each piece inside
    exact number_chars (readOctet_number read).1 c there

theorem IsQuad.dotted {octet : Text → Option Nat} {text : Text} {octets : List Nat}
    (quad : IsQuad octet text octets) : '.' ∈ text := by
  obtain ⟨pieces, rfl, four, _, _⟩ := quad
  match pieces, four with
  | first :: second :: rest, _ =>
      rw [join_cons_cons]
      exact List.mem_append_right _ List.mem_cons_self

theorem IsQuad.not_mem {text : Text} {octets : List Nat} (quad : IsQuad readOctet text octets)
    {c : Char} (other : isNumeralChar c = false) : c ∉ text := by
  intro member
  rw [quad.chars c member] at other
  cases other

theorem IsQuad.piece {text : Text} {octets : List Nat} (quad : IsQuad readOctet text octets) :
    IsPiece text :=
  ⟨List.ne_nil_of_mem quad.dotted, quad.not_mem (by decide)⟩

/-! ## Groups -/

theorem mem_hexadecimal {pieces : List Text} {groups : List Nat}
    (found : pieces.mapM parseGroup = some groups) :
    ∀ piece ∈ pieces, ∃ group, parseGroup piece = some group := by
  intro piece inside
  obtain ⟨i, here, rfl⟩ := List.mem_iff_getElem.mp inside
  exact ⟨_, (mapM_some_iff.mp found).get here ((mapM_some_iff.mp found).length_eq ▸ here)⟩

theorem pieces_hexadecimal {pieces : List Text} {groups : List Nat}
    (found : pieces.mapM parseGroup = some groups) : ∀ piece ∈ pieces, IsPiece piece := by
  intro piece inside
  obtain ⟨group, here⟩ := mem_hexadecimal found piece inside
  exact parseGroup_piece here

theorem undotted_hexadecimal {pieces : List Text} {groups : List Nat}
    (found : pieces.mapM parseGroup = some groups) : ∀ piece ∈ pieces, '.' ∉ piece := by
  intro piece inside
  obtain ⟨group, here⟩ := mem_hexadecimal found piece inside
  exact not_mem_of_digits (parseGroup_digits here).2 (by decide)

theorem Groups.pieces {pieces : List Text} {groups : List Nat}
    (read : Groups readOctet pieces groups) : ∀ piece ∈ pieces, IsPiece piece := by
  cases read with
  | hexadecimal found => exact pieces_hexadecimal found
  | embedded found quad =>
      intro piece member
      obtain front | last := List.mem_append.mp member
      · exact pieces_hexadecimal found piece front
      · cases List.mem_singleton.mp last
        exact quad.piece

theorem Groups.imp {octet other : Text → Option Nat} {pieces : List Text} {groups : List Nat}
    (read : Groups octet pieces groups)
    (weaker : ∀ piece value, octet piece = some value → other piece = some value) :
    Groups other pieces groups := by
  cases read with
  | hexadecimal found => exact .hexadecimal found
  | embedded found quad => exact .embedded found (quad.imp weaker)

theorem takeQuad_spec {pieces rest : List Text} {groups : List Nat}
    (found : takeQuad pieces = some (rest, groups)) :
    (rest = pieces ∧ groups = []) ∨
      ∃ last a b c d, pieces = rest ++ [last] ∧ IsQuad readOctet last [a, b, c, d] ∧
        groups = [a * 256 + b, c * 256 + d] := by
  unfold takeQuad at found
  split at found
  case h_1 =>
    cases found
    exact .inl ⟨rfl, rfl⟩
  case h_2 last isLast =>
    split at found
    · split at found
      case h_1 a b c d read =>
        cases found
        refine .inr ⟨last, a, b, c, d, ?_, readQuad_iff.mp read, rfl⟩
        exact (List.dropLast_append_getLast? last isLast).symm
      case h_2 => cases found
    · cases found
      exact .inl ⟨rfl, rfl⟩

theorem takeQuad_hexadecimal {pieces : List Text} {groups : List Nat}
    (found : pieces.mapM parseGroup = some groups) : takeQuad pieces = some (pieces, []) := by
  unfold takeQuad
  cases isLast : pieces.getLast? with
  | none => rfl
  | some last =>
      have undotted := undotted_hexadecimal found last (List.mem_of_getLast? isLast)
      have absent : last.contains '.' = false := by
        rw [List.contains_eq_mem, decide_eq_false_iff_not]
        exact undotted
      simp only [absent, Bool.false_eq_true, if_false]

theorem takeQuad_embedded {pieces : List Text} {last : Text} {a b c d : Nat}
    (quad : IsQuad readOctet last [a, b, c, d]) :
    takeQuad (pieces ++ [last]) = some (pieces, [a * 256 + b, c * 256 + d]) := by
  have dotted : last.contains '.' = true := by
    rw [List.contains_eq_mem, decide_eq_true_iff]
    exact quad.dotted
  unfold takeQuad
  rw [List.getLast?_concat]
  simp only [dotted, if_true, readQuad_iff.mpr quad, List.dropLast_concat]

theorem Groups.of_takeQuad {pieces rest : List Text} {groups quads : List Nat}
    (taken : takeQuad pieces = some (rest, quads)) (found : rest.mapM parseGroup = some groups) :
    Groups readOctet pieces (groups ++ quads) := by
  obtain ⟨rfl, rfl⟩ | ⟨last, a, b, c, d, rfl, quad, rfl⟩ := takeQuad_spec taken
  · rw [List.append_nil]
    exact .hexadecimal found
  · exact .embedded found quad

theorem Groups.takeQuad {pieces : List Text} {groups : List Nat}
    (read : Groups readOctet pieces groups) :
    ∃ rest front quads, takeQuad pieces = some (rest, quads) ∧
      rest.mapM parseGroup = some front ∧ groups = front ++ quads := by
  cases read with
  | hexadecimal found =>
      exact ⟨pieces, groups, [], takeQuad_hexadecimal found, found, (List.append_nil _).symm⟩
  | embedded found quad => exact ⟨_, _, _, takeQuad_embedded quad, found, rfl⟩

/-! ## Double colons -/

theorem splitDouble_cons {c : Char} (other : c ≠ ':') (text : Text) :
    splitDouble (c :: text) =
      (splitDouble text).map fun sides => (c :: sides.1, sides.2) := by
  rw [splitDouble.eq_def]
  split
  case h_1 none => cases none
  case h_2 same =>
    cases same
    exact absurd rfl other
  case h_3 same =>
    cases same
    rfl

theorem splitDouble_piece {piece : Text} (apart : ':' ∉ piece) (rest : Text) :
    splitDouble (piece ++ rest) =
      (splitDouble rest).map fun sides => (piece ++ sides.1, sides.2) := by
  induction piece with
  | nil => simp
  | cons c more ih =>
      rw [List.mem_cons, not_or] at apart
      rw [List.cons_append, splitDouble_cons (Ne.symm apart.1), ih apart.2, Option.map_map]
      rfl

theorem splitDouble_single {c : Char} (other : c ≠ ':') (rest : Text) :
    splitDouble (':' :: c :: rest) =
      (splitDouble (c :: rest)).map fun sides => (':' :: sides.1, sides.2) := by
  rw [splitDouble.eq_def]
  split
  case h_1 none => cases none
  case h_2 same =>
    cases same
    exact absurd rfl other
  case h_3 same =>
    cases same
    rfl

theorem join_starts {pieces : List Text} (there : pieces ≠ [])
    (all : ∀ piece ∈ pieces, IsPiece piece) :
    ∃ c rest, join ':' pieces = c :: rest ∧ c ≠ ':' := by
  cases pieces with
  | nil => exact absurd rfl there
  | cons first more =>
      have here := all first List.mem_cons_self
      cases first with
      | nil => exact absurd rfl here.there
      | cons c tail =>
          have other : c ≠ ':' := fun same => here.apart (same ▸ List.mem_cons_self)
          cases more with
          | nil => exact ⟨c, tail, List.intercalate_singleton, other⟩
          | cons second others => exact ⟨c, _, join_cons_cons ':' (c :: tail) second others, other⟩

theorem splitDouble_join {pieces : List Text} (all : ∀ piece ∈ pieces, IsPiece piece)
    (rest : Text) :
    splitDouble (join ':' pieces ++ rest) =
      (splitDouble rest).map fun sides => (join ':' pieces ++ sides.1, sides.2) := by
  induction pieces with
  | nil => simp [join]
  | cons first more ih =>
      have here := all first List.mem_cons_self
      cases more with
      | nil =>
          rw [join, List.intercalate_singleton]
          exact splitDouble_piece here.apart rest
      | cons second others =>
          have others := fun piece member => all piece (List.mem_cons_of_mem _ member)
          obtain ⟨c, tail, starts, notColon⟩ := join_starts (List.cons_ne_nil _ _) others
          have later := ih others
          rw [starts, List.cons_append] at later
          rw [join_cons_cons, List.append_assoc, splitDouble_piece here.apart, List.cons_append,
            starts, List.cons_append, splitDouble_single notColon, later, Option.map_map,
            Option.map_map]
          congr 1
          funext sides
          simp

theorem splitDouble_join_nil {pieces : List Text} (all : ∀ piece ∈ pieces, IsPiece piece) :
    splitDouble (join ':' pieces) = none := by
  have split := splitDouble_join all []
  rwa [List.append_nil] at split

theorem splitDouble_join_double {pieces : List Text} (all : ∀ piece ∈ pieces, IsPiece piece)
    (rest : Text) :
    splitDouble (join ':' pieces ++ ':' :: ':' :: rest) = some (join ':' pieces, rest) := by
  rw [splitDouble_join all, splitDouble, Option.map_some, List.append_nil]

theorem splitDouble_colon_join {pieces : List Text} (all : ∀ piece ∈ pieces, IsPiece piece) :
    splitDouble (':' :: join ':' pieces) = none := by
  cases pieces with
  | nil => rfl
  | cons first rest =>
      obtain ⟨c, tail, starts, notColon⟩ := join_starts (List.cons_ne_nil first rest) all
      have none := splitDouble_join_nil all
      rw [starts] at none
      rw [starts, splitDouble_single notColon, none]
      rfl

theorem splitDouble_text {text before after : Text}
    (split : splitDouble text = some (before, after)) : text = before ++ ':' :: ':' :: after := by
  induction text generalizing before with
  | nil => cases split
  | cons c rest ih =>
      rw [splitDouble.eq_def] at split
      split at split
      case h_1 => cases split
      case h_2 same =>
        cases same
        cases split
        rfl
      case h_3 same =>
        cases same
        obtain ⟨⟨front, back⟩, here, sides⟩ := Option.map_eq_some_iff.mp split
        cases sides
        rw [ih here]
        rfl

theorem parts_join {pieces : List Text} (all : ∀ piece ∈ pieces, IsPiece piece) :
    parts (join ':' pieces) = pieces := by
  cases pieces with
  | nil => rfl
  | cons first rest =>
      obtain ⟨c, tail, starts, _⟩ := join_starts (List.cons_ne_nil first rest) all
      have there : join ':' (first :: rest) ≠ [] := by
        rw [starts]
        exact List.cons_ne_nil c tail
      rw [parts, if_neg there]
      exact splitOn_join (List.cons_ne_nil first rest) fun piece member => (all piece member).apart

theorem join_parts (text : Text) : join ':' (parts text) = text := by
  unfold parts
  split
  case isTrue empty =>
    rw [empty]
    rfl
  case isFalse => exact join_splitOn ':' text

/-! ## What the parser reads -/

theorem padded_some {headGroups tailGroups groups : List Nat}
    (found : padded headGroups tailGroups = some groups) :
    headGroups.length + tailGroups.length ≤ 7 ∧
      groups = headGroups ++ List.replicate (8 - (headGroups.length + tailGroups.length)) 0 ++
        tailGroups := by
  unfold padded at found
  simp only at found
  split at found
  · cases found
  case isFalse few =>
    cases found
    exact ⟨Nat.not_lt.mp few, rfl⟩

theorem padded_of_le {headGroups tailGroups : List Nat}
    (few : headGroups.length + tailGroups.length ≤ 7) :
    padded headGroups tailGroups =
      some (headGroups ++ List.replicate (8 - (headGroups.length + tailGroups.length)) 0 ++
        tailGroups) :=
  if_neg (Nat.not_lt.mpr few)

theorem parseGroups_sound {host : Text} {groups : List Nat} (found : parseGroups host = some groups) :
    Ipv6Form readOctet host groups ∨ QuadFirst host groups := by
  unfold parseGroups at found
  split at found
  case h_1 before after double =>
    split at found
    · cases found
    obtain ⟨⟨pieces, tailPieces, v4Tail⟩, taken, found⟩ := Option.bind_eq_some_iff.mp found
    obtain ⟨headGroups, readHead, found⟩ := Option.bind_eq_some_iff.mp found
    obtain ⟨tailGroups, readTail, found⟩ := Option.bind_eq_some_iff.mp found
    obtain ⟨few, rfl⟩ := padded_some found
    have text := splitDouble_text double
    rw [← join_parts before, ← join_parts after] at text
    unfold takeTail at taken
    split at taken
    case isTrue noTail =>
      obtain ⟨⟨front, quads⟩, quad, same⟩ := Option.map_eq_some_iff.mp taken
      cases same
      cases readTail
      rw [noTail] at text
      obtain ⟨rfl, rfl⟩ | ⟨last, a, b, c, d, whole, isQuad, rfl⟩ := takeQuad_spec quad
      · left
        rw [text]
        exact .compressed readHead (.hexadecimal rfl) few
      · right
        rw [whole] at text
        exact ⟨pieces, last, headGroups, a, b, c, d, text, readHead, isQuad, few, rfl⟩
    case isFalse =>
      obtain ⟨⟨back, quads⟩, quad, same⟩ := Option.map_eq_some_iff.mp taken
      cases same
      left
      rw [text]
      exact .compressed readHead (.of_takeQuad quad readTail) few
  case h_2 =>
    obtain ⟨⟨pieces, v4Tail⟩, taken, found⟩ := Option.bind_eq_some_iff.mp found
    obtain ⟨headGroups, readHead, found⟩ := Option.bind_eq_some_iff.mp found
    simp only at found
    split at found
    case isTrue eight =>
      cases found
      left
      rw [← join_splitOn ':' host]
      exact .full (.of_takeQuad taken readHead) eight
    case isFalse => cases found

theorem Groups.nil {groups : List Nat} (read : Groups readOctet [] groups) : groups = [] := by
  generalize none : ([] : List Text) = pieces at read
  cases read with
  | hexadecimal found =>
      rw [← none] at found
      cases found
      rfl
  | @embedded pieces groups last =>
      exact absurd none.symm (List.append_ne_nil_of_right_ne_nil pieces (List.cons_ne_nil last []))

theorem Groups.length_le {pieces : List Text} {groups : List Nat}
    (read : Groups readOctet pieces groups) : groups.length ≤ pieces.length + 1 := by
  cases read with
  | hexadecimal found =>
      rw [(mapM_some_iff.mp found).length_eq]
      exact Nat.le_succ _
  | embedded found quad =>
      rw [List.length_append, List.length_append, (mapM_some_iff.mp found).length_eq]
      exact le_refl _

theorem parseGroups_form {host : Text} {groups : List Nat} (form : Ipv6Form readOctet host groups) :
    parseGroups host = some groups := by
  cases form with
  | @full pieces _ read eight =>
      obtain ⟨rest, front, quads, taken, found, rfl⟩ := read.takeQuad
      have there : pieces ≠ [] := by
        rintro rfl
        rw [read.nil] at eight
        cases eight
      have split := splitOn_join there fun piece member => (read.pieces piece member).apart
      unfold parseGroups
      rw [splitDouble_join_nil read.pieces, split, taken]
      simp only [Option.bind_eq_bind, Option.bind_some, found, eight, if_true]
  | @compressed front back frontGroups backGroups readFront readBack few =>
      have pieces := pieces_hexadecimal readFront
      unfold parseGroups
      rw [splitDouble_join_double pieces]
      simp only [splitDouble_colon_join readBack.pieces, Option.isSome_none, Bool.false_eq_true,
        if_false, parts_join pieces, parts_join readBack.pieces]
      unfold takeTail
      split
      case isTrue noTail =>
        subst noTail
        cases readBack.nil
        simp only [takeQuad_hexadecimal readFront, Option.map_some, Option.bind_eq_bind,
          Option.bind_some, readFront, List.mapM_nil]
        exact padded_of_le few
      case isFalse =>
        obtain ⟨rest, tailGroups, quads, taken, found, rfl⟩ := readBack.takeQuad
        simp only [taken, Option.map_some, Option.bind_eq_bind, Option.bind_some, readFront, found]
        exact padded_of_le few

theorem parseGroups_quadFirst {host : Text} {groups : List Nat} (first : QuadFirst host groups) :
    parseGroups host = some groups := by
  obtain ⟨front, last, frontGroups, a, b, c, d, rfl, readFront, quad, few, rfl⟩ := first
  have pieces : ∀ piece ∈ front ++ [last], IsPiece piece := (Groups.embedded readFront quad).pieces
  unfold parseGroups
  rw [splitDouble_join_double pieces]
  have single : splitDouble [':'] = none := rfl
  have nothing : parts [] = [] := rfl
  simp only [single, Option.isSome_none, Bool.false_eq_true, if_false, parts_join pieces, nothing,
    takeTail, if_true, takeQuad_embedded quad, Option.map_some, Option.bind_eq_bind,
    Option.bind_some, readFront, List.mapM_nil]
  exact padded_of_le few

/-! ## Characters of a form -/

theorem Ipv6Form.imp {octet other : Text → Option Nat} {text : Text} {groups : List Nat}
    (form : Ipv6Form octet text groups)
    (weaker : ∀ piece value, octet piece = some value → other piece = some value) :
    Ipv6Form other text groups := by
  cases form with
  | full read eight => exact .full (read.imp weaker) eight
  | compressed readFront readBack few => exact .compressed readFront (readBack.imp weaker) few

theorem Groups.not_mem {pieces : List Text} {groups : List Nat} (read : Groups readOctet pieces groups)
    {c : Char} (noNumeral : isNumeralChar c = false) (noDigit : digitValue c = none) :
    ∀ piece ∈ pieces, c ∉ piece := by
  have hexadecimal : ∀ {pieces : List Text} {groups : List Nat},
      pieces.mapM parseGroup = some groups → ∀ piece ∈ pieces, c ∉ piece := by
    intro pieces groups found piece member
    obtain ⟨group, here⟩ := mem_hexadecimal found piece member
    exact not_mem_of_digits (parseGroup_digits here).2 noDigit
  cases read with
  | hexadecimal found => exact hexadecimal found
  | embedded found quad =>
      intro piece member
      obtain front | last := List.mem_append.mp member
      · exact hexadecimal found piece front
      · cases List.mem_singleton.mp last
        exact quad.not_mem noNumeral

theorem Ipv6Form.not_mem {text : Text} {groups : List Nat} (form : Ipv6Form readOctet text groups)
    {c : Char} (notColon : c ≠ ':') (noNumeral : isNumeralChar c = false)
    (noDigit : digitValue c = none) : c ∉ text := by
  have joined : ∀ {pieces : List Text} {groups : List Nat}, Groups readOctet pieces groups →
      c ∉ join ':' pieces := by
    intro pieces groups read member
    obtain same | ⟨piece, inside, there⟩ := mem_join member
    · exact notColon same
    · exact read.not_mem noNumeral noDigit piece inside there
  cases form with
  | full read eight => exact joined read
  | compressed readFront readBack few =>
      intro member
      rw [List.mem_append, List.mem_cons, List.mem_cons] at member
      obtain front | same | same | back := member
      · exact joined (.hexadecimal readFront) front
      · exact notColon same
      · exact notColon same
      · exact joined readBack back

theorem Ipv6Form.colon {text : Text} {groups : List Nat} (form : Ipv6Form readOctet text groups) :
    ':' ∈ text := by
  cases form with
  | compressed =>
      exact List.mem_append_right _ List.mem_cons_self
  | @full pieces _ read eight =>
      have many := read.length_le
      rw [eight] at many
      match pieces, many with
      | first :: second :: rest, _ =>
          rw [join_cons_cons]
          exact List.mem_append_right _ List.mem_cons_self

theorem QuadFirst.not_mem {text : Text} {groups : List Nat} (first : QuadFirst text groups)
    {c : Char} (notColon : c ≠ ':') (noNumeral : isNumeralChar c = false)
    (noDigit : digitValue c = none) : c ∉ text := by
  obtain ⟨front, last, frontGroups, a, b, c', d, rfl, readFront, quad, _, _⟩ := first
  intro member
  obtain joined | colons := List.mem_append.mp member
  · obtain same | ⟨piece, inside, there⟩ := mem_join joined
    · exact notColon same
    · exact (Groups.embedded readFront quad).not_mem noNumeral noDigit piece inside there
  · rw [List.mem_cons, List.mem_singleton, or_self] at colons
    exact notColon colons

theorem QuadFirst.not_form {text : Text} {groups others : List Nat} (first : QuadFirst text groups) :
    ¬Ipv6Form readOctet text others := by
  obtain ⟨front, last, frontGroups, a, b, c, d, same, readFront, quad, _, _⟩ := first
  have double := splitDouble_join_double (Groups.embedded readFront quad).pieces []
  rw [← same] at double
  intro form
  cases form with
  | full read eight =>
      rw [splitDouble_join_nil read.pieces] at double
      cases double
  | compressed readOther readBack few =>
      rw [splitDouble_join_double (pieces_hexadecimal readOther), Option.some.injEq,
        Prod.mk.injEq] at double
      have dotted : '.' ∈ join ':' (front ++ [last]) := mem_join_last quad.dotted front
      rw [← double.1] at dotted
      obtain colon | ⟨piece, inside, there⟩ := mem_join dotted
      · exact absurd colon (by decide)
      · exact undotted_hexadecimal readOther piece inside there

/-! ## Zones -/

theorem splitZone_text {text : Text} (plain : '%' ∉ text) : splitZone text = (text, none) := by
  induction text with
  | nil => rfl
  | cons c rest ih =>
      rw [List.mem_cons, not_or] at plain
      rw [splitZone, if_neg (Ne.symm plain.1), ih plain.2]

theorem splitZone_zone {text : Text} (plain : '%' ∉ text) (zone : Text) :
    splitZone (text ++ '%' :: zone) = (text, some zone) := by
  induction text with
  | nil => rfl
  | cons c rest ih =>
      rw [List.mem_cons, not_or] at plain
      rw [List.cons_append, splitZone, if_neg (Ne.symm plain.1), ih plain.2]

theorem splitZone_join (text : Text) :
    text = (splitZone text).1 ++ (match (splitZone text).2 with
      | none => []
      | some zone => '%' :: zone) := by
  induction text with
  | nil => rfl
  | cons c rest ih =>
      rw [splitZone]
      split
      case isTrue percent => rw [percent, List.nil_append]
      case isFalse => exact congrArg (List.cons c) ih

/-- The scope of what follows a host. -/
def scopeOf (read : Text → Nat) : Text → Nat
  | [] => 0
  | _ :: zone => read zone

theorem parseNetAddr_host {text rest : Text} {groups : List Nat} (port : Nat)
    (found : parseGroups text = some groups) (plain : '%' ∉ text) (colon : ':' ∈ text)
    (isZone : IsZone rest) :
    parseNetAddr (text ++ rest) port = .ok (.ipv6 port 0 groups (scopeOf readZone rest)) := by
  have isHost : (text ++ rest).contains ':' = true := by
    rw [List.contains_eq_mem, decide_eq_true_iff]
    exact List.mem_append_left _ colon
  unfold parseNetAddr parseIpv6Hostname
  rw [if_pos isHost]
  obtain rfl | ⟨zone, rfl⟩ := isZone
  · rw [List.append_nil, splitZone_text plain]
    simp only [found]
    rfl
  · rw [splitZone_zone plain]
    simp only [found]
    rfl

theorem percent_facts : '%' ≠ ':' ∧ isNumeralChar '%' = false ∧ digitValue '%' = none := by decide

theorem Ipv6Form.parse {text rest : Text} {groups : List Nat} (form : Ipv6Form readOctet text groups)
    (isZone : IsZone rest) (port : Nat) :
    parseNetAddr (text ++ rest) port = .ok (.ipv6 port 0 groups (scopeOf readZone rest)) :=
  parseNetAddr_host port (parseGroups_form form)
    (form.not_mem percent_facts.1 percent_facts.2.1 percent_facts.2.2) form.colon isZone

theorem QuadFirst.parse {text rest : Text} {groups : List Nat} (first : QuadFirst text groups)
    (isZone : IsZone rest) (port : Nat) :
    parseNetAddr (text ++ rest) port = .ok (.ipv6 port 0 groups (scopeOf readZone rest)) := by
  have colon : ':' ∈ text := by
    obtain ⟨front, last, _, _, _, _, _, rfl, _⟩ := first
    exact List.mem_append_right _ List.mem_cons_self
  exact parseNetAddr_host port (parseGroups_quadFirst first)
    (first.not_mem percent_facts.1 percent_facts.2.1 percent_facts.2.2) colon isZone

theorem IsQuad.parse {text : Text} {octets : List Nat} (quad : IsQuad readOctet text octets)
    (port : Nat) : parseNetAddr text port = .ok (.ipv4 port octets) := by
  have plain : text.contains ':' = false := by
    rw [List.contains_eq_mem, decide_eq_false_iff_not]
    exact quad.not_mem (by decide)
  unfold parseNetAddr
  rw [plain, if_neg Bool.false_ne_true, readQuad_iff.mpr quad]

theorem parseNetAddr_sound {text : Text} {port : Nat} {address : IpSocketAddress}
    (found : parseNetAddr text port = .ok address) :
    (∃ octets, IsQuad readOctet text octets ∧ address = .ipv4 port octets) ∨
      ∃ host rest groups, text = host ++ rest ∧ IsZone rest ∧
        (Ipv6Form readOctet host groups ∨ QuadFirst host groups) ∧
        address = .ipv6 port 0 groups (scopeOf readZone rest) := by
  unfold parseNetAddr at found
  split at found
  case isTrue =>
    right
    have whole := splitZone_join text
    split at found
    case h_1 groups scopeId parsed =>
      cases found
      unfold parseIpv6Hostname at parsed
      cases zoned : splitZone text with
      | mk host zone =>
          rw [zoned] at parsed whole
          obtain ⟨groups', read, same⟩ := Option.bind_eq_some_iff.mp parsed
          cases same
          cases zone with
          | none => exact ⟨host, [], _, whole, .inl rfl, parseGroups_sound read, rfl⟩
          | some zone => exact ⟨host, _, _, whole, .inr ⟨zone, rfl⟩, parseGroups_sound read, rfl⟩
    case h_2 => cases found
  case isFalse =>
    left
    split at found
    case h_1 octets read =>
      cases found
      exact ⟨octets, readQuad_iff.mp read, rfl⟩
    case h_2 => cases found

/-! ## Faithful reading -/

/-- The zone in what follows a host. -/
def zoneOf : Text → Option Text
  | [] => none
  | _ :: zone => some zone

theorem Ipv6Form.read {text : Text} {groups : List Nat} (form : Ipv6Form decimalOctet text groups) :
    Ipv6Form readOctet text groups :=
  form.imp fun _ _ => readOctet_of_decimal

theorem Ipv6Form.percent {text : Text} {groups : List Nat} (form : Ipv6Form readOctet text groups) :
    '%' ∉ text :=
  form.not_mem percent_facts.1 percent_facts.2.1 percent_facts.2.2

theorem QuadFirst.percent {text : Text} {groups : List Nat} (first : QuadFirst text groups) :
    '%' ∉ text :=
  first.not_mem percent_facts.1 percent_facts.2.1 percent_facts.2.2

theorem Denotes.form {port otherPort flowInfo scopeId : Nat} {host rest : Text} {groups : List Nat}
    (plain : '%' ∉ host) (isZone : IsZone rest)
    (denotes : Denotes port (host ++ rest) (.ipv6 otherPort flowInfo groups scopeId)) :
    Ipv6Form decimalOctet host groups ∧ rest ≠ ['%'] ∧ scopeId = scopeOf decimalZone rest := by
  generalize same : host ++ rest = text at denotes
  have split : splitZone text = (host, zoneOf rest) := by
    rw [← same]
    obtain rfl | ⟨zone, rfl⟩ := isZone
    · rw [List.append_nil, splitZone_text plain]
      rfl
    · exact splitZone_zone plain zone
  cases denotes with
  | ipv6 form =>
      rw [splitZone_text form.read.percent] at split
      cases isZone with
      | inl none =>
          subst none
          rw [List.append_nil] at same
          exact ⟨same ▸ form, (List.cons_ne_nil _ _).symm, rfl⟩
      | inr some =>
          obtain ⟨zone, rfl⟩ := some
          cases split
  | zoned form there =>
      rw [splitZone_zone form.read.percent] at split
      cases isZone with
      | inl none =>
          subst none
          cases split
      | inr some =>
          obtain ⟨zone, rfl⟩ := some
          cases split
          exact ⟨form, fun empty => there (List.cons.inj empty).2, rfl⟩

theorem denotes_of_read {port : Nat} {text : Text} {address : IpSocketAddress}
    (notMisread : ¬Misread text) (found : parseNetAddr text port = .ok address) :
    (∃ octets, IsQuad decimalOctet text octets ∧ address = .ipv4 port octets) ∨
      ∃ host rest groups, text = host ++ rest ∧ IsZone rest ∧ rest ≠ ['%'] ∧
        Ipv6Form decimalOctet host groups ∧
        address = .ipv6 port 0 groups (scopeOf readZone rest) := by
  obtain ⟨octets, quad, rfl⟩ | ⟨host, rest, groups, rfl, isZone, form | first, rfl⟩ :=
    parseNetAddr_sound found
  · left
    have decimal : IsQuad decimalOctet text octets := by
      by_contra other
      exact notMisread (.quad quad (quad.not_mem (by decide)) other)
    exact ⟨octets, decimal, rfl⟩
  · right
    refine ⟨host, rest, groups, rfl, isZone, ?_, ?_, rfl⟩
    · rintro rfl
      exact notMisread (.emptyZone form)
    · by_contra other
      exact notMisread (.embedded form other isZone)
  · exact absurd (.quadFirst first isZone) notMisread

theorem read_of_denotes {port : Nat} {text : Text} {address : IpSocketAddress}
    (denotes : Denotes port text address) :
    parseNetAddr text port = .ok address ∨
      ∃ host zone groups, text = host ++ '%' :: zone ∧ Ipv6Form readOctet host groups ∧
        address = .ipv6 port 0 groups (decimalZone zone) := by
  cases denotes with
  | ipv4 quad => exact .inl ((quad.imp fun _ _ => readOctet_of_decimal).parse port)
  | ipv6 form =>
      left
      have read := form.read.parse (.inl rfl) port
      rwa [List.append_nil] at read
  | zoned form there => exact .inr ⟨_, _, _, rfl, form.read, rfl⟩

theorem Misread.not_denotes {text : Text} (misread : Misread text) (port : Nat) :
    ∃ address, parseNetAddr text port = .ok address ∧ ∀ other : IpSocketAddress,
      other.kind = address.kind → other.address = address.address → ¬Denotes port text other := by
  -- An address of version 6 with the groups that are read has the host for its form.
  have formed : ∀ {host rest : Text} {groups : List Nat} {other : IpSocketAddress}, '%' ∉ host →
      IsZone rest → other.kind = .ipv6 → other.address = groups → Denotes port (host ++ rest) other →
      Ipv6Form decimalOctet host groups ∧ rest ≠ ['%'] := by
    intro host rest groups other plain isZone kind same denotes
    cases other with
    | ipv4 => cases kind
    | ipv6 =>
        cases same
        obtain ⟨form, named, _⟩ := denotes.form plain isZone
        exact ⟨form, named⟩
  cases misread with
  | quad quad _ notDecimal =>
      refine ⟨_, quad.parse port, fun other kind same denotes => ?_⟩
      cases denotes with
      | ipv4 decimal =>
          cases same
          exact notDecimal decimal
      | ipv6 => cases kind
      | zoned => cases kind
  | embedded form notDecimal isZone =>
      refine ⟨_, form.parse isZone port, fun other kind same denotes => ?_⟩
      exact notDecimal (formed form.percent isZone kind same denotes).1
  | quadFirst first isZone =>
      refine ⟨_, first.parse isZone port, fun other kind same denotes => ?_⟩
      exact first.not_form (formed first.percent isZone kind same denotes).1.read
  | emptyZone form =>
      refine ⟨_, form.parse (.inr ⟨[], rfl⟩) port, fun other kind same denotes => ?_⟩
      exact (formed form.percent (.inr ⟨[], rfl⟩) kind same denotes).2 rfl

theorem readFaithfully_iff {port : Nat} {text : Text} :
    ReadFaithfully port text ↔ ¬Misread text ∧ ¬MisreadZone text := by
  constructor
  · intro faithful
    constructor
    · intro misread
      obtain ⟨address, found, none⟩ := misread.not_denotes port
      exact none address rfl rfl ((faithful address).mp found)
    · rintro (@⟨host, zone, groups, form, differs⟩)
      have isZone : IsZone ('%' :: zone) := .inr ⟨zone, rfl⟩
      have found := form.parse isZone port
      exact differs (((faithful _).mp found).form form.percent isZone).2.2
  · rintro ⟨notMisread, notMisreadZone⟩ address
    constructor
    · intro found
      obtain ⟨octets, quad, rfl⟩ | ⟨host, rest, groups, rfl, isZone, named, form, rfl⟩ :=
        denotes_of_read notMisread found
      · exact .ipv4 quad
      · obtain rfl | ⟨zone, rfl⟩ := isZone
        · rw [List.append_nil]
          exact .ipv6 form
        · have same : readZone zone = decimalZone zone := by
            by_contra differs
            exact notMisreadZone (.mk form.read differs)
          have there : zone ≠ [] := by
            rintro rfl
            exact named rfl
          rw [scopeOf, same]
          exact .zoned form there
    · intro denotes
      obtain found | ⟨host, zone, groups, rfl, form, rfl⟩ := read_of_denotes denotes
      · exact found
      · have same : readZone zone = decimalZone zone := by
          by_contra differs
          exact notMisreadZone (.mk form differs)
        rw [← same]
        exact form.parse (.inr ⟨zone, rfl⟩) port

/-! ## Rendering -/

/-- The tuples of the interface. -/
def IsAddress : IpSocketAddress → Prop
  | .ipv4 _ address => address.length = 4 ∧ ∀ octet ∈ address, octet < 2 ^ 8
  | .ipv6 _ _ address _ => address.length = 8 ∧ ∀ group ∈ address, group < 2 ^ 16

theorem decimalOctet_toDigits {octet : Nat} (small : octet < 2 ^ 8) :
    decimalOctet (Nat.toDigits 10 octet) = some octet := by
  have value : natOf (Nat.toDigits 10 octet) = octet := Nat.ofDigitChars_ten_toDigits
  have digits : (Nat.toDigits 10 octet).all Char.isDigit = true := by
    rw [List.all_eq_true]
    exact fun c member => Nat.isDigit_of_mem_toDigits (by decide) (by decide) member
  unfold decimalOctet
  rw [value, if_pos ⟨Nat.toDigits_ne_nil, digits, by omega⟩]

theorem radixValue_toDigits (value : Nat) : radixValue 16 (Nat.toDigits 16 value) = some value := by
  induction value using Nat.strongRecOn with
  | ind value ih =>
      have one : ∀ digit < 16, digitValue (Nat.digitChar digit) = some digit := by decide
      have last : value % 16 < 16 := Nat.mod_lt _ (by decide)
      by_cases small : value < 16
      · rw [Nat.toDigits_of_lt_base small, radixValue, List.foldlM_cons, one value small]
        simp [small]
      · have whole : 16 * (value / 16) + value % 16 = value := Nat.div_add_mod value 16
        have shorter : value / 16 < value := by omega
        have digits := Nat.toDigits_append_toDigits (by decide : 1 < 16)
          (by omega : 0 < value / 16) last
        rw [whole] at digits
        have front := ih (value / 16) shorter
        unfold radixValue at front ⊢
        rw [← digits, List.foldlM_append, front, Nat.toDigits_of_lt_base last]
        simp only [Option.bind_eq_bind, Option.bind_some, List.foldlM_cons, List.foldlM_nil,
          one (value % 16) last, last, if_true, Option.pure_def]
        rw [Nat.mul_comm, whole]

theorem parseGroup_toDigits {group : Nat} (small : group < 2 ^ 16) :
    parseGroup (Nat.toDigits 16 group) = some group := by
  have short : (Nat.toDigits 16 group).length ≤ 4 :=
    (Nat.length_toDigits_le_iff (by decide) (by decide)).mpr small
  have there : (Nat.toDigits 16 group).length ≠ 0 := by
    intro none
    exact Nat.toDigits_ne_nil (List.length_eq_zero_iff.mp none)
  unfold parseGroup
  rw [if_neg (by omega)]
  exact radixValue_toDigits group

theorem mapM_map_some {render : Nat → Text} {read : Text → Option Nat} {values : List Nat}
    (each : ∀ value ∈ values, read (render value) = some value) :
    (values.map render).mapM read = some values := by
  rw [mapM_some_iff, List.forall₂_map_left_iff, List.forall₂_same]
  exact each

theorem isQuad_ipHostname {octets : List Nat} (four : octets.length = 4)
    (small : ∀ octet ∈ octets, octet < 2 ^ 8) :
    IsQuad decimalOctet (join '.' (octets.map (Nat.toDigits 10))) octets := by
  refine ⟨_, rfl, (List.length_map _).trans four, ?_, ?_⟩
  · intro piece member dot
    obtain ⟨octet, _, rfl⟩ := List.mem_map.mp member
    exact absurd (Nat.isDigit_of_mem_toDigits (by decide) (by decide) dot) (by decide)
  · exact mapM_map_some fun octet member => decimalOctet_toDigits (small octet member)

theorem parseNetAddr_ipHostname {address : IpSocketAddress} (isAddress : IsAddress address) :
    parseNetAddr (ipHostname address) address.port =
      .ok (match address with
        | .ipv4 port octets => .ipv4 port octets
        | .ipv6 port _ groups _ => .ipv6 port 0 groups 0) := by
  cases address with
  | ipv4 port octets =>
      have quad := isQuad_ipHostname isAddress.1 isAddress.2
      exact (quad.imp fun _ _ => readOctet_of_decimal).parse port
  | ipv6 port flowInfo groups scopeId =>
      have found : (groups.map (Nat.toDigits 16)).mapM parseGroup = some groups :=
        mapM_map_some fun group member => parseGroup_toDigits (isAddress.2 group member)
      have form : Ipv6Form readOctet (ipHostname (.ipv6 port flowInfo groups scopeId)) groups :=
        .full (.hexadecimal found) isAddress.1
      have read := form.parse (.inl rfl) port
      rwa [List.append_nil] at read

/-! ## Names -/

/-- An address text, optionally in brackets. -/
def IsLiteral (name : Text) (address : IpSocketAddress) : Prop :=
  Denotes 0 name address ∨ ∃ text, name = '[' :: text ++ [']'] ∧ Denotes 0 text address

/-- A name is answered with the address that it is, and is left to the resolver if it is none. -/
def ResolvedFaithfully (name : Text) : Prop :=
  (∀ kind address, resolveAddresses name = .literal kind address ↔
    ∃ literal, IsLiteral name literal ∧ literal.kind = kind ∧ literal.address = address) ∧
  (name ≠ [] → (∀ literal, ¬IsLiteral name literal) → resolveAddresses name = .resolver name)

/-- A name that is answered without being a literal: it is misread, or an opening bracket before an
address is not closed. -/
inductive MisreadName : Text → Prop where
  | bare {name : Text} : name.head? ≠ some '[' → Misread name → MisreadName name
  | bracketed {text : Text} : Misread text → MisreadName ('[' :: text ++ [']'])
  | unmatched {name : Text} : name.head? = some '[' → name.getLast? ≠ some ']' →
      (Misread (sliceEnds name) ∨ ∃ address, Denotes 0 (sliceEnds name) address) → MisreadName name

theorem head_ne_bracket {text : Text} (absent : '[' ∉ text) (there : text ≠ []) (rest : Text) :
    (text ++ rest).head? ≠ some '[' := by
  cases text with
  | nil => exact absurd rfl there
  | cons c more =>
      intro same
      cases same
      exact absent List.mem_cons_self

theorem Denotes.head {port : Nat} {text : Text} {address : IpSocketAddress}
    (denotes : Denotes port text address) : text.head? ≠ some '[' := by
  have formed : ∀ {text : Text} {groups : List Nat}, Ipv6Form decimalOctet text groups → ∀ rest,
      (text ++ rest).head? ≠ some '[' := by
    intro text groups form
    exact head_ne_bracket (form.read.not_mem (by decide) (by decide) (by decide))
      (List.ne_nil_of_mem form.read.colon)
  cases denotes with
  | ipv4 quad =>
      have read := quad.imp fun _ _ => readOctet_of_decimal
      have head := head_ne_bracket (read.not_mem (by decide)) read.piece.there []
      rwa [List.append_nil] at head
  | ipv6 form =>
      have head := formed form []
      rwa [List.append_nil] at head
  | zoned form there => exact formed form _

theorem Denotes.of_parsed {port : Nat} {text : Text} {parsed : IpSocketAddress}
    (notMisread : ¬Misread text) (found : parseNetAddr text port = .ok parsed) :
    ∃ literal, Denotes port text literal ∧ literal.kind = parsed.kind ∧
      literal.address = parsed.address := by
  obtain ⟨octets, quad, rfl⟩ | ⟨host, rest, groups, rfl, isZone, named, form, rfl⟩ :=
    denotes_of_read notMisread found
  · exact ⟨_, .ipv4 quad, rfl, rfl⟩
  · obtain rfl | ⟨zone, rfl⟩ := isZone
    · rw [List.append_nil]
      exact ⟨_, .ipv6 form, rfl, rfl⟩
    · have there : zone ≠ [] := by
        rintro rfl
        exact named rfl
      exact ⟨_, .zoned form there, rfl, rfl⟩

theorem Denotes.parsed {port : Nat} {text : Text} {literal : IpSocketAddress}
    (denotes : Denotes port text literal) :
    ∃ parsed, parseNetAddr text port = .ok parsed ∧ parsed.kind = literal.kind ∧
      parsed.address = literal.address := by
  obtain found | ⟨host, zone, groups, rfl, form, rfl⟩ := read_of_denotes denotes
  · exact ⟨literal, found, rfl, rfl⟩
  · exact ⟨_, form.parse (.inr ⟨zone, rfl⟩) port, rfl, rfl⟩

theorem sliceEnds_bracketed (text : Text) : sliceEnds ('[' :: text ++ [']']) = text := by
  unfold sliceEnds
  rw [List.cons_append, List.tail_cons, List.getLast?_concat]
  simp only [List.dropLast_concat]
  exact if_neg (by decide)

theorem bare_bracketed (text : Text) :
    (if ('[' :: text ++ [']']).head? = some '[' then sliceEnds ('[' :: text ++ [']'])
      else '[' :: text ++ [']']) = text := by
  rw [List.cons_append, List.head?_cons, if_pos rfl]
  exact sliceEnds_bracketed text

theorem resolveAddresses_literal {name : Text} {kind : IpAddressFamily} {address : List Nat} :
    resolveAddresses name = .literal kind address ↔
      ∃ parsed, parseNetAddr (if name.head? = some '[' then sliceEnds name else name) 0 = .ok parsed ∧
        parsed.kind = kind ∧ parsed.address = address := by
  unfold resolveAddresses
  split
  case isTrue empty =>
    subst empty
    have refused : parseNetAddr [] 0 = .error ⟨.ipv4, []⟩ := by decide
    simp [refused]
  case isFalse =>
    simp only
    cases parseNetAddr (if name.head? = some '[' then sliceEnds name else name) 0 with
    | error failure => simp
    | ok parsed => simp

theorem bracketed_of_ends {name : Text} (first : name.head? = some '[')
    (last : name.getLast? = some ']') : ∃ text, name = '[' :: text ++ [']'] := by
  cases name with
  | nil => cases first
  | cons c rest =>
      cases first
      cases rest with
      | nil => cases last
      | cons d more =>
          rw [List.getLast?_cons_cons] at last
          exact ⟨(d :: more).dropLast, congrArg (List.cons '[') (List.dropLast_append_getLast? ']' last).symm⟩

theorem resolveAddresses_cases {name : Text} (there : name ≠ []) :
    (∃ kind address, resolveAddresses name = .literal kind address) ∨
      resolveAddresses name = .resolver name := by
  unfold resolveAddresses
  rw [if_neg there]
  simp only
  split
  · exact .inl ⟨_, _, rfl⟩
  · exact .inr rfl

theorem resolvedFaithfully_iff {name : Text} : ResolvedFaithfully name ↔ ¬MisreadName name := by
  constructor
  · rintro ⟨faithful, _⟩ misread
    -- The parser reads the bare name, so the name is a literal of the same address.
    have literal : ∀ parsed,
        parseNetAddr (if name.head? = some '[' then sliceEnds name else name) 0 = .ok parsed →
        ∃ literal, IsLiteral name literal ∧ literal.kind = parsed.kind ∧
          literal.address = parsed.address := by
      intro parsed found
      exact (faithful _ _).mp (resolveAddresses_literal.mpr ⟨parsed, found, rfl, rfl⟩)
    cases misread with
    | bare head misread =>
        obtain ⟨parsed, found, none⟩ := misread.not_denotes 0
        rw [if_neg head] at literal
        obtain ⟨address, denotes | ⟨text, rfl, _⟩, kind, same⟩ := literal parsed found
        · exact none address kind same denotes
        · exact head rfl
    | @bracketed text misread =>
        obtain ⟨parsed, found, none⟩ := misread.not_denotes 0
        rw [bare_bracketed] at literal
        obtain ⟨address, denotes | ⟨inner, same, denotes⟩, kind, sameAddress⟩ := literal parsed found
        · exact denotes.head rfl
        · have inside : text = inner := List.append_cancel_right (List.cons.inj same).2
          subst inside
          exact none address kind sameAddress denotes
    | unmatched head last read =>
        rw [if_pos head] at literal
        have parsed : ∃ parsed, parseNetAddr (sliceEnds name) 0 = .ok parsed := by
          obtain misread | ⟨address, denotes⟩ := read
          · obtain ⟨parsed, found, _⟩ := misread.not_denotes 0
            exact ⟨parsed, found⟩
          · obtain ⟨parsed, found, _⟩ := denotes.parsed
            exact ⟨parsed, found⟩
        obtain ⟨parsed, found⟩ := parsed
        obtain ⟨address, denotes | ⟨inner, rfl, _⟩, _⟩ := literal parsed found
        · exact denotes.head head
        · exact last List.getLast?_concat
  · intro notMisread
    have faithful : ∀ kind address, resolveAddresses name = .literal kind address ↔
        ∃ literal, IsLiteral name literal ∧ literal.kind = kind ∧ literal.address = address := by
      intro kind address
      rw [resolveAddresses_literal]
      constructor
      · rintro ⟨parsed, found, rfl, rfl⟩
        by_cases head : name.head? = some '['
        · by_cases last : name.getLast? = some ']'
          · obtain ⟨text, rfl⟩ := bracketed_of_ends head last
            rw [bare_bracketed] at found
            obtain ⟨literal, denotes, same⟩ :=
              Denotes.of_parsed (fun misread => notMisread (.bracketed misread)) found
            exact ⟨literal, .inr ⟨text, rfl, denotes⟩, same⟩
          · rw [if_pos head] at found
            have notRead : ¬Misread (sliceEnds name) := fun misread =>
              notMisread (.unmatched head last (.inl misread))
            obtain ⟨literal, denotes, _⟩ := Denotes.of_parsed notRead found
            exact absurd (.unmatched head last (.inr ⟨literal, denotes⟩)) notMisread
        · rw [if_neg head] at found
          obtain ⟨literal, denotes, same⟩ :=
            Denotes.of_parsed (fun misread => notMisread (.bare head misread)) found
          exact ⟨literal, .inl denotes, same⟩
      · rintro ⟨literal, denotes | ⟨text, rfl, denotes⟩, rfl, rfl⟩
        · rw [if_neg denotes.head]
          exact denotes.parsed
        · rw [bare_bracketed]
          exact denotes.parsed
    refine ⟨faithful, fun there none => ?_⟩
    obtain ⟨kind, address, resolved⟩ | resolved := resolveAddresses_cases there
    · obtain ⟨literal, isLiteral, _⟩ := (faithful kind address).mp resolved
      exact absurd isLiteral (none literal)
    · exact resolved

/-- A host and a port without flow information and scope. -/
def IsPlain : IpSocketAddress → Prop
  | .ipv4 _ _ => True
  | .ipv6 _ flowInfo _ scopeId => flowInfo = 0 ∧ scopeId = 0

/-- A plain address is read back from its text; a text is read as what it denotes, and a name resolved as
what it is, exactly where they are not misread. -/
theorem address_text_faithful (address : IpSocketAddress) (port : Nat) (text name : Text) :
    (IsAddress address → IsPlain address →
      parseNetAddr (ipHostname address) address.port = .ok address) ∧
    (ReadFaithfully port text ↔ ¬Misread text ∧ ¬MisreadZone text) ∧
    (ResolvedFaithfully name ↔ ¬MisreadName name) := by
  refine ⟨fun isAddress plain => ?_, readFaithfully_iff, resolvedFaithfully_iff⟩
  rw [parseNetAddr_ipHostname isAddress]
  cases address with
  | ipv4 => rfl
  | ipv6 port flowInfo groups scopeId =>
      obtain ⟨rfl, rfl⟩ := plain
      rfl

/-- The loopback address. -/
theorem address_text_loopback :
    parseNetAddr (ipHostname (.ipv4 80 [127, 0, 0, 1])) 80 = .ok (.ipv4 80 [127, 0, 0, 1]) :=
  (address_text_faithful (.ipv4 80 [127, 0, 0, 1]) 0 [] []).1 ⟨rfl, by decide⟩ trivial

/-- Three dots are read as an address, a quad before `::` is read after it, and a bracket that is not
closed is dropped with the last character. -/
theorem address_text_misread :
    ¬ReadFaithfully 0 "...".toList ∧
      parseNetAddr "1.2.3.4::".toList 0 = .ok (.ipv6 0 0 [0, 0, 0, 0, 0, 0, 0x102, 0x304] 0) ∧
      resolveAddresses "[::1x".toList = .literal .ipv6 [0, 0, 0, 0, 0, 0, 0, 1] := by
  refine ⟨fun faithful => ?_, by decide +kernel, by decide⟩
  have found : parseNetAddr "...".toList 0 = .ok (.ipv4 0 [0, 0, 0, 0]) := by decide
  generalize same : "...".toList = text at faithful found
  cases (faithful _).mp found with
  | ipv4 quad =>
      rw [isQuad_iff, ← same] at quad
      revert quad
      decide

end Polyengine.Wasi.Sockets.Hostname
