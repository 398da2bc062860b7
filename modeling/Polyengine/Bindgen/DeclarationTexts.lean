import Polyengine.Bindgen.Declarations

/-!
# The names in generated texts

Which WIT types a generated text names: those that the written types mention, in every position, and
each under the identifier of its name.
-/

set_option autoImplicit false

namespace Polyengine.Bindgen.Declarations

open Polyengine.Cabi Polyengine.Library

variable (resolve : Resolve)

def ident? (id : TypeId) : Option String := (resolve.types id).name.map tsIdent

def TypeDefKind.named (id : TypeId) : TypeDefKind → List TypeId
  | .record _ | .variant _ | .enum _ | .flags _ => [id]
  | .handle _ target => [target]
  | _ => []

inductive Mentions : Ty → TypeId → Prop where
  | here {id other : TypeId} : other ∈ (resolve.types id).kind.named id → Mentions (.id id) other
  | part {id other : TypeId} {part : Ty} : part ∈ (resolve.types id).kind.inline →
      Mentions part other → Mentions (.id id) other

structure Writes (text : Text) (types : TypeId → Prop) : Prop where
  sound : ∀ ident id, .name ident id ∈ text → types id ∧ ident? resolve id = some ident
  complete : ∀ id, types id → ∃ ident, .name ident id ∈ text

variable {resolve}

namespace Writes

variable {text text' : Text} {types types' : TypeId → Prop}

theorem congr (writes : Writes resolve text types) (same : ∀ id, types id ↔ types' id) :
    Writes resolve text types' where
  sound := by
    intro ident id member
    rw [← same id]
    exact writes.sound ident id member
  complete := by
    intro id mentioned
    exact writes.complete id ((same id).mpr mentioned)

/-- Only the names matter, and not their order. -/
theorem reorder (writes : Writes resolve text types)
    (same : ∀ ident id, .name ident id ∈ text ↔ .name ident id ∈ text') :
    Writes resolve text' types where
  sound := by
    intro ident id member
    exact writes.sound ident id ((same ident id).mpr member)
  complete := by
    intro id mentioned
    obtain ⟨ident, member⟩ := writes.complete id mentioned
    exact ⟨ident, (same ident id).mp member⟩

theorem nil : Writes resolve [] fun _ => False where
  sound := by
    intro ident id member
    cases member
  complete := by
    intro id none
    exact none.elim

theorem cons_text (writes : Writes resolve text types) (prefixText : String) :
    Writes resolve (.text prefixText :: text) types where
  sound := by
    intro ident id member
    cases member with
    | tail _ member => exact writes.sound ident id member
  complete := by
    intro id mentioned
    obtain ⟨ident, member⟩ := writes.complete id mentioned
    exact ⟨ident, List.mem_cons_of_mem _ member⟩

theorem append (writes : Writes resolve text types) (writes' : Writes resolve text' types') :
    Writes resolve (text ++ text') fun id => types id ∨ types' id where
  sound := by
    intro ident id member
    rcases List.mem_append.mp member with member | member
    · exact (writes.sound ident id member).imp_left .inl
    · exact (writes'.sound ident id member).imp_left .inr
  complete := by
    rintro id (mentioned | mentioned)
    · obtain ⟨ident, member⟩ := writes.complete id mentioned
      exact ⟨ident, List.mem_append_left _ member⟩
    · obtain ⟨ident, member⟩ := writes'.complete id mentioned
      exact ⟨ident, List.mem_append_right _ member⟩

theorem append_text (writes : Writes resolve text types) (suffixText : String) :
    Writes resolve (text ++ [.text suffixText]) types :=
  (writes.append (nil.cons_text suffixText)).congr fun _ => or_iff_left id

theorem of_nameText {id : TypeId} {context : String} {token : Token}
    (named : resolve.nameText id context = .ok token) : Writes resolve [token] (· = id) := by
  unfold Resolve.nameText at named
  split at named
  · rename_i name present
    cases named
    constructor
    · intro ident other member
      cases List.mem_singleton.mp member
      refine ⟨rfl, ?_⟩
      rw [ident?, present]
      rfl
    · rintro other rfl
      exact ⟨_, List.mem_singleton_self _⟩
  · cases named

/-- The texts of a list, one after another. -/
theorem flatten {Source : Type} {mentioned : Source → TypeId → Prop} {sources : List Source}
    {texts : List Text}
    (all : List.Forall₂ (fun source text => Writes resolve text (mentioned source)) sources texts) :
    Writes resolve texts.flatten fun id => ∃ source ∈ sources, mentioned source id := by
  induction all with
  | nil => exact nil.congr fun id => by simp
  | cons first _ ih =>
      rw [List.flatten_cons]
      exact (first.append ih).congr fun id => by simp

theorem joined {Source : Type} {mentioned : Source → TypeId → Prop} {sources : List Source}
    {texts : List Text} (separator : String)
    (all : List.Forall₂ (fun source text => Writes resolve text (mentioned source)) sources texts) :
    Writes resolve (joined separator texts) fun id => ∃ source ∈ sources, mentioned source id := by
  unfold Declarations.joined
  induction all with
  | nil => exact nil.congr fun id => by simp
  | @cons source text rest texts first later ih =>
      cases later with
      | nil =>
          rw [List.intersperse_singleton, List.flatten_singleton]
          exact first.congr fun id => by simp
      | cons second later =>
          rw [List.intersperse_cons_cons, List.flatten_cons, List.flatten_cons]
          exact (first.append (ih.cons_text separator)).congr fun id => by simp

end Writes

/-! ## Types -/

theorem mem_intersperse {Item : Type} {separator item : Item} {items : List Item}
    (member : item ∈ items) : item ∈ items.intersperse separator := by
  induction items with
  | nil => cases member
  | cons first rest ih =>
      cases rest with
      | nil => exact member
      | cons second rest =>
          rw [List.intersperse_cons_cons, List.mem_cons, List.mem_cons]
          rcases List.mem_cons.mp member with same | later
          · exact .inl same
          · exact .inr (.inr (ih later))

/-- Every component that is written in the text of a type is a piece of it, but for the bytes of
their list. -/
theorem piece_of_mem_inline {position : Position} {id : TypeId} {kind : TypeDefKind} {type : Ty}
    (inline : type ∈ kind.inline) :
    (∃ inner, .type inner type ∈ pieces position id kind) ∨ type = .prim .u8 := by
  cases kind with
  | tuple types =>
      refine .inl ⟨.value, List.mem_cons_of_mem _ (List.mem_append_left _ (mem_intersperse ?_))⟩
      exact List.mem_map_of_mem inline
  | result ok err =>
      refine .inl ⟨.value, ?_⟩
      have present : ok = some type ∨ err = some type := by
        simpa [TypeDefKind.inline, TypeDefKind.parts, TypeDefKind.walked, eq_comm] using inline
      simp only [pieces, List.mem_cons, reduceCtorEq, List.mem_append, List.not_mem_nil, or_false,
        false_or, armPieces_type, true_and]
      exact present
  | future payload | stream payload =>
      refine .inl ⟨.value, ?_⟩
      simp only [pieces, List.mem_cons, reduceCtorEq, List.mem_append, List.not_mem_nil, or_false,
        false_or, payloadPieces_type, true_and]
      exact Option.mem_toList.mp inline
  | list element =>
      unfold pieces
      split <;> simp_all [TypeDefKind.inline, TypeDefKind.parts, TypeDefKind.walked]
  | option payload =>
      cases position <;>
        simp_all [pieces, TypeDefKind.inline, TypeDefKind.parts, TypeDefKind.walked]
  | map key value =>
      have present := List.mem_pair.mp inline
      refine .inl ⟨.value, ?_⟩
      simpa [pieces] using present
  | _ => simp_all [pieces, TypeDefKind.inline, TypeDefKind.parts, TypeDefKind.walked]

theorem name_piece {position : Position} {id other : TypeId} {kind : TypeDefKind} :
    (∃ context, .name other context ∈ pieces position id kind) ↔ other ∈ kind.named id := by
  cases kind with
  | tuple types =>
      simp only [pieces, TypeDefKind.named, List.not_mem_nil, iff_false, List.mem_cons, reduceCtorEq,
        List.mem_append, or_false, false_or]
      rintro ⟨context, member⟩
      rcases mem_of_mem_intersperse member with separator | member
      · cases separator
      · obtain ⟨_, _, same⟩ := List.mem_map.mp member
        cases same
  | result ok err => cases ok <;> cases err <;> simp [pieces, armPieces, TypeDefKind.named]
  | future payload | stream payload =>
      cases payload <;> simp [pieces, payloadPieces, TypeDefKind.named]
  | list element =>
      unfold pieces
      split <;> simp_all [TypeDefKind.named]
  | option payload => cases position <;> simp [pieces, TypeDefKind.named]
  | _ => simp [pieces, TypeDefKind.named]

/-- What is written for a piece. -/
def pieceText (resolve : Resolve) : Piece → Except String Text
  | .text text => return [.text text]
  | .name type context => return [← resolve.nameText type context]
  | .type inner type => tsText resolve inner type
  | .bail message => throw message

theorem tsText_id (position : Position) (id : TypeId) :
    tsText resolve position (.id id) = (do
      let texts ← (pieces position id (resolve.types id).kind).mapM (pieceText resolve)
      return texts.flatten) := by
  have plain := @List.mapM_subtype _ _ _ _ _ _ (pieces position id (resolve.types id).kind).attach
    (fun piece => pieceText resolve piece.1) (pieceText resolve) fun _ _ => rfl
  rw [List.unattach_attach] at plain
  rw [tsText, ← plain]
  congr 2
  funext piece
  obtain ⟨piece, _⟩ := piece
  cases piece <;> rfl

theorem not_mentions_prim {kind : PrimKind} {id : TypeId} : ¬Mentions resolve (.prim kind) id := by
  intro mentions
  cases mentions

theorem mentions_id {id other : TypeId} :
    Mentions resolve (.id id) other ↔ other ∈ (resolve.types id).kind.named id ∨
      ∃ part ∈ (resolve.types id).kind.inline, Mentions resolve part other := by
  constructor
  · intro mentions
    cases mentions with
    | here named => exact .inl named
    | part inline mentions => exact .inr ⟨_, inline, mentions⟩
  · rintro (named | ⟨part, inline, mentions⟩)
    · exact .here named
    · exact .part inline mentions

def Piece.mentions (resolve : Resolve) : Piece → TypeId → Prop
  | .name named _, id => id = named
  | .type _ written, id => Mentions resolve written id
  | .text _, _ | .bail _, _ => False

theorem mentions_pieces {position : Position} {id other : TypeId} :
    (∃ piece ∈ pieces position id (resolve.types id).kind, piece.mentions resolve other) ↔
      Mentions resolve (.id id) other := by
  rw [mentions_id, ← @name_piece position]
  constructor
  · rintro ⟨piece, member, mentions⟩
    cases piece with
    | name type context =>
        cases mentions
        exact .inl ⟨context, member⟩
    | type inner type => exact .inr ⟨type, mem_inline_of_piece member, mentions⟩
    | text | bail => exact mentions.elim
  · rintro (⟨context, member⟩ | ⟨part, inline, mentions⟩)
    · exact ⟨_, member, rfl⟩
    · rcases @piece_of_mem_inline position id _ _ inline with ⟨inner, member⟩ | rfl
      · exact ⟨_, member, mentions⟩
      · exact (not_mentions_prim mentions).elim

theorem mapM_writes {Source : Type} {convert : Source → Except String Text}
    {mentioned : Source → TypeId → Prop} {sources : List Source} {texts : List Text}
    (each : ∀ source ∈ sources, ∀ text, convert source = .ok text →
      Writes resolve text (mentioned source))
    (ran : sources.mapM convert = .ok texts) :
    List.Forall₂ (fun source text => Writes resolve text (mentioned source)) sources texts := by
  have converted := Fallible.mapM_ok_iff.mp ran
  clear ran
  induction converted with
  | nil => exact .nil
  | cons first _ ih =>
      refine .cons (each _ List.mem_cons_self _ first) (ih fun source member => ?_)
      exact each source (List.mem_cons_of_mem _ member)

/-- The text of a type names what the type mentions. -/
theorem tsText_writes {position : Position} {type : Ty} {text : Text}
    (written : tsText resolve position type = .ok text) :
    Writes resolve text (Mentions resolve type) := by
  cases shape : type with
  | prim | errorContext =>
      rw [shape, tsText] at written
      cases written
      exact (Writes.nil.cons_text _).congr fun id => ⟨False.elim, fun mentions => by cases mentions⟩
  | id id =>
      rw [shape, tsText_id] at written
      obtain ⟨texts, ran, ended⟩ := Fallible.bind_ok written
      cases ended
      have each : ∀ piece ∈ pieces position id (resolve.types id).kind, ∀ text,
          pieceText resolve piece = .ok text → Writes resolve text (piece.mentions resolve) := by
        intro piece member text pieceRan
        cases piece with
        | text text =>
            rw [← Except.ok.inj pieceRan]
            exact Writes.nil.cons_text text
        | name type context =>
            obtain ⟨token, named, ended⟩ := Fallible.bind_ok pieceRan
            rw [← Except.ok.inj ended]
            exact .of_nameText named
        | type inner part => exact tsText_writes pieceRan
        | bail message => cases pieceRan
      exact (Writes.flatten (mapM_writes each ran)).congr fun other => mentions_pieces
termination_by resolve.depth type
decreasing_by
  rw [shape]
  exact resolve.depth_lt (TypeDefKind.inline_parts (mem_inline_of_piece member))

/-! ## Functions -/

theorem paramList_writes {params : List (String × Ty)} {text : Text}
    (written : paramList resolve params = .ok text) :
    Writes resolve text fun id => ∃ p ∈ params, Mentions resolve p.2 id := by
  obtain ⟨texts, ran, ended⟩ := Fallible.bind_ok written
  cases ended
  refine Writes.joined ", " (mapM_writes ?_ ran)
  intro p _ text paramRan
  obtain ⟨typeText, typeRan, ended⟩ := Fallible.bind_ok paramRan
  cases ended
  exact (tsText_writes typeRan).cons_text _

theorem payloadText_writes {absent : String} {payload : Option Ty} {text : Text}
    (written : payloadText resolve absent payload = .ok text) :
    Writes resolve text fun id => ∃ type ∈ payload, Mentions resolve type id := by
  cases payload with
  | none =>
      cases written
      exact (Writes.nil.cons_text absent).congr fun id => by simp
  | some type => exact (tsText_writes written).congr fun id => by simp

/-- What is behind the names of a type mentions what the type mentions. -/
theorem behindNames_mentions {type : Ty} {kind : TypeDefKind}
    (behind : behindNames resolve type = some kind) :
    ∃ last, kind = (resolve.types last).kind ∧
      ∀ id, Mentions resolve type id ↔ Mentions resolve (.id last) id := by
  induction type using behindNames.induct resolve with
  | case1 id target named ih =>
      rw [behindNames, named] at behind
      obtain ⟨last, same, mentions⟩ := ih behind
      refine ⟨last, same, fun other => ?_⟩
      rw [← mentions other, mentions_id, named]
      simp [TypeDefKind.named, TypeDefKind.inline, TypeDefKind.parts, TypeDefKind.walked]
  | case2 id unnamed =>
      rw [behindNames] at behind
      split at behind
      · rename_i target named
        exact (unnamed target named).elim
      · exact ⟨id, (Option.some.inj behind).symm, fun _ => Iff.rfl⟩
  | case3 type other => 
      rw [behindNames] at behind
      · cases behind
      · exact other

def WitFunction.ResultMentions (resolve : Resolve) (f : WitFunction) (id : TypeId) : Prop :=
  match f.result, f.kind with
  | some type, _ => Mentions resolve type id
  | none, .constructor owner => id = owner
  | none, _ => False

def WitFunction.Mentions (resolve : Resolve) (f : WitFunction) (params : List (String × Ty))
    (id : TypeId) : Prop :=
  (∃ p ∈ params, Declarations.Mentions resolve p.2 id) ∨ f.ResultMentions resolve id

theorem returned_writes {text : Text} {types : TypeId → Prop} (writes : Writes resolve text types)
    (side : Side) (kind : FunctionKind) : Writes resolve (returned side kind text) types := by
  unfold returned
  split
  · exact (writes.append_text ">").cons_text "Promise<"
  · split
    · exact (writes.append ((writes.append_text ">").cons_text " | Promise<")).congr
        fun _ => or_self_iff
    · exact writes

theorem funcReturn_writes {side : Side} {f : WitFunction} {returns documentation : Text}
    (written : funcReturn resolve side f = .ok (returns, documentation)) :
    Writes resolve (documentation ++ returns) (f.ResultMentions resolve) := by
  unfold funcReturn at written
  unfold WitFunction.ResultMentions
  split at written
  · rename_i type result
    rw [result]
    split at written
    · rename_i payload future
      obtain ⟨text, payloadRan, ended⟩ := Fallible.bind_ok written
      cases ended
      refine (((payloadText_writes payloadRan).append_text ">").cons_text "Future<").congr fun id => ?_
      unfold asTopLevelFuture at future
      split at future
      · rename_i inner behind
        cases future
        obtain ⟨last, same, mentions⟩ := behindNames_mentions behind
        change _ ↔ Mentions resolve type id
        rw [mentions, mentions_id, ← same]
        simp [TypeDefKind.named, TypeDefKind.inline, TypeDefKind.parts]
      · cases future
    · split at written
      · rename_i ok err top
        obtain ⟨okText, okRan, written⟩ := Fallible.bind_ok written
        obtain ⟨errText, errRan, ended⟩ := Fallible.bind_ok written
        cases ended
        have documented := ((payloadText_writes errRan).append_text ">\x7d").cons_text
          "@throws \x7bComponentException<"
        refine (documented.append (returned_writes (payloadText_writes okRan) side f.kind)).congr
          fun id => ?_
        unfold asTopLevelResult at top
        split at top
        · rename_i ok err behind
          cases top
          obtain ⟨last, same, mentions⟩ := behindNames_mentions behind
          change _ ↔ Mentions resolve type id
          rw [mentions, mentions_id, ← same]
          simp [TypeDefKind.named, TypeDefKind.inline, TypeDefKind.parts, TypeDefKind.walked,
            or_and_right, exists_or, or_comm]
        · cases top
      · obtain ⟨text, typeRan, ended⟩ := Fallible.bind_ok written
        cases ended
        exact returned_writes (tsText_writes typeRan) side f.kind
  · rename_i result
    rw [result]
    split at written
    · rename_i owner kind
      obtain ⟨token, named, ended⟩ := Fallible.bind_ok written
      cases ended
      rw [kind]
      split
      · exact ((Writes.of_nameText named).append_text ">").cons_text "Promise<"
      · exact .of_nameText named
    · rename_i other
      cases written
      have nothing := returned_writes ((@Writes.nil resolve).cons_text "void") side f.kind
      refine nothing.congr fun id => ?_
      split
      · contradiction
      · rename_i owner _ kind
        exact (other owner kind).elim
      · exact Iff.rfl

theorem functionMember_writes {side : Side} {name : String} {params : List (String × Ty)}
    {f : WitFunction} {member : Member}
    (written : functionMember resolve side name params f = .ok member) :
    member.name = camelCase name ∧ Writes resolve member.text (f.Mentions resolve params) := by
  obtain ⟨list, listRan, written⟩ := Fallible.bind_ok written
  obtain ⟨⟨returns, documentation⟩, returnRan, ended⟩ := Fallible.bind_ok written
  cases ended
  refine ⟨rfl, ((paramList_writes listRan).append (funcReturn_writes returnRan)).reorder ?_⟩
  intro ident id
  simp [or_left_comm]

end Polyengine.Bindgen.Declarations
