import Polyengine.Bindgen.DeclarationTexts

/-!
# The names that generated bindings declare

When every declaration of a generated file stands for one WIT type: what each of the traversals of
the world meets, and what the names of a world must be so that none is declared twice, missing or
taken by the file itself.
-/

set_option autoImplicit false

namespace Polyengine.Bindgen.Declarations

open Polyengine.Cabi Polyengine.Library

/-! ## What a generated file has to be -/

def Declaration.texts (declaration : Declaration) : List Text :=
  declaration.text :: declaration.members.map Member.text

def WorldMember.name : WorldMember → String
  | .function member => member.name
  | .interface name _ => name

def WorldMember.members : WorldMember → List Member
  | .function member => [member]
  | .interface _ members => members

namespace File

variable (file : File)

def declarations : List Declaration := file.types ++ file.classes

def worldMembers : List WorldMember := file.imports ++ file.exports

def Uses (ident : String) (type : TypeId) : Prop :=
  ∃ text, ((∃ declaration ∈ file.declarations, text ∈ declaration.texts) ∨
    ∃ item ∈ file.worldMembers, text ∈ item.members.map Member.text) ∧ .name ident type ∈ text

end File

/-- The identifiers that the file declares for itself. -/
def entryPoints (world : String) (imports : Bool) : List String :=
  ["_EnsureEmbedderTypesUsed", "WORLD_DIGEST", "verify", "instantiate", "bind", world ++ "Exports",
    world ++ "Instance"] ++ if imports then [world ++ "Imports"] else []

def File.entryPoints (file : File) : List String :=
  Declarations.entryPoints file.world (!file.imports.isEmpty)

def Resolve.standsFor (resolve : Resolve) (id : TypeId) : TypeId :=
  match _named : (resolve.types id).kind with
  | .type (.id target) => resolve.standsFor target
  | _ => id
termination_by resolve.rank id
decreasing_by
  refine resolve.descends id target ?_
  rw [_named]
  exact List.mem_singleton_self _

structure File.Denotes (resolve : Resolve) (file : File) : Prop where
  distinct : ∀ first ∈ file.declarations, ∀ second ∈ file.declarations,
    first.ident = second.ident → first.type = second.type
  free : ∀ declaration ∈ file.declarations,
    declaration.ident ∉ importedIdents ++ file.entryPoints
  ownFree : ∀ ident ∈ file.entryPoints, ident ∉ importedIdents
  used : ∀ ident type, file.Uses ident type →
    (file.declarations.filter fun declaration => declaration.ident = ident).map Declaration.type =
      [resolve.standsFor type]
  members : ∀ declaration ∈ file.declarations, (declaration.members.map Member.name).Nodup
  objects : ∀ name members, .interface name members ∈ file.worldMembers →
    (members.map Member.name).Nodup
  imports : (file.imports.map WorldMember.name).Nodup
  exports : (file.exports.map WorldMember.name).Nodup

/-! ## What a world declares -/

inductive Walks (resolve : Resolve) : Ty → TypeId → Prop where
  | self (id : TypeId) : Walks resolve (.id id) id
  | part {id other : TypeId} {part : Ty} : part ∈ (resolve.types id).kind.walked →
      Walks resolve part other → Walks resolve (.id id) other

def WitFunction.types (f : WitFunction) : List Ty := f.params.map Prod.snd ++ f.result.toList

def WitFunction.Walks (resolve : Resolve) (f : WitFunction) (id : TypeId) : Prop :=
  ∃ type ∈ f.types, Declarations.Walks resolve type id

/-- The types that an item lists, or whose parts a function of it lists. -/
def Meets (resolve : Resolve) (item : WorldKey × WorldItem) (id : TypeId) : Prop :=
  match item.2 with
  | .function f => f.Walks resolve id
  | .interface interface =>
      id ∈ (resolve.interfaces interface).types.map Prod.snd ∨
        ∃ f ∈ (resolve.interfaces interface).functions.map Prod.snd, f.Walks resolve id
  | .type type => id = type

def IsNamedValue (definition : TypeDef) : Prop :=
  definition.name ≠ none ∧
    match definition.kind with
    | .record _ | .variant _ | .enum _ | .flags _ => True
    | _ => False

variable {resolve : Resolve}

/-! ## Value types -/

structure Emitted (resolve : Resolve) (met : TypeId → Prop) (emission : Emission) : Prop where
  distinct : (emission.out.map Declaration.type).Nodup
  declared : ∀ declaration ∈ emission.out,
    met declaration.type ∧ declare resolve declaration.type = some (.ok declaration)
  marked : ∀ declaration ∈ emission.out, declaration.type ∈ emission.emitted
  written : ∀ id, met id ∨ id ∈ emission.emitted → declare resolve id ≠ none →
    ∃ declaration ∈ emission.out, declaration.type = id

/-- A part of the traversal meets the types of a set. -/
def Extends (resolve : Resolve) (visit : Emission → Except String Emission)
    (types : TypeId → Prop) : Prop :=
  ∀ met emission next, Emitted resolve met emission → visit emission = .ok next →
    Emitted resolve (fun id => met id ∨ types id) next

theorem Emitted.congr {met met' : TypeId → Prop} {emission : Emission}
    (emitted : Emitted resolve met emission) (same : ∀ id, met id ↔ met' id) :
    Emitted resolve met' emission := by
  rwa [← funext fun id => propext (same id)]

theorem declare_type {id : TypeId} {declaration : Declaration}
    (declared : declare resolve id = some (.ok declaration)) : declaration.type = id := by
  unfold declare at declared
  split at declared
  · obtain ⟨members, _, ended⟩ := Fallible.bind_ok (Option.some.inj declared)
    cases ended
    rfl
  · obtain ⟨arms, _, ended⟩ := Fallible.bind_ok (Option.some.inj declared)
    cases ended
    rfl
  · cases declared
    rfl
  · cases declared
    rfl
  · cases declared

/-- Nothing is declared for a type that was, or that has no declaration. -/
theorem Emitted.keep {met : TypeId → Prop} {emission next : Emission} {id : TypeId}
    (emitted : Emitted resolve met emission) (out : next.out = emission.out)
    (marks : ∀ other ∈ emission.emitted, other ∈ next.emitted)
    (only : ∀ other ∈ next.emitted, other = id ∨ other ∈ emission.emitted)
    (known : declare resolve id = none ∨ id ∈ emission.emitted) :
    Emitted resolve (fun other => met other ∨ other = id) next where
  distinct := by
    rw [out]
    exact emitted.distinct
  declared := by
    intro declaration member
    rw [out] at member
    exact (emitted.declared declaration member).imp_left .inl
  marked := by
    intro declaration member
    rw [out] at member
    exact marks _ (emitted.marked declaration member)
  written := by
    intro other mentioned value
    rw [out]
    have cases' : other = id ∨ met other ∨ other ∈ emission.emitted := by
      rcases mentioned with (before | same) | marked
      · exact .inr (.inl before)
      · exact .inl same
      · exact (only other marked).imp_right .inr
    rcases cases' with rfl | before
    · rcases known with none | marked
      · exact absurd none value
      · exact emitted.written other (.inr marked) value
    · exact emitted.written other before value

theorem emitNamedType_extends (id : TypeId) :
    Extends resolve (emitNamedType resolve · id) (· = id) := by
  intro met emission next emitted ran
  change emitNamedType resolve emission id = .ok next at ran
  unfold emitNamedType at ran
  by_cases already : id ∈ emission.emitted
  · rw [if_pos already] at ran
    cases ran
    exact emitted.keep rfl (fun _ marked => marked) (fun _ => .inr) (.inr already)
  · rw [if_neg already] at ran
    cases declares : declare resolve id with
    | none =>
        rw [declares] at ran
        dsimp only at ran
        split at ran
        · cases ran
          refine emitted.keep rfl ?_ ?_ (.inl declares)
          · exact fun _ => List.mem_cons_of_mem id
          · exact fun _ => List.mem_cons.mp
        · cases ran
          exact emitted.keep rfl (fun _ marked => marked) (fun _ => .inr) (.inl declares)
    | some computed =>
        rw [declares] at ran
        obtain ⟨declaration, rfl, ended⟩ := Fallible.bind_ok ran
        cases ended
        have same := declare_type declares
        constructor
        · rw [List.map_append, List.map_singleton, List.nodup_append_comm, same]
          refine List.nodup_cons.mpr ⟨?_, emitted.distinct⟩
          intro member
          obtain ⟨earlier, present, named⟩ := List.mem_map.mp member
          exact already (named ▸ emitted.marked earlier present)
        · intro other member
          rcases List.mem_append.mp member with before | last
          · exact (emitted.declared other before).imp_left .inl
          · rw [List.mem_singleton.mp last, same]
            exact ⟨.inr rfl, declares⟩
        · intro other member
          rcases List.mem_append.mp member with before | last
          · exact List.mem_cons_of_mem _ (emitted.marked other before)
          · rw [List.mem_singleton.mp last, same]
            exact List.mem_cons_self
        · intro other known value
          have earlier : other = id ∨ met other ∨ other ∈ emission.emitted := by
            simp only [List.mem_cons] at known
            tauto
          rcases earlier with rfl | earlier
          · exact ⟨declaration, List.mem_append_right _ (List.mem_singleton_self _), same⟩
          · obtain ⟨declaration, member, named⟩ := emitted.written other earlier value
            exact ⟨declaration, List.mem_append_left _ member, named⟩

/-- A loop meets what its steps meet. -/
theorem extends_foldlM {Item : Type} {visit : Emission → Item → Except String Emission}
    {types : Item → TypeId → Prop} {items : List Item}
    (each : ∀ item ∈ items, Extends resolve (visit · item) (types item)) :
    Extends resolve (items.foldlM visit ·) fun id => ∃ item ∈ items, types item id := by
  induction items with
  | nil =>
      intro met emission next emitted ran
      cases ran
      exact emitted.congr fun id => by simp
  | cons item rest ih =>
      intro met emission next emitted ran
      change (item :: rest).foldlM visit emission = .ok next at ran
      rw [List.foldlM_cons] at ran
      obtain ⟨middle, first, later⟩ := Fallible.bind_ok ran
      have afterFirst := each item List.mem_cons_self met emission middle emitted first
      have extended := ih (fun other member => each other (List.mem_cons_of_mem _ member)) _ middle
        next afterFirst later
      exact extended.congr fun id => by simp [or_assoc]

theorem walkType_id (emission : Emission) (id : TypeId) :
    walkType resolve emission (.id id) = (do
      let walked ← (resolve.types id).kind.walked.foldlM (walkType resolve) emission
      emitNamedType resolve walked id) := by
  have plain := @List.foldlM_subtype _ _ _ _ _ (resolve.types id).kind.walked.attach
    (fun emission part => walkType resolve emission part.1) (walkType resolve) emission
    fun _ _ _ => rfl
  rw [List.unattach_attach] at plain
  rw [walkType, ← plain]

theorem walks_id {id other : TypeId} : Walks resolve (.id id) other ↔
    (∃ part ∈ (resolve.types id).kind.walked, Walks resolve part other) ∨ other = id := by
  constructor
  · intro walks
    cases walks with
    | self => exact .inr rfl
    | part member walks => exact .inl ⟨_, member, walks⟩
  · rintro (⟨part, member, walks⟩ | rfl)
    · exact .part member walks
    · exact .self other

theorem walkType_extends (type : Ty) :
    Extends resolve (walkType resolve · type) (Walks resolve type) := by
  intro met emission next emitted ran
  cases shape : type with
  | prim | errorContext =>
      change walkType resolve emission type = .ok next at ran
      rw [shape, walkType] at ran
      · cases ran
        exact emitted.congr fun id => ⟨.inl, fun known => known.elim (·) fun none => by cases none⟩
      · simp
  | id id =>
      change walkType resolve emission type = .ok next at ran
      rw [shape, walkType_id] at ran
      obtain ⟨walked, parts, named⟩ := Fallible.bind_ok ran
      have each : ∀ part ∈ (resolve.types id).kind.walked,
          Extends resolve (walkType resolve · part) (Walks resolve part) :=
        fun part member => walkType_extends part
      have afterParts := extends_foldlM each met emission walked emitted parts
      have done := emitNamedType_extends id _ walked next afterParts named
      exact done.congr fun other => by rw [walks_id, or_assoc]
termination_by resolve.depth type
decreasing_by
  rw [shape]
  exact resolve.depth_lt (TypeDefKind.walked_parts member)

theorem walkFuncTypes_extends (f : WitFunction) :
    Extends resolve (walkFuncTypes resolve · f) (f.Walks resolve) :=
  extends_foldlM fun type _ => walkType_extends type

theorem collectAndEmitTypes_extends (item : WorldKey × WorldItem) :
    Extends resolve (collectAndEmitTypes resolve · item) (Meets resolve item) := by
  intro met emission next emitted ran
  obtain ⟨key, item⟩ := item
  cases item with
  | function f => exact walkFuncTypes_extends f met emission next emitted ran
  | type id => exact emitNamedType_extends id met emission next emitted ran
  | interface id =>
      obtain ⟨named, types, functions⟩ := Fallible.bind_ok ran
      have afterTypes := extends_foldlM (fun id _ => emitNamedType_extends id) met emission named
        emitted types
      have done := extends_foldlM (fun f _ => walkFuncTypes_extends f) _ named next afterTypes
        functions
      exact done.congr fun other => by simp [Meets, or_assoc]

/-! ## Members -/

/-- The members that a loop writes. -/
theorem members_of_mapM {Source : Type} {convert : Source → Except String Member}
    {name : Source → String} {mentioned : Source → TypeId → Prop} {sources : List Source}
    {members : List Member}
    (each : ∀ source ∈ sources, ∀ member, convert source = .ok member →
      member.name = name source ∧ Writes resolve member.text (mentioned source))
    (ran : sources.mapM convert = .ok members) :
    members.map Member.name = sources.map name ∧
      Writes resolve (members.map Member.text).flatten fun id =>
        ∃ source ∈ sources, mentioned source id := by
  have converted := Fallible.mapM_ok_iff.mp ran
  clear ran
  induction converted with
  | nil => exact ⟨rfl, Writes.nil.congr fun id => by simp⟩
  | cons first _ ih =>
      obtain ⟨named, writes⟩ := each _ List.mem_cons_self _ first
      obtain ⟨names, later⟩ := ih fun source member => each source (List.mem_cons_of_mem _ member)
      rw [List.map_cons, List.map_cons, List.map_cons, List.flatten_cons, named, names]
      exact ⟨rfl, (writes.append later).congr fun id => by simp⟩

/-- The members of the declaration of a value type. -/
def TypeDefKind.memberNames : TypeDefKind → List String
  | .record fields => fields.map fun field => camelCase field.1
  | .flags labels => labels.map camelCase
  | _ => []

structure Declared (resolve : Resolve) (id : TypeId) (mentioned : TypeId → Prop)
    (names : List String) (declaration : Declaration) : Prop where
  type : declaration.type = id
  ident : ident? resolve id = some declaration.ident
  names : declaration.members.map Member.name = names
  writes : Writes resolve declaration.texts.flatten mentioned

theorem texts_writes {texts : List Text}
    (plain : ∀ text ∈ texts, ∀ ident id, Token.name ident id ∉ text) :
    Writes resolve texts.flatten fun _ => False where
  sound := by
    intro ident id member
    obtain ⟨text, present, named⟩ := List.mem_flatten.mp member
    exact (plain text present ident id named).elim
  complete := fun _ => False.elim

theorem joined_plain {Source : Type} {sources : List Source} {separator : String}
    {value : Source → String} :
    Writes resolve (joined separator (sources.map fun source => [.text (value source)]))
      fun _ => False := by
  have all : List.Forall₂ (fun (_ : Source) text => Writes resolve text fun _ => False) sources
      (sources.map fun source => [.text (value source)]) := by
    rw [List.forall₂_map_right_iff, List.forall₂_same]
    exact fun source _ => Writes.nil.cons_text _
  exact (Writes.joined separator all).congr fun id => by simp

theorem declare_declared {id : TypeId} {declaration : Declaration}
    (declared : declare resolve id = some (.ok declaration)) :
    Declared resolve id
      (fun other => ∃ part ∈ (resolve.types id).kind.walked, Mentions resolve part other)
      (resolve.types id).kind.memberNames declaration := by
  unfold declare at declared
  split at declared
  · rename_i fields name kind named
    obtain ⟨members, ran, ended⟩ := Fallible.bind_ok (Option.some.inj declared)
    cases ended
    have each : ∀ field ∈ fields, ∀ member, recordMember resolve field = .ok member →
        member.name = camelCase field.1 ∧
          Writes resolve member.text (Mentions resolve field.2) := by
      intro field _ member written
      obtain ⟨text, typeRan, ended⟩ := Fallible.bind_ok written
      cases ended
      exact ⟨rfl, (tsText_writes typeRan).cons_text _⟩
    obtain ⟨names, writes⟩ := members_of_mapM each ran
    rw [kind]
    refine ⟨rfl, congrArg (Option.map tsIdent) named, names, writes.congr fun other => ?_⟩
    simp only [TypeDefKind.walked, List.mem_map, exists_exists_and_eq_and]
  · rename_i cases' name kind named
    obtain ⟨arms, ran, ended⟩ := Fallible.bind_ok (Option.some.inj declared)
    cases ended
    have each : ∀ case ∈ cases', ∀ text, variantArm resolve case = .ok text →
        Writes resolve text fun other => ∃ type ∈ case.2, Mentions resolve type other := by
      intro case _ text written
      unfold variantArm at written
      split at written
      · rename_i type payload
        obtain ⟨inner, typeRan, ended⟩ := Fallible.bind_ok written
        cases ended
        refine (((tsText_writes typeRan).append_text _).cons_text _).congr fun id => ?_
        simp [payload]
      · rename_i payload
        cases written
        exact (Writes.nil.cons_text _).congr fun id => by simp [payload]
    have writes := (Writes.joined "\n  | " (mapM_writes each ran)).append Writes.nil
    rw [kind]
    refine ⟨rfl, congrArg (Option.map tsIdent) named, rfl, writes.congr fun other => ?_⟩
    simp only [TypeDefKind.walked, List.mem_filterMap, Option.mem_def, or_false]
    constructor
    · rintro ⟨case, member, type, payload, mentions⟩
      exact ⟨type, ⟨case, member, payload⟩, mentions⟩
    · rintro ⟨type, ⟨case, member, payload⟩, mentions⟩
      exact ⟨case, member, type, payload, mentions⟩
  · rename_i cases' name kind named
    cases declared
    rw [kind]
    have writes := (@joined_plain resolve _ cases' "\n  | " kebabLiteral).append Writes.nil
    refine ⟨rfl, congrArg (Option.map tsIdent) named, rfl, writes.congr fun other => ?_⟩
    simp [TypeDefKind.walked]
  · rename_i flags name kind named
    cases declared
    rw [kind]
    have writes := @texts_writes resolve ([] :: flags.map fun _ => [.text ": boolean"]) (by simp)
    refine ⟨rfl, congrArg (Option.map tsIdent) named, ?_, ?_⟩
    · simp [TypeDefKind.memberNames]
    · have empty : ∀ other, False ↔ ∃ part ∈ (TypeDefKind.flags flags).walked,
          Mentions resolve part other := fun other => by simp [TypeDefKind.walked]
      simpa [Declaration.texts, Function.comp_def] using writes.congr empty
  · cases declared

end Polyengine.Bindgen.Declarations
