import Mathlib.Data.List.Nodup
import Mathlib.Logic.Function.Basic
import Polyengine.Embedder.ComponentValues
import Polyengine.Library.Fallible
import Polyengine.Library.Registry

/-!
# Names on the objects of an embedder

The JavaScript names of WIT labels, and the places where the runtime puts them on one object:
records and flags, the objects of exported interfaces, and the classes of guest resources.
-/

set_option autoImplicit false

namespace Polyengine.Embedder.Naming

open Polyengine.Cabi Polyengine.Library

/-! ## Names -/

def pascalCase (label : String) : String :=
  String.ofList ((label.toList.splitOn '-').map upperFirst).flatten

inductive LeafName where
  | plain (name : String)
  | constructor (resource : String)
  | method (resource member : String)
  | static (resource member : String)
  deriving Repr, DecidableEq

/-- `[a-z-]`. -/
def isTagChar (c : Char) : Bool := c.isLower || c = '-'

/-- What `.` does not match. -/
def isLineEnd (c : Char) : Bool := c ∈ ['\n', '\r', '\u2028', '\u2029']

/-- `MANGLED.exec`: the tag and the rest. -/
def execMangled (raw : String) : Option (String × String) :=
  match raw.toList with
  | '[' :: text =>
      let tag := text.takeWhile isTagChar
      match text.dropWhile isTagChar with
      | ']' :: rest =>
          if tag = [] ∨ rest.any isLineEnd = true then none
          else some (String.ofList tag, String.ofList rest)
      | _ => none
  | _ => none

/-- The parts around the first dot. -/
def splitDot (text : String) : Option (String × String) :=
  match text.toList.dropWhile (· ≠ '.') with
  | _ :: member => some (String.ofList (text.toList.takeWhile (· ≠ '.')), String.ofList member)
  | [] => none

def unrecognized (raw : String) : String :=
  "unrecognized mangled export/import name '" ++ raw ++
    "': the bracket form is not one this runtime understands (only [constructor]/[method]/" ++
    "[static] are implemented; getter/setter forms like [get]/[set] are not yet implemented — " ++
    "polyengine#254)"

inductive Failure where
  | nameCollision (message : String)
  | plan (message : String)
  | error (message : String)
  | typeError
  deriving Repr, DecidableEq

def parseLeafName (raw : String) : Except Failure LeafName :=
  match execMangled raw with
  | none => .ok (.plain raw)
  | some (tag, rest) =>
      match tag with
      | "constructor" =>
          if rest.contains '[' then .error (.error (unrecognized raw)) else .ok (.constructor rest)
      | "method" => memberOf .method rest
      | "static" => memberOf .static rest
      | _ => .error (.error (unrecognized raw))
where
  memberOf (form : String → String → LeafName) (rest : String) : Except Failure LeafName :=
    match splitDot rest with
    | none => .error (.error (unrecognized raw))
    | some (resource, member) =>
        if resource.contains '[' then .error (.error (unrecognized raw))
        else .ok (form resource member)

/-! ## Records and flags -/

section

variable {Key : Type} [DecidableEq Key]

def collision (what held l js : String) : Failure :=
  .nameCollision (what ++ ": the labels '" ++ held ++ "' and '" ++ l ++
    "' both map to the JS name '" ++ js ++
    "'. Rename one in the WIT; the conventions layer will not guess which one wins.")

/-- The loop over the labels, with the labels seen so far under their names. -/
def seeLabels (what : String) : List String → List (String × String) → Except Failure Unit
  | [], _ => .ok ()
  | l :: rest, seen =>
      match seen.lookup (camelCase l) with
      | some held => .error (collision what held l (camelCase l))
      | none => seeLabels what rest (seen ++ [(camelCase l, l)])

/-- `checkNoCollisions` with the types that were checked before. -/
def checkNoCollisions (checkedLabels : List Key) (key : Key) (labels : List String)
    (what : String) : Except Failure (List Key) :=
  if key ∈ checkedLabels then .ok checkedLabels
  else (seeLabels what labels []).map fun _ => key :: checkedLabels

end

/-! ## Objects -/

/-- The own properties of an object. -/
abbrev Properties (Value : Type) := String → Option Value

def Properties.define {Value : Type} (properties : Properties Value) (name : String)
    (value : Value) : Properties Value :=
  Function.update properties name (some value)

/-- A property that was there, or the wrapper of an exported function. -/
inductive Member where
  | builtin (name : String)
  | wrapped (leaf : String)
  deriving Repr, DecidableEq

/-- A member of a resource and the function that it wraps. -/
structure ResourceMember where
  member : String
  leaf : String
  deriving Repr, DecidableEq

structure GuestResourceSpec where
  name : String
  ctor : Option String
  methods : List ResourceMember
  statics : List ResourceMember
  deriving Repr, DecidableEq

/-- The class of a resource: the own properties of its prototype and of itself. Its prototype
inherits `drop`. -/
structure GuestClass where
  className : String
  ctor : Option String
  prototype : Properties Member
  statics : Properties Member

/-- The methods one after another. -/
def defineMethods (methods : List ResourceMember) (prototype : Properties Member) :
    Properties Member :=
  methods.foldl (fun prototype m => prototype.define (camelCase m.member) (.wrapped m.leaf))
    prototype

/-- The statics one after another; the property `prototype` of a class cannot be redefined. -/
def defineStatics : List ResourceMember → Properties Member → Except Failure (Properties Member)
  | [], statics => .ok statics
  | s :: rest, statics =>
      if camelCase s.member = "prototype" then .error .typeError
      else defineStatics rest (statics.define (camelCase s.member) (.wrapped s.leaf))

def builtins (names : List String) : Properties Member := fun name =>
  if name ∈ names then some (.builtin name) else none

def buildGuestResourceClass (spec : GuestResourceSpec) : Except Failure GuestClass := do
  let prototype := defineMethods spec.methods (builtins ["constructor"])
  let statics ← defineStatics spec.statics (builtins ["length", "name", "prototype"])
  return ⟨pascalCase spec.name, spec.ctor, prototype, statics⟩

/-! ## Interfaces -/

structure FuncType where
  params : List ValType
  results : List ValType

/-- The exports of a plan. -/
inductive WireExport where
  | type (name : String)
  | module (name : String)
  | instance (name : String) (exports : List WireExport)
  | liftedFunc (name : String) (type : Option Nat)
  | unsupported (name kind : String)

/-- What the executor has made: which leaves are callable, and the function types. -/
structure Loaded where
  callable : String → Bool
  types : Nat → Option FuncType

/-- What an interface puts on its object. -/
inductive Item where
  | func (leaf : String)
  | cls (cls : GuestClass)

/-- The object under way: its properties, the leaf that claimed each name, and the resources with
their types. -/
structure Building where
  obj : Properties Item
  claimed : List (String × String)
  specs : List GuestResourceSpec
  specRt : String → Option Nat

namespace Building

def empty : Building where
  obj := fun _ => none
  claimed := []
  specs := []
  specRt := fun _ => none

/-- `id || "<world>"`. -/
def idText (id : String) : String := if id = "" then "<world>" else id

def claim (id : String) (building : Building) (js leaf : String) (item : Item) :
    Except Failure Building :=
  match building.claimed.lookup js with
  | some held =>
      .error (.nameCollision ("export '" ++ idText id ++ "': the leaves '" ++ held ++ "' and '" ++
        leaf ++ "' both map to the JS name '" ++ js ++
        "'. Rename one in the WIT; the conventions layer will not guess which one wins."))
  | none =>
      .ok { building with
        obj := building.obj.define js item
        claimed := building.claimed ++ [(js, leaf)] }

/-- `spec`: the resource is there, and changed. -/
def onSpec (name : String) (change : GuestResourceSpec → GuestResourceSpec) :
    List GuestResourceSpec → List GuestResourceSpec
  | [] => [change ⟨name, none, [], []⟩]
  | s :: rest => if s.name = name then change s :: rest else s :: onSpec name change rest

/-- `rtOf`. -/
def rtOf (t : Option ValType) (into : String → Option Nat) (name : String) : String → Option Nat :=
  match t with
  | some (.own rt) | some (.borrow rt) => Function.update into name (some rt)
  | _ => into

end Building

/-- `#funcType`. -/
def funcType (loaded : Loaded) (index : Option Nat) (what : String) : Except Failure FuncType :=
  match index with
  | none => .error (.plan (what ++ ": no type index"))
  | some index =>
      match loaded.types index with
      | some type => .ok type
      | none => .error (.plan (what ++ ": type " ++ toString index ++ " is not a function type"))

open Building in
def addExport (loaded : Loaded) (id : String) (building : Building) :
    WireExport → Except Failure Building
  | .type _ | .module _ => .ok building
  | .instance name _ =>
      .error (.plan ("export '" ++ idText id ++ "/" ++ name ++ "': nested instance exports " ++
        "are not surfaced by the conventions layer (only one level of interface nesting exists " ++
        "in plan v2)"))
  | .unsupported name kind =>
      .error (.plan ("export '" ++ idText id ++ "/" ++ name ++ "': unsupported export kind '" ++
        kind ++ "'"))
  | .liftedFunc name type =>
      if loaded.callable name = false then
        .error (.plan ("export '" ++ idText id ++ "/" ++ name ++ "': the runtime produced no " ++
          "callable for this lifted function"))
      else do
        let ft ← funcType loaded type ("export '" ++ id ++ "/" ++ name ++ "'")
        let member ← parseLeafName name
        match member with
        | .plain label => building.claim id (camelCase label) label (.func name)
        | .constructor resource =>
            return { building with
              specs := onSpec resource (fun s => { s with ctor := some name }) building.specs
              specRt := rtOf ft.results.head? building.specRt resource }
        | .method resource member =>
            return { building with
              specs := onSpec resource
                (fun s => { s with methods := s.methods ++ [⟨member, name⟩] }) building.specs
              specRt := rtOf ft.params.head? building.specRt resource }
        | .static resource member =>
            return { building with
              specs := onSpec resource
                (fun s => { s with statics := s.statics ++ [⟨member, name⟩] }) building.specs }

def addClass (id : String) (building : Building) (spec : GuestResourceSpec) :
    Except Failure Building :=
  match building.specRt spec.name with
  | none =>
      .error (.plan ("export '" ++ id ++ "': resource '" ++ spec.name ++
        "' has leaves but no own/borrow type to identify it by"))
  | some _ => do
      let cls ← buildGuestResourceClass spec
      building.claim id (pascalCase spec.name) spec.name (.cls cls)

/-- `#buildInterface`. -/
def buildInterface (loaded : Loaded) (id : String) (exps : List WireExport) :
    Except Failure (Properties Item) := do
  let leaves ← exps.foldlM (addExport loaded id) Building.empty
  let classes ← leaves.specs.foldlM (addClass id) leaves
  return classes.obj

inductive Export where
  | interface (obj : Properties Item)
  | leaf (item : Item)

def isInstance : WireExport → Bool
  | .instance _ _ => true
  | _ => false

/-- The interfaces, one after another. -/
def addInterface (loaded : Loaded) (out : Properties Export) :
    WireExport → Except Failure (Properties Export)
  | .instance name exports => do
      let obj ← buildInterface loaded name exports
      return out.define name (.interface obj)
  | _ => .ok out

/-- `Object.assign`. -/
def assign (out : Properties Export) (world : Properties Item) : Properties Export := fun name =>
  match world name with
  | some item => some (.leaf item)
  | none => out name

def buildExports (loaded : Loaded) (exports : List WireExport) :
    Except Failure (Properties Export) := do
  let out ← exports.foldlM (addInterface loaded) fun _ => none
  let worldLeaves := exports.filter fun exp => !isInstance exp
  if worldLeaves = [] then return out
  else do
    let world ← buildInterface loaded "" worldLeaves
    return assign out world

/-! ## Records and flags -/

section

variable {Key : Type} [DecidableEq Key] {labels : List String} {what : String}

theorem seeLabels_ok_iff (seen : List (String × String)) :
    seeLabels what labels seen = .ok () ↔
      (labels.map camelCase).Nodup ∧ ∀ l ∈ labels, camelCase l ∉ seen.map Prod.fst := by
  induction labels generalizing seen with
  | nil => simp [seeLabels]
  | cons l rest ih =>
      rw [seeLabels]
      cases found : seen.lookup (camelCase l) with
      | some held =>
          have listed := Registry.lookup_isSome_iff.mp (by rw [found]; rfl)
          simp only [reduceCtorEq, false_iff]
          exact fun both => both.2 l List.mem_cons_self listed
      | none =>
          have absent : camelCase l ∉ seen.map Prod.fst := by
            rw [← Registry.lookup_isSome_iff, found]
            exact Bool.false_ne_true
          simp only
          rw [ih, List.map_cons, List.nodup_cons]
          constructor
          · rintro ⟨distinct, fresh⟩
            refine ⟨⟨?_, distinct⟩, ?_⟩
            · intro member
              obtain ⟨other, listed, same⟩ := List.mem_map.mp member
              exact fresh other listed (by simp [same])
            · intro other member
              obtain rfl | later := List.mem_cons.mp member
              · exact absent
              · exact fun there => fresh other later (by simp [there])
          · rintro ⟨⟨first, distinct⟩, fresh⟩
            refine ⟨distinct, fun other later there => ?_⟩
            rw [List.map_append, List.mem_append] at there
            obtain there | there := there
            · exact fresh other (List.mem_cons_of_mem _ later) there
            · have same : camelCase other = camelCase l := by simpa using there
              exact first (same ▸ List.mem_map_of_mem later)

theorem seeLabels_error (seen : List (String × String))
    (names : ∀ pair ∈ seen, pair.1 = camelCase pair.2) {failure : Failure}
    (failed : seeLabels what labels seen = .error failure) :
    ∃ held l, held ∈ seen.map Prod.snd ++ labels ∧ l ∈ labels ∧ camelCase held = camelCase l ∧
      failure = collision what held l (camelCase l) := by
  induction labels generalizing seen with
  | nil => cases failed
  | cons l rest ih =>
      rw [seeLabels] at failed
      cases found : seen.lookup (camelCase l) with
      | some held =>
          rw [found] at failed
          cases failed
          have member : (camelCase l, held) ∈ seen := by
            obtain ⟨front, back, rfl, _⟩ := List.lookup_eq_some_iff.mp found
            exact List.mem_append_right _ List.mem_cons_self
          refine ⟨held, l, ?_, List.mem_cons_self, (names _ member).symm, rfl⟩
          exact List.mem_append_left _ (List.mem_map.mpr ⟨_, member, rfl⟩)
      | none =>
          rw [found] at failed
          simp only at failed
          have namesToo : ∀ pair ∈ seen ++ [(camelCase l, l)], pair.1 = camelCase pair.2 := by
            intro pair member
            obtain earlier | last := List.mem_append.mp member
            · exact names pair earlier
            · rw [List.mem_singleton.mp last]
          obtain ⟨held, other, there, listed, same, rfl⟩ := ih _ namesToo failed
          refine ⟨held, other, ?_, List.mem_cons_of_mem _ listed, same, rfl⟩
          simpa using there

/-- The types that were checked after a sequence of checks, each of a type at a place. -/
def checkAll (labelsOf : Key → List String) (checks : List (Key × String)) : List Key :=
  checks.foldl (fun checkedLabels (key, what) =>
    match checkNoCollisions checkedLabels key (labelsOf key) what with
    | .ok next => next
    | .error _ => checkedLabels) []

theorem checkNoCollisions_passes {checkedLabels next : List Key} {key : Key}
    (passed : checkNoCollisions checkedLabels key labels what = .ok next) :
    (key ∈ checkedLabels ∧ next = checkedLabels) ∨
      ((labels.map camelCase).Nodup ∧ next = key :: checkedLabels) := by
  unfold checkNoCollisions at passed
  split at passed
  case isTrue checked =>
    cases passed
    exact .inl ⟨checked, rfl⟩
  case isFalse =>
    cases saw : seeLabels what labels [] with
    | error failure =>
        rw [saw] at passed
        cases passed
    | ok done =>
        rw [saw] at passed
        cases passed
        exact .inr ⟨((seeLabels_ok_iff []).mp saw).1, rfl⟩

theorem checkAll_nodup (labelsOf : Key → List String) (checks : List (Key × String)) :
    ∀ key ∈ checkAll labelsOf checks, ((labelsOf key).map camelCase).Nodup := by
  induction checks using List.reverseRecOn with
  | nil => exact nofun
  | append_singleton before check ih =>
      intro key member
      obtain ⟨type, place⟩ := check
      rw [checkAll, List.foldl_append, List.foldl_cons, List.foldl_nil, ← checkAll] at member
      cases passed : checkNoCollisions (checkAll labelsOf before) type (labelsOf type) place with
      | error failure =>
          simp only [passed] at member
          exact ih key member
      | ok next =>
          simp only [passed] at member
          obtain ⟨_, rfl⟩ | ⟨distinct, rfl⟩ := checkNoCollisions_passes passed
          · exact ih key member
          · obtain rfl | earlier := List.mem_cons.mp member
            · exact distinct
            · exact ih key earlier

theorem checkNoCollisions_ok_iff (labelsOf : Key → List String) (checks : List (Key × String))
    (key : Key) :
    (∃ next, checkNoCollisions (checkAll labelsOf checks) key (labelsOf key) what = .ok next) ↔
      ((labelsOf key).map camelCase).Nodup := by
  constructor
  · rintro ⟨next, passed⟩
    obtain ⟨checked, _⟩ | ⟨distinct, _⟩ := checkNoCollisions_passes passed
    · exact checkAll_nodup labelsOf checks key checked
    · exact distinct
  · intro distinct
    have saw : seeLabels what (labelsOf key) [] = .ok () :=
      (seeLabels_ok_iff []).mpr ⟨distinct, fun _ _ => List.not_mem_nil⟩
    unfold checkNoCollisions
    split
    · exact ⟨_, rfl⟩
    · rw [saw]
      exact ⟨_, rfl⟩

end

/-! ## Interfaces -/

/-- The function that an export puts on the object of its interface, under its name. -/
def functionOf : WireExport → Option (String × String)
  | .liftedFunc name _ =>
      match parseLeafName name with
      | .ok (.plain label) => some (camelCase label, name)
      | _ => none
  | _ => none

def resourceOf : WireExport → Option String
  | .liftedFunc name _ =>
      match parseLeafName name with
      | .ok (.constructor resource) | .ok (.method resource _) | .ok (.static resource _) =>
          some resource
      | _ => none
  | _ => none

def functions (exps : List WireExport) : List (String × String) := exps.filterMap functionOf

/-- The resources of an interface, each once. -/
def resources (exps : List WireExport) : List String :=
  (exps.filterMap resourceOf).foldl (fun names name =>
    if name ∈ names then names else names ++ [name]) []

/-- The names that an interface puts on its object. -/
def names (exps : List WireExport) : List String :=
  (functions exps).map Prod.fst ++ (resources exps).map pascalCase

/-- The names claimed so far differ, and each is a property of the object. -/
structure Placed (building : Building) (names : List String) : Prop where
  claimed : building.claimed.map Prod.fst = names
  distinct : names.Nodup

section

variable {building next : Building} {id js leaf : String} {item : Item} {placed : List String}

theorem claim_ok (before : Placed building placed)
    (claimed : building.claim id js leaf item = .ok next) :
    Placed next (placed ++ [js]) ∧ next.obj = building.obj.define js item ∧
      (∀ name ∈ placed, next.obj name = building.obj name) ∧ next.specs = building.specs ∧
        next.specRt = building.specRt := by
  unfold Building.claim at claimed
  split at claimed
  · cases claimed
  case h_2 unheld =>
    cases claimed
    have absent : js ∉ placed := by
      rw [← before.claimed, ← Registry.lookup_isSome_iff, unheld]
      exact Bool.false_ne_true
    refine ⟨⟨?_, ?_⟩, rfl, fun name member => ?_, rfl, rfl⟩
    · rw [List.map_append, before.claimed]
      rfl
    · exact before.distinct.append (List.nodup_singleton js)
        (List.disjoint_singleton.mpr absent)
    · have other : name ≠ js := fun same => absent (same ▸ member)
      exact Function.update_of_ne other _ _

theorem onSpec_names (name : String) (change : GuestResourceSpec → GuestResourceSpec)
    (keeps : ∀ s, (change s).name = s.name) (specs : List GuestResourceSpec) :
    (Building.onSpec name change specs).map GuestResourceSpec.name =
      if name ∈ specs.map GuestResourceSpec.name then specs.map GuestResourceSpec.name
      else specs.map GuestResourceSpec.name ++ [name] := by
  induction specs with
  | nil => simp [Building.onSpec, keeps]
  | cons s rest ih =>
      rw [Building.onSpec]
      by_cases same : s.name = name
      · simp [same, keeps]
      · have other : name ≠ s.name := Ne.symm same
        rw [if_neg same, List.map_cons, ih, List.map_cons]
        by_cases there : name ∈ rest.map GuestResourceSpec.name
        · rw [if_pos there, if_pos (List.mem_cons_of_mem _ there)]
        · rw [if_neg there, if_neg (List.not_mem_cons_of_ne_of_not_mem other there),
            List.cons_append]

/-- What the leaves of an interface have put on its object. -/
structure Leaves (exps : List WireExport) (building : Building) : Prop where
  placed : Placed building ((functions exps).map Prod.fst)
  functions : ∀ pair ∈ functions exps, building.obj pair.1 = some (.func pair.2)
  specs : building.specs.map GuestResourceSpec.name = resources exps

theorem resources_append_none {exps : List WireExport} {exp : WireExport}
    (none : resourceOf exp = none) : resources (exps ++ [exp]) = resources exps := by
  simp [resources, List.filterMap_append, none]

theorem resources_append_some {exps : List WireExport} {exp : WireExport} {resource : String}
    (some : resourceOf exp = some resource) :
    resources (exps ++ [exp]) =
      if resource ∈ resources exps then resources exps else resources exps ++ [resource] := by
  rw [resources, List.filterMap_append, List.foldl_append, ← resources]
  simp [some]

theorem functions_append (exps : List WireExport) (exp : WireExport) :
    functions (exps ++ [exp]) = functions exps ++ (functionOf exp).toList := by
  rw [functions, List.filterMap_append]
  cases found : functionOf exp with
  | none => simp [functions, found]
  | some pair => simp [functions, found]

theorem addExport_leaves {loaded : Loaded} {exps : List WireExport} {exp : WireExport}
    (leaves : Leaves exps building) (added : addExport loaded id building exp = .ok next) :
    Leaves (exps ++ [exp]) next := by
  have quiet : functionOf exp = none → resourceOf exp = none → next = building →
      Leaves (exps ++ [exp]) next := by
    rintro noFunction noResource rfl
    refine ⟨?_, ?_, ?_⟩
    · rw [functions_append, noFunction]
      simpa using leaves.placed
    · rw [functions_append, noFunction]
      simpa using leaves.functions
    · rw [resources_append_none noResource]
      exact leaves.specs
  have member : ∀ resource, functionOf exp = none → resourceOf exp = some resource →
      next.obj = building.obj → next.claimed = building.claimed →
      (∃ change, next.specs = Building.onSpec resource change building.specs ∧
        ∀ s, (change s).name = s.name) →
      Leaves (exps ++ [exp]) next := by
    rintro resource noFunction isResource sameObj sameClaimed ⟨change, specs, keeps⟩
    refine ⟨⟨?_, ?_⟩, ?_, ?_⟩
    · rw [functions_append, noFunction, sameClaimed]
      simpa using leaves.placed.claimed
    · rw [functions_append, noFunction]
      simpa using leaves.placed.distinct
    · rw [functions_append, noFunction, sameObj]
      simpa using leaves.functions
    · rw [resources_append_some isResource, specs, onSpec_names resource change keeps, leaves.specs]
  cases exp with
  | type name =>
      cases added
      exact quiet rfl rfl rfl
  | module name =>
      cases added
      exact quiet rfl rfl rfl
  | «instance» name exports => cases added
  | unsupported name kind => cases added
  | liftedFunc name type =>
      rw [addExport] at added
      split at added
      · cases added
      · obtain ⟨ft, _, added⟩ := Fallible.bind_ok added
        obtain ⟨parsed, isParsed, added⟩ := Fallible.bind_ok added
        cases parsed with
        | plain label =>
            have isFunction :
                functionOf (.liftedFunc name type) = some (camelCase label, name) := by
              simp only [functionOf, isParsed]
            have noResource : resourceOf (.liftedFunc name type) = none := by
              simp only [resourceOf, isParsed]
            obtain ⟨placed, obj, kept, specs, _⟩ := claim_ok leaves.placed added
            refine ⟨?_, ?_, ?_⟩
            · rw [functions_append, isFunction]
              simpa using placed
            · intro pair listed
              rw [functions_append, isFunction] at listed
              obtain earlier | last := List.mem_append.mp listed
              · rw [kept _ (List.mem_map_of_mem earlier)]
                exact leaves.functions pair earlier
              · rw [Option.toList_some, List.mem_singleton] at last
                rw [last, obj]
                exact Function.update_self _ _ _
            · rw [resources_append_none noResource, specs]
              exact leaves.specs
        | constructor resource =>
            cases added
            exact member resource (by simp only [functionOf, isParsed])
              (by simp only [resourceOf, isParsed]) rfl rfl ⟨_, rfl, fun _ => rfl⟩
        | method resource label =>
            cases added
            exact member resource (by simp only [functionOf, isParsed])
              (by simp only [resourceOf, isParsed]) rfl rfl ⟨_, rfl, fun _ => rfl⟩
        | static resource label =>
            cases added
            exact member resource (by simp only [functionOf, isParsed])
              (by simp only [resourceOf, isParsed]) rfl rfl ⟨_, rfl, fun _ => rfl⟩

/-- What the leaves and some classes of an interface have put on its object. -/
structure Classes (exps : List WireExport) (done : List GuestResourceSpec) (building : Building) :
    Prop where
  placed : Placed building
    ((functions exps).map Prod.fst ++ done.map fun spec => pascalCase spec.name)
  functions : ∀ pair ∈ functions exps, building.obj pair.1 = some (.func pair.2)
  classes : ∀ spec ∈ done, ∃ cls, building.obj (pascalCase spec.name) = some (.cls cls) ∧
    buildGuestResourceClass spec = .ok cls

theorem addClass_classes {exps : List WireExport} {done : List GuestResourceSpec}
    {spec : GuestResourceSpec} (classes : Classes exps done building)
    (added : addClass id building spec = .ok next) : Classes exps (done ++ [spec]) next := by
  unfold addClass at added
  split at added
  · cases added
  · obtain ⟨cls, built, claimed⟩ := Fallible.bind_ok added
    obtain ⟨placed, obj, kept, _⟩ := claim_ok classes.placed claimed
    refine ⟨?_, ?_, ?_⟩
    · simpa using placed
    · intro pair listed
      rw [kept _ (List.mem_append_left _ (List.mem_map_of_mem listed))]
      exact classes.functions pair listed
    · intro other listed
      obtain earlier | last := List.mem_append.mp listed
      · rw [kept _ (List.mem_append_right _ (List.mem_map_of_mem earlier))]
        exact classes.classes other earlier
      · rw [List.mem_singleton.mp last, obj]
        exact ⟨cls, Function.update_self _ _ _, built⟩

end

/-- On the object of an interface every leaf is under its own name, and the names differ. -/
structure Exposed (exps : List WireExport) (obj : Properties Item) : Prop where
  distinct : (names exps).Nodup
  functions : ∀ pair ∈ functions exps, obj pair.1 = some (.func pair.2)
  classes : ∀ resource ∈ resources exps, ∃ cls,
    obj (pascalCase resource) = some (.cls cls) ∧ cls.className = pascalCase resource

theorem buildInterface_exposed {loaded : Loaded} {id : String} {exps : List WireExport}
    {obj : Properties Item} (built : buildInterface loaded id exps = .ok obj) :
    Exposed exps obj := by
  obtain ⟨leaves, added, built⟩ := Fallible.bind_ok built
  obtain ⟨classes, classed, built⟩ := Fallible.bind_ok built
  cases built
  have start : Leaves [] Building.empty := ⟨⟨rfl, List.nodup_nil⟩, nofun, rfl⟩
  have exposed := Fallible.foldlM_ok (fun done item state next holds stepped =>
    addExport_leaves holds stepped) exps start added
  rw [List.nil_append] at exposed
  have startClasses : Classes exps [] leaves :=
    ⟨by simpa using exposed.placed, exposed.functions, nofun⟩
  have all := Fallible.foldlM_ok (fun done item state next holds stepped =>
    addClass_classes holds stepped) leaves.specs startClasses classed
  rw [List.nil_append] at all
  refine ⟨?_, all.functions, ?_⟩
  · have distinct := all.placed.distinct
    rw [names, ← exposed.specs, List.map_map]
    exact distinct
  · intro resource listed
    rw [← exposed.specs] at listed
    obtain ⟨spec, member, rfl⟩ := List.mem_map.mp listed
    obtain ⟨cls, there, made⟩ := all.classes spec member
    refine ⟨cls, there, ?_⟩
    obtain ⟨statics, _, made⟩ := Fallible.bind_ok made
    cases made
    rfl

/-! ## The exports -/

/-- The interfaces of the exports, and the leaves of the world. -/
def interfaces (exports : List WireExport) : List (List WireExport) :=
  exports.filterMap (fun exp =>
    match exp with
    | .instance _ exps => some exps
    | _ => none) ++ [exports.filter fun exp => !isInstance exp]

def AllBuilt (loaded : Loaded) (exports : List WireExport) : Prop :=
  ∀ name exps, WireExport.instance name exps ∈ exports →
    ∃ obj, buildInterface loaded name exps = .ok obj

theorem addInterface_built {loaded : Loaded} (done : List WireExport) (exp : WireExport)
    (out next : Properties Export) (built : AllBuilt loaded done)
    (added : addInterface loaded out exp = .ok next) : AllBuilt loaded (done ++ [exp]) := by
  intro name exps listed
  obtain earlier | last := List.mem_append.mp listed
  · exact built name exps earlier
  · rw [← List.mem_singleton.mp last] at added
    obtain ⟨obj, isBuilt, _⟩ := Fallible.bind_ok added
    exact ⟨obj, isBuilt⟩

theorem buildExports_interfaces {loaded : Loaded} {exports : List WireExport}
    {out : Properties Export} (built : buildExports loaded exports = .ok out) :
    ∀ exps ∈ interfaces exports, (names exps).Nodup := by
  obtain ⟨instances, added, world⟩ := Fallible.bind_ok built
  have none : AllBuilt loaded [] := fun _ _ listed => absurd listed List.not_mem_nil
  have all := Fallible.foldlM_ok addInterface_built exports none added
  rw [List.nil_append] at all
  intro exps listed
  obtain listed | last := List.mem_append.mp listed
  · obtain ⟨exp, member, isInterface⟩ := List.mem_filterMap.mp listed
    cases exp with
    | «instance» name inner =>
        cases isInterface
        obtain ⟨obj, isBuilt⟩ := all name exps member
        exact (buildInterface_exposed isBuilt).distinct
    | _ => cases isInterface
  · rw [List.mem_singleton.mp last]
    simp only at world
    split at world
    case isTrue none =>
      rw [none]
      exact List.nodup_nil
    case isFalse =>
      obtain ⟨obj, isBuilt, _⟩ := Fallible.bind_ok world
      exact (buildInterface_exposed isBuilt).distinct

/-! ## What is refused -/

/-- The methods of a resource and its statics, by their labels. -/
def methodsOf (resource : String) (exps : List WireExport) : List String :=
  exps.filterMap fun exp =>
    match exp with
    | .liftedFunc name _ =>
        match parseLeafName name with
        | .ok (.method owner member) => if owner = resource then some member else none
        | _ => none
    | _ => none

def staticsOf (resource : String) (exps : List WireExport) : List String :=
  exps.filterMap fun exp =>
    match exp with
    | .liftedFunc name _ =>
        match parseLeafName name with
        | .ok (.static owner member) => if owner = resource then some member else none
        | _ => none
    | _ => none

def labelsOf : ValType → List String
  | .record fields => fields.map FieldType.label
  | .flags labels => labels
  | _ => []

def Mentions (loaded : Loaded) (exps : List WireExport) (type : ValType) : Prop :=
  ∃ name index ft whole, WireExport.liftedFunc name (some index) ∈ exps ∧
    loaded.types index = some ft ∧ whole ∈ ft.params ++ ft.results ∧
    ∃ inOption inWhole, Occurs type inOption whole inWhole

inductive Shares (loaded : Loaded) (exps : List WireExport) : Prop where
  | items : ¬(names exps).Nodup → Shares loaded exps
  | methods (resource : String) :
      ¬((methodsOf resource exps).map camelCase).Nodup → Shares loaded exps
  | statics (resource : String) :
      ¬((staticsOf resource exps).map camelCase).Nodup → Shares loaded exps
  | labels (type : ValType) : Mentions loaded exps type →
      ¬((labelsOf type).map camelCase).Nodup → Shares loaded exps

/-- A record of a digit after a dash. -/
def digits : ValType := .record [⟨"a-1", .prim .u8⟩, ⟨"a1", .prim .u8⟩]

/-- Labels of a record that map to one name do not make the instantiation fail. -/
theorem record_not_refused :
    ¬∀ (loaded : Loaded) (exports : List WireExport),
      (∃ exps ∈ interfaces exports, Shares loaded exps) →
        ∃ failure, buildExports loaded exports = .error failure := by
  intro all
  let loaded : Loaded := ⟨fun _ => true, fun _ => some ⟨[digits], []⟩⟩
  let exps : List WireExport := [.liftedFunc "run" (some 0)]
  have shares : Shares loaded exps := by
    refine .labels digits ⟨"run", 0, ⟨[digits], []⟩, digits, List.mem_singleton_self _, rfl,
      List.mem_singleton_self _, false, false, .self _ _⟩ ?_
    decide
  obtain ⟨failure, failed⟩ := all loaded [.instance "a:b/c" exps] ⟨exps, List.mem_cons_self, shares⟩
  cases failed

structure CollisionsRefused : Prop where
  checked : ∀ (Key : Type) [DecidableEq Key] (labelsOf : Key → List String)
    (checks : List (Key × String)) (key : Key) (what : String),
      ¬((labelsOf key).map camelCase).Nodup →
        ∃ held l, held ∈ labelsOf key ∧ l ∈ labelsOf key ∧ camelCase held = camelCase l ∧
          checkNoCollisions (checkAll labelsOf checks) key (labelsOf key) what =
            .error (collision what held l (camelCase l))
  adapted : ∀ (engine : Engine) (type : ValType) (inOption : Bool),
    ¬((labelsOf type).map camelCase).Nodup →
      (∀ v, toHost engine type inOption v = .error (.thrown "NameCollisionError")) ∧
      (∀ v, v.isObject = true →
        prepareHostValue engine type inOption v = .error (.thrown "NameCollisionError")) ∧
      ∀ v, ∃ failure, prepareHostValue engine type inOption v = .error failure
  refused : ∀ (loaded : Loaded) (exports : List WireExport),
    (∃ exps ∈ interfaces exports, ¬(names exps).Nodup) →
      ∃ failure, buildExports loaded exports = .error failure
  exposed : ∀ (loaded : Loaded) (id : String) (exps : List WireExport) (obj : Properties Item),
    buildInterface loaded id exps = .ok obj → Exposed exps obj

theorem collisions_refused : CollisionsRefused where
  checked Key _ labelsOf checks key what shared := by
    have unchecked : key ∉ checkAll labelsOf checks := fun member =>
      shared (checkAll_nodup labelsOf checks key member)
    cases saw : seeLabels what (labelsOf key) [] with
    | ok done => exact absurd ((seeLabels_ok_iff []).mp saw).1 shared
    | error failure =>
        obtain ⟨held, l, there, listed, same, rfl⟩ := seeLabels_error [] nofun saw
        refine ⟨held, l, (by simpa using there), listed, same, ?_⟩
        rw [checkNoCollisions, if_neg unchecked, saw]
        rfl
  adapted engine type inOption shared := by
    have fails : ∀ labels : List String, ¬(labels.map camelCase).Nodup →
        Embedder.checkNoCollisions labels = .error (.thrown "NameCollisionError") := by
      intro labels shared
      rw [Embedder.checkNoCollisions, if_neg shared]
      rfl
    cases type with
    | record fields =>
        have failed := fails _ shared
        simp only [labelsOf] at failed
        refine ⟨fun v => ?_, fun v object => ?_, fun v => ?_⟩
        · rw [toHost, failed]
          rfl
        · rw [prepareHostValue, if_pos object, failed]
          rfl
        · rw [prepareHostValue]
          split
          · exact ⟨_, by rw [failed]; rfl⟩
          · exact ⟨_, rfl⟩
    | flags labels =>
        have failed := fails _ shared
        simp only [labelsOf] at failed
        refine ⟨fun v => ?_, fun v object => ?_, fun v => ?_⟩
        · rw [toHost, failed]
          rfl
        · rw [prepareHostValue, if_pos object, failed]
          rfl
        · rw [prepareHostValue]
          split
          · exact ⟨_, by rw [failed]; rfl⟩
          · exact ⟨_, rfl⟩
    | _ => exact absurd List.nodup_nil shared
  refused loaded exports shares := by
    obtain ⟨exps, listed, shared⟩ := shares
    cases built : buildExports loaded exports with
    | error failure => exact ⟨failure, rfl⟩
    | ok out => exact absurd (buildExports_interfaces built exps listed) shared
  exposed _ _ _ _ built := buildInterface_exposed built

end Polyengine.Embedder.Naming
