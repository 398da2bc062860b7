import Polyengine.Cache.Dir

/-!
# Transparency of the directory cache

Whatever others do between two calls, an entry of this layout holds nothing but what belongs to its
key, so that a reader may take its files from different copies of the entry.
-/

set_option autoImplicit false

namespace Polyengine.Cache

open Polyengine.Library

/-! ## The agreement of the tasks -/

section

variable {Rest : Type} (platform : Platform Rest)
  (translators : String → List UInt8 → Except CacheFailure String)

def Named (artifacts : CachedArtifacts Rest) : Prop :=
  ∀ file bytes, artifacts.adapters.get? file = some bytes → .adapter file ∈ artifacts.plan.modules

def Belongs (artifacts : CachedArtifacts Rest) (content : Content Rest) : Part → Prop
  | .metaJson => True
  | .planJson => content = .plan artifacts.plan
  | .adapter file => ∃ bytes, content = .bytes bytes ∧ artifacts.adapters.get? file = some bytes

def Holds (artifacts : CachedArtifacts Rest) (directory : Directory Rest) : Prop :=
  ∀ part content, directory.get part = some content → Belongs artifacts content part

def Settled (hex : String) (store : DirStore Rest) : Prop :=
  ∀ directory, store (.entry hex) = some directory → ∃ key artifacts,
    keyHex platform.sha256Hex key = hex ∧ TranslationOf platform translators key artifacts ∧
      Named artifacts ∧ Holds artifacts directory

def Foreign (hex : String) (store : DirStore Rest) : Prop :=
  ∀ directory header, store (.entry hex) = some directory →
    directory.get .metaJson = some (.header header) → header.layoutVersion ≠ CACHE_LAYOUT_VERSION

/-- Every entry is settled or of another layout, and a settled one stays settled; a task leaves the
temporary directories of the others alone. -/
def dirAgreement (task : Nat) : Process.Agreement (DirStore Rest) where
  invariant store := ∀ hex, Settled platform translators hex store ∨ Foreign hex store
  rely store after :=
    (∀ hex, Settled platform translators hex store → Settled platform translators hex after) ∧
      ∀ hex, after (.temp hex task) = store (.temp hex task)
  guarantee store after :=
    (∀ hex, Settled platform translators hex store → Settled platform translators hex after) ∧
      ∀ hex other, other ≠ task → after (.temp hex other) = store (.temp hex other)

/-- A step that takes away from entries at most, and works in the own temporary directory. -/
structure Quiet (task : Nat) (store after : DirStore Rest) : Prop where
  entries : ∀ hex directory, after (.entry hex) = some directory → ∃ before,
    store (.entry hex) = some before ∧
      ∀ part content, directory.get part = some content → before.get part = some content
  temps : ∀ hex other, other ≠ task → after (.temp hex other) = store (.temp hex other)

variable {platform} {translators}

theorem Holds.of_le {artifacts : CachedArtifacts Rest} {directory before : Directory Rest}
    (holds : Holds artifacts before)
    (less : ∀ part content, directory.get part = some content → before.get part = some content) :
    Holds artifacts directory :=
  fun part content found => holds part content (less part content found)

theorem Quiet.refl (task : Nat) (store : DirStore Rest) : Quiet task store store :=
  ⟨fun _ directory found => ⟨directory, found, fun _ _ held => held⟩, fun _ _ _ => rfl⟩

theorem Quiet.settled {task : Nat} {store after : DirStore Rest} (quiet : Quiet task store after)
    {hex : String} (settled : Settled platform translators hex store) :
    Settled platform translators hex after := by
  intro directory found
  obtain ⟨before, held, less⟩ := quiet.entries hex directory found
  obtain ⟨key, artifacts, named, translation, complete, holds⟩ := settled before held
  exact ⟨key, artifacts, named, translation, complete, holds.of_le less⟩

theorem Quiet.keeps {task : Nat} {store after : DirStore Rest} (quiet : Quiet task store after)
    (invariant : (dirAgreement platform translators task).invariant store) :
    (dirAgreement platform translators task).invariant after ∧
      (dirAgreement platform translators task).guarantee store after := by
  refine ⟨?_, fun hex settled => quiet.settled settled, quiet.temps⟩
  intro hex
  rcases invariant hex with settled | foreign
  · exact .inl (quiet.settled settled)
  · right
    intro directory header found headed
    obtain ⟨before, held, less⟩ := quiet.entries hex directory found
    exact foreign before header held (less _ _ headed)

def Modest (task : Nat) : DirCall Rest → Prop
  | .stat _ | .readFile _ _ | .readDir _ => True
  | .unlink (.entry _) _ | .rmdir (.entry _) => True
  | .unlink (.temp _ owner) _ | .rmdir (.temp _ owner) => owner = task
  | .mkdir name | .writeFile name _ _ => ∃ hex, name = .temp hex task
  | .rename _ _ => False

theorem update_own_quiet (hex : String) (task : Nat) (store : DirStore Rest)
    (directory : Option (Directory Rest)) :
    Quiet task store (Function.update store (.temp hex task) directory) where
  entries := by
    intro other found held
    rw [Function.update_of_ne (by simp)] at held
    exact ⟨found, held, fun _ _ same => same⟩
  temps := by
    intro other owner different
    exact Function.update_of_ne (by simp [different]) _ _

theorem update_less_quiet {task : Nat} {name : DirName} {store : DirStore Rest}
    {smaller : Option (Directory Rest)}
    (own : ∀ hex owner, name = .temp hex owner → owner = task)
    (less : ∀ directory, smaller = some directory → ∃ before, store name = some before ∧
      ∀ part content, directory.get part = some content → before.get part = some content) :
    Quiet task store (Function.update store name smaller) where
  entries := by
    intro hex directory found
    by_cases same : DirName.entry hex = name
    · rw [same, Function.update_self] at found
      rw [same]
      exact less directory found
    · rw [Function.update_of_ne same] at found
      exact ⟨directory, found, fun _ _ held => held⟩
  temps := by
    intro hex owner different
    apply Function.update_of_ne
    intro same
    exact different (own hex owner same.symm)

theorem attempt_quiet {task : Nat} {call : DirCall Rest} (modest : Modest task call)
    (order : List Part) (store : DirStore Rest) :
    Quiet task store (store.attempt order call).2 := by
  have owns {name : DirName} (modest : (∃ hex, name = .entry hex) ∨ ∃ hex, name = .temp hex task) :
      ∀ hex owner, name = .temp hex owner → owner = task := by
    intro hex owner named
    rcases modest with ⟨other, rfl⟩ | ⟨other, rfl⟩
    · cases named
    · exact (DirName.temp.inj named).2.symm
  cases call with
  | stat name =>
      simp only [DirStore.attempt]
      cases store name <;> exact .refl task store
  | readFile name part =>
      simp only [DirStore.attempt]
      cases (store name).bind (Directory.get · part) <;> exact .refl task store
  | readDir name =>
      simp only [DirStore.attempt]
      cases store name <;> exact .refl task store
  | unlink name part =>
      have own : ∀ hex owner, name = .temp hex owner → owner = task := by
        apply owns
        cases name with
        | entry hex => exact .inl ⟨hex, rfl⟩
        | temp hex owner => exact .inr ⟨hex, by rw [show owner = task from modest]⟩
      simp only [DirStore.attempt]
      cases held : store name with
      | none => exact .refl task store
      | some directory =>
          simp only
          split
          · apply update_less_quiet own
            intro smaller erased
            cases erased
            refine ⟨directory, held, ?_⟩
            intro other content found
            rw [Directory.get_erase] at found
            split at found
            · cases found
            · exact found
          · exact .refl task store
  | rmdir name =>
      have own : ∀ hex owner, name = .temp hex owner → owner = task := by
        apply owns
        cases name with
        | entry hex => exact .inl ⟨hex, rfl⟩
        | temp hex owner => exact .inr ⟨hex, by rw [show owner = task from modest]⟩
      simp only [DirStore.attempt]
      split
      · exact update_less_quiet own nofun
      · exact .refl task store
      · exact .refl task store
  | mkdir name =>
      obtain ⟨hex, rfl⟩ := modest
      exact update_own_quiet hex task store _
  | writeFile name part content =>
      obtain ⟨hex, rfl⟩ := modest
      simp only [DirStore.attempt]
      split
      · exact update_own_quiet hex task store _
      · exact .refl task store
  | rename source target => exact absurd modest id

theorem performs_quiet {task : Nat} {call : DirCall Rest} (modest : Modest task call)
    {store after : DirStore Rest} {reply : Except CacheFailure (DirReply Rest)}
    (performed : DirPerforms call store reply after) : Quiet task store after := by
  obtain ⟨oracle, performed⟩ := performed
  have damaged : Quiet task store (store.damaged oracle call) := by
    cases call with
    | writeFile name part content =>
        exact @attempt_quiet _ task (.writeFile name part oracle.torn) modest oracle.order store
    | _ => exact attempt_quiet modest oracle.order store
  unfold DirStore.perform at performed
  split at performed
  · obtain ⟨_, rfl⟩ := Prod.mk.inj performed
    split
    · exact damaged
    · exact .refl task store
  · have quiet := attempt_quiet modest oracle.order store
    rw [performed] at quiet
    exact quiet

theorem ensures_modest {task : Nat} {call : DirCall Rest} (modest : Modest task call)
    {post : Except CacheFailure (DirReply Rest) → DirStore Rest → Prop} {store : DirStore Rest}
    (established : ∀ current, (dirAgreement platform translators task).invariant current →
      (dirAgreement platform translators task).rely store current →
      ∀ reply after, DirPerforms call current reply after → post reply after) :
    Process.Ensures DirPerforms (dirAgreement platform translators task) (Process.call call) post
      store := by
  rw [Process.ensures_call]
  intro current invariant relied reply after performed
  exact ⟨(performs_quiet modest performed).keeps invariant,
    established current invariant relied reply after performed⟩

/-! ## Removing a directory -/

inductive Removes (name : DirName) : DirCall Rest → Prop
  | readDir : Removes name (.readDir name)
  | unlink (part : Part) : Removes name (.unlink name part)
  | rmdir : Removes name (.rmdir name)

theorem Removes.elsewhere {name other : DirName} (different : other ≠ name)
    {call : DirCall Rest} (removes : Removes name call) {store after : DirStore Rest}
    {reply : Except CacheFailure (DirReply Rest)}
    (performed : DirPerforms call store reply after) : after other = store other := by
  obtain ⟨oracle, performed⟩ := performed
  have attempted (order : List Part) : (store.attempt order call).2 other = store other := by
    cases removes with
    | readDir =>
        simp only [DirStore.attempt]
        cases store name <;> rfl
    | unlink part =>
        simp only [DirStore.attempt]
        cases store name with
        | none => rfl
        | some directory =>
            simp only
            split
            · exact Function.update_of_ne different _ _
            · rfl
    | rmdir =>
        simp only [DirStore.attempt]
        split
        · exact Function.update_of_ne different _ _
        · rfl
        · rfl
  have damaged : store.damaged oracle call = (store.attempt oracle.order call).2 := by
    cases removes <;> rfl
  unfold DirStore.perform at performed
  split at performed
  · obtain ⟨_, rfl⟩ := Prod.mk.inj performed
    split
    · rw [damaged, attempted]
    · rfl
  · rw [← attempted oracle.order, performed]

theorem performs_gone {name : DirName} {call : DirCall Rest} {store after : DirStore Rest}
    {reply : Except CacheFailure (DirReply Rest)} (performed : DirPerforms call store reply after)
    (gone : (call = .readDir name ∧ reply = .error .notFound) ∨
      (call = .rmdir name ∧ (reply = .error .notFound ∨ ∃ value, reply = .ok value))) :
    after name = none := by
  obtain ⟨oracle, performed⟩ := performed
  unfold DirStore.perform at performed
  split at performed
  · obtain ⟨rfl, _⟩ := Prod.mk.inj performed
    simp at gone
  · rcases gone with ⟨rfl, rfl⟩ | ⟨rfl, removed⟩
    · simp only [DirStore.attempt] at performed
      split at performed
      · cases (Prod.mk.inj performed).1
      · next missing =>
          obtain ⟨_, rfl⟩ := Prod.mk.inj performed
          exact missing
    · simp only [DirStore.attempt] at performed
      split at performed
      · obtain ⟨_, rfl⟩ := Prod.mk.inj performed
        exact Function.update_self _ _ _
      · obtain ⟨rfl, _⟩ := Prod.mk.inj performed
        simp at removed
      · next missing =>
          obtain ⟨_, rfl⟩ := Prod.mk.inj performed
          exact missing

/-- A directory that a task may remove. -/
def Removable (task : Nat) (name : DirName) : Prop :=
  (∃ hex, name = .entry hex) ∨ ∃ hex, name = .temp hex task

theorem Removes.modest {task : Nat} {name : DirName} (removable : Removable task name)
    {call : DirCall Rest} (removes : Removes name call) : Modest task call := by
  rcases removable with ⟨hex, rfl⟩ | ⟨hex, rfl⟩
  · cases removes <;> trivial
  · cases removes with
    | readDir => trivial
    | unlink part => exact rfl
    | rmdir => exact rfl

section Removal

variable {task : Nat} {name : DirName} {kept : DirStore Rest → Prop}

/-- What a removal leaves alone: what neither the others nor its calls disturb. -/
structure LeftAlone (platform : Platform Rest)
    (translators : String → List UInt8 → Except CacheFailure String) (task : Nat) (name : DirName)
    (kept : DirStore Rest → Prop) : Prop where
  removable : Removable task name
  relied : ∀ store after, (dirAgreement platform translators task).rely store after →
    kept store → kept after
  performed : ∀ call store reply after, Removes name call → DirPerforms call store reply after →
    kept store → kept after

theorem ensures_removal (alone : LeftAlone platform translators task name kept)
    {call : DirCall Rest} (removes : Removes name call)
    {post : Except CacheFailure (DirReply Rest) → DirStore Rest → Prop} {store : DirStore Rest}
    (holds : kept store)
    (established : ∀ reply current after, DirPerforms call current reply after → kept after →
      post reply after) :
    Process.Ensures DirPerforms (dirAgreement platform translators task) (Process.call call) post
      store := by
  apply ensures_modest (removes.modest alone.removable)
  intro current _ relied reply after performed
  exact established reply current after performed
    (alone.performed call current reply after removes performed (alone.relied store current relied
      holds))

theorem unlinkAll_ensures (alone : LeftAlone platform translators task name kept)
    (parts : List Part) {store : DirStore Rest} (holds : kept store) :
    Process.Ensures DirPerforms (dirAgreement platform translators task)
      (unlinkAll name parts)
      (Process.split (fun _ after => kept after)
        fun failure after => kept after ∧ failure ≠ .notFound) store := by
  induction parts generalizing store with
  | nil => exact holds
  | cons part rest ih =>
      unfold unlinkAll
      rw [Process.ensures_bind, Process.ensures_tryCatch, Process.ensures_bind]
      apply ensures_removal alone (.unlink part) holds
      intro reply current after _ left
      cases reply with
      | ok value => exact ih left
      | error failure =>
          by_cases missing : failure = .notFound
          · simp only [missing, Process.split_error, if_true]
            exact ih left
          · simp only [Process.split_error, missing, if_false]
            exact ⟨left, missing⟩

theorem rmIfExists_ensures (alone : LeftAlone platform translators task name kept)
    {store : DirStore Rest} (holds : kept store) :
    Process.Ensures DirPerforms (dirAgreement platform translators task) (rmIfExists name)
      (fun result after => kept after ∧ (result = .ok () → after name = none)) store := by
  have removed : Process.Ensures DirPerforms (dirAgreement platform translators task)
      (removeAll name)
      (Process.split (fun _ after => kept after ∧ after name = none)
        fun failure after => kept after ∧ (failure = .notFound → after name = none)) store := by
    unfold removeAll
    rw [Process.ensures_bind]
    apply ensures_removal alone .readDir holds
    intro reply current after performed left
    cases reply with
    | error failure =>
        refine ⟨left, ?_⟩
        intro missing
        exact performs_gone performed (.inl ⟨rfl, by rw [missing]⟩)
    | ok value =>
        cases value with
        | done => exact ⟨left, nofun⟩
        | content content => exact ⟨left, nofun⟩
        | parts parts =>
            simp only [Process.split_ok]
            rw [Process.ensures_bind]
            apply (unlinkAll_ensures alone parts left).imp
            intro result unlinked emptied
            cases result with
            | error failure => exact ⟨emptied.1, fun missing => absurd missing emptied.2⟩
            | ok value =>
                simp only [Process.split_ok]
                rw [Process.ensures_bind]
                apply ensures_removal alone .rmdir emptied
                intro reply before gone performed left
                cases reply with
                | ok value => exact ⟨left, performs_gone performed (.inr ⟨rfl, .inr ⟨_, rfl⟩⟩)⟩
                | error failure =>
                    refine ⟨left, ?_⟩
                    intro missing
                    exact performs_gone performed (.inr ⟨rfl, .inl (by rw [missing])⟩)
  unfold rmIfExists
  rw [Process.ensures_tryCatch]
  apply removed.imp
  intro result after ended
  cases result with
  | ok value => exact ⟨ended.1, fun _ => ended.2⟩
  | error failure =>
      by_cases missing : failure = .notFound
      · simp only [Process.split_error, missing, if_true]
        exact ⟨ended.1, fun _ => ended.2 missing⟩
      · simp only [Process.split_error, missing, if_false]
        exact ⟨ended.1, nofun⟩

end Removal

/-! ## Putting an entry -/

theorem performs_mkdir {name : DirName} {store after : DirStore Rest} {value : DirReply Rest}
    (performed : DirPerforms (.mkdir name) store (.ok value) after) :
    after name = some ((store name).getD []) := by
  obtain ⟨oracle, performed⟩ := performed
  unfold DirStore.perform at performed
  split at performed
  · cases (Prod.mk.inj performed).1
  · obtain ⟨_, rfl⟩ := Prod.mk.inj performed
    exact Function.update_self _ _ _

theorem performs_writeFile {name : DirName} {part : Part} {content : Content Rest}
    {store after : DirStore Rest} {value : DirReply Rest}
    (performed : DirPerforms (.writeFile name part content) store (.ok value) after) :
    ∃ directory, store name = some directory ∧ after name = some (directory.put part content) := by
  obtain ⟨oracle, performed⟩ := performed
  unfold DirStore.perform at performed
  split at performed
  · cases (Prod.mk.inj performed).1
  · simp only [DirStore.attempt] at performed
    split at performed
    · next directory held =>
        obtain ⟨_, rfl⟩ := Prod.mk.inj performed
        exact ⟨directory, held, Function.update_self _ _ _⟩
    · cases (Prod.mk.inj performed).1

theorem performs_rename {source target : DirName} {store after : DirStore Rest}
    {reply : Except CacheFailure (DirReply Rest)}
    (performed : DirPerforms (.rename source target) store reply after) :
    after = store ∨ ∃ directory, store source = some directory ∧
      after = Function.update (Function.update store target (some directory)) source none := by
  have attempted (order : List Part) :
      (store.attempt order (.rename source target)).2 = store ∨
        ∃ directory, store source = some directory ∧
          (store.attempt order (.rename source target)).2 =
            Function.update (Function.update store target (some directory)) source none := by
    simp only [DirStore.attempt]
    split
    · next directory held _ => exact .inr ⟨directory, held, rfl⟩
    · next directory held _ => exact .inr ⟨directory, held, rfl⟩
    · exact .inl rfl
    · exact .inl rfl
  obtain ⟨oracle, performed⟩ := performed
  unfold DirStore.perform at performed
  split at performed
  · obtain ⟨_, rfl⟩ := Prod.mk.inj performed
    split
    · exact attempted oracle.order
    · exact .inl rfl
  · have known := attempted oracle.order
    rw [performed] at known
    exact known

def Ready (artifacts : CachedArtifacts Rest) (hex : String) (task : Nat) (store : DirStore Rest) :
    Prop :=
  ∀ directory, store (.temp hex task) = some directory → Holds artifacts directory

section Put

variable {artifacts : CachedArtifacts Rest} {key : CacheKey} {hex : String} {task : Nat}

theorem Ready.of_eq {store after : DirStore Rest} (ready : Ready artifacts hex task store)
    (same : after (.temp hex task) = store (.temp hex task)) : Ready artifacts hex task after := by
  intro directory held
  exact ready directory (same ▸ held)

theorem Holds.put {directory : Directory Rest} (holds : Holds artifacts directory) {part : Part}
    {content : Content Rest} (belongs : Belongs artifacts content part) :
    Holds artifacts (directory.put part content) := by
  intro other found held
  rw [Directory.get_put] at held
  split at held
  · next same =>
      subst same
      cases held
      exact belongs
  · exact holds other found held

theorem write_ensures {store : DirStore Rest} (ready : Ready artifacts hex task store) {part : Part}
    {content : Content Rest} (belongs : Belongs artifacts content part) :
    Process.Ensures DirPerforms (dirAgreement platform translators task)
      (Process.call (.writeFile (.temp hex task) part content))
      (Process.split (fun _ after => Ready artifacts hex task after) fun _ _ => True) store := by
  have modest : Modest task (.writeFile (.temp hex task) part content) := ⟨hex, rfl⟩
  apply ensures_modest modest
  intro current _ relied reply after performed
  cases reply with
  | error failure => trivial
  | ok value =>
      obtain ⟨directory, held, written⟩ := performs_writeFile performed
      intro found
      rw [written]
      intro same
      cases same
      exact (ready.of_eq (relied.2 hex) directory held).put belongs

theorem mkdir_ensures {store : DirStore Rest} (ready : Ready artifacts hex task store) :
    Process.Ensures DirPerforms (dirAgreement platform translators task)
      (Process.call (.mkdir (.temp hex task)))
      (Process.split (fun _ after => Ready artifacts hex task after) fun _ _ => True) store := by
  have modest : Modest task (.mkdir (.temp hex task) : DirCall Rest) := ⟨hex, rfl⟩
  apply ensures_modest modest
  intro current _ relied reply after performed
  cases reply with
  | error failure => trivial
  | ok value =>
      intro found
      rw [performs_mkdir performed]
      intro same
      cases held : current (.temp hex task) with
      | none =>
          rw [held] at same
          cases same
          exact nofun
      | some directory =>
          rw [held] at same
          cases same
          exact ready.of_eq (relied.2 hex) directory held

theorem safeRelName_ok {name safe : String} (passed : safeRelName name = .ok safe) :
    safe = name := by
  unfold safeRelName at passed
  simp only at passed
  split at passed
  · cases passed
  · cases passed
    rfl

theorem writeAdapters_ensures {entries : List (String × List UInt8)} {store : DirStore Rest}
    (ready : Ready artifacts hex task store)
    (belong : ∀ file bytes, (file, bytes) ∈ entries →
      artifacts.adapters.get? file = some bytes) :
    Process.Ensures DirPerforms (dirAgreement platform translators task)
      (writeAdapters (.temp hex task) entries)
      (Process.split (fun _ after => Ready artifacts hex task after) fun _ _ => True) store := by
  induction entries generalizing store with
  | nil => exact ready
  | cons entry rest ih =>
      obtain ⟨file, bytes⟩ := entry
      unfold writeAdapters
      rw [Process.ensures_bind, Process.ensures_ofExcept]
      cases passed : safeRelName file with
      | error failure => trivial
      | ok safe =>
          rw [safeRelName_ok passed, Process.split_ok, Process.ensures_bind]
          apply (mkdir_ensures ready).imp
          intro made between left
          cases made with
          | error failure => trivial
          | ok value =>
              rw [Process.split_ok, Process.ensures_bind]
              have belongs : Belongs artifacts (.bytes bytes) (.adapter file) :=
                ⟨bytes, rfl, belong file bytes List.mem_cons_self⟩
              apply (write_ensures left belongs).imp
              intro written after stored
              cases written with
              | error failure => trivial
              | ok value =>
                  exact ih stored fun file bytes listed =>
                    belong file bytes (List.mem_cons_of_mem _ listed)

theorem rename_ensures (named : keyHex platform.sha256Hex key = hex)
    (translation : TranslationOf platform translators key artifacts) (complete : Named artifacts)
    {store : DirStore Rest} (ready : Ready artifacts hex task store) :
    Process.Ensures DirPerforms (dirAgreement platform translators task)
      (Process.call (.rename (.temp hex task) (.entry hex))) (fun _ _ => True) store := by
  rw [Process.ensures_call]
  intro current invariant relied reply after performed
  refine ⟨?_, trivial⟩
  rcases performs_rename performed with unchanged | ⟨directory, held, rfl⟩
  · rw [unchanged]
    exact (Quiet.refl task current).keeps invariant
  · have here : Settled platform translators hex (Function.update
        (Function.update current (.entry hex) (some directory)) (.temp hex task) none) := by
      intro found placed
      rw [Function.update_of_ne (by simp), Function.update_self] at placed
      cases placed
      exact ⟨key, artifacts, named, translation, complete,
        ready.of_eq (relied.2 hex) directory held⟩
    have elsewhere (other : String) (different : other ≠ hex) : (Function.update
        (Function.update current (.entry hex) (some directory)) (.temp hex task) none)
          (.entry other) = current (.entry other) := by
      rw [Function.update_of_ne (by simp), Function.update_of_ne (by simp [different])]
    have settled (other : String) (settled : Settled platform translators other current) :
        Settled platform translators other (Function.update
          (Function.update current (.entry hex) (some directory)) (.temp hex task) none) := by
      by_cases same : other = hex
      · exact same ▸ here
      · intro found placed
        rw [elsewhere other same] at placed
        exact settled found placed
    refine ⟨?_, settled, ?_⟩
    · intro other
      by_cases same : other = hex
      · exact .inl (same ▸ here)
      · rcases invariant other with settledBefore | foreign
        · exact .inl (settled other settledBefore)
        · right
          intro found header placed
          rw [elsewhere other same] at placed
          exact foreign found header placed
    · intro other owner different
      rw [Function.update_of_ne (by simp [different]), Function.update_of_ne (by simp)]

theorem anyLeftAlone {name : DirName} (removable : Removable task name) :
    LeftAlone platform translators task name (fun _ : DirStore Rest => True) where
  removable := removable
  relied := fun _ _ _ _ => trivial
  performed := fun _ _ _ _ _ _ _ => trivial

theorem readyLeftAlone (artifacts : CachedArtifacts Rest) (hex : String) (task : Nat) :
    LeftAlone platform translators task (.entry hex) (Ready artifacts hex task) where
  removable := .inl ⟨hex, rfl⟩
  relied := fun _ _ relied ready => ready.of_eq (relied.2 hex)
  performed := by
    intro call store reply after removes performed ready
    exact ready.of_eq (removes.elsewhere (by simp) performed)

theorem fill_ensures (named : keyHex platform.sha256Hex key = hex)
    (translation : TranslationOf platform translators key artifacts) (complete : Named artifacts)
    {store : DirStore Rest} (ready : Ready artifacts hex task store) :
    Process.Ensures DirPerforms (dirAgreement platform translators task)
      (DirCache.fill (.entry hex) (.temp hex task) key artifacts) (fun _ _ => True) store := by
  unfold DirCache.fill
  rw [Process.ensures_bind]
  apply (mkdir_ensures ready).imp
  intro made first ready
  cases made with
  | error failure => trivial
  | ok value =>
      rw [Process.split_ok, Process.ensures_bind]
      apply (@write_ensures _ _ _ artifacts hex task first ready .metaJson _ trivial).imp
      intro headed second ready
      cases headed with
      | error failure => trivial
      | ok value =>
          rw [Process.split_ok, Process.ensures_bind]
          apply (@write_ensures _ _ _ artifacts hex task second ready .planJson _ rfl).imp
          intro planned third ready
          cases planned with
          | error failure => trivial
          | ok value =>
              rw [Process.split_ok, Process.ensures_bind]
              apply (writeAdapters_ensures ready
                (fun file bytes listed => FileMap.get?_eq_some_iff.mpr listed)).imp
              intro adapted fourth ready
              cases adapted with
              | error failure => trivial
              | ok value =>
                  rw [Process.split_ok, Process.ensures_bind]
                  apply (rmIfExists_ensures (readyLeftAlone artifacts hex task) ready).imp
                  intro removed fifth ready
                  cases removed with
                  | error failure => trivial
                  | ok value =>
                      rw [Process.split_ok, Process.ensures_bind]
                      apply (rename_ensures named translation complete ready.1).imp
                      intro renamed after _
                      cases renamed <;> trivial

theorem put_ensures (translation : TranslationOf platform translators key artifacts)
    (complete : Named artifacts) (store : DirStore Rest) :
    Process.Ensures DirPerforms (dirAgreement platform translators task)
      (DirCache.put platform task key artifacts) (fun _ _ => True) store := by
  have removable : Removable task (.temp (keyHex platform.sha256Hex key) task) := .inr ⟨_, rfl⟩
  unfold DirCache.put
  rw [Process.ensures_bind]
  apply (rmIfExists_ensures (anyLeftAlone removable) trivial).imp
  intro removed after cleared
  cases removed with
  | error failure => trivial
  | ok value =>
      have ready : Ready artifacts (keyHex platform.sha256Hex key) task after := by
        intro directory held
        rw [cleared.2 rfl] at held
        cases held
      rw [Process.split_ok, Process.ensures_tryCatch]
      apply (fill_ensures rfl translation complete ready).imp
      intro filled before _
      cases filled with
      | ok value => trivial
      | error failure =>
          rw [Process.split_error, Process.ensures_bind, Process.ensures_tryCatch]
          apply (rmIfExists_ensures (anyLeftAlone removable) trivial).imp
          intro cleaned later _
          cases cleaned <;> trivial

end Put

/-! ## Getting an entry -/

section Get

variable {key : CacheKey} {task : Nat}

theorem performs_readFile {name : DirName} {part : Part} {store after : DirStore Rest}
    {value : DirReply Rest}
    (performed : DirPerforms (.readFile name part) store (.ok value) after) :
    after = store ∧ ∃ directory content, store name = some directory ∧
      directory.get part = some content ∧ value = .content content := by
  obtain ⟨oracle, performed⟩ := performed
  unfold DirStore.perform at performed
  split at performed
  · cases (Prod.mk.inj performed).1
  · simp only [DirStore.attempt] at performed
    split at performed
    · next content found =>
        obtain ⟨replied, rfl⟩ := Prod.mk.inj performed
        obtain ⟨directory, held, read⟩ := Option.bind_eq_some_iff.mp found
        cases replied
        exact ⟨rfl, directory, content, held, read, rfl⟩
    · cases (Prod.mk.inj performed).1

/-- An entry that is settled stays settled for a task, and holds nothing but the artifacts of its
key. -/
theorem Settled.belongs (collisionFree : platform.sha256Hex.Injective) {store : DirStore Rest}
    (settled : Settled platform translators (keyHex platform.sha256Hex key) store)
    {directory : Directory Rest}
    (held : store (.entry (keyHex platform.sha256Hex key)) = some directory) :
    ∃ artifacts, TranslationOf platform translators key artifacts ∧ Named artifacts ∧
      Holds artifacts directory := by
  obtain ⟨other, artifacts, hashed, translation, complete, holds⟩ := settled directory held
  have same : SameKey other key := (keyHex_eq_iff collisionFree _ _).mp hashed
  exact ⟨artifacts, translation.congr same, complete, holds⟩

theorem dirExists_ensures (name : DirName) (store : DirStore Rest) :
    Process.Ensures DirPerforms (dirAgreement platform translators task) (dirExists name)
      (fun _ _ => True) store := by
  have modest : Modest task (.stat name : DirCall Rest) := trivial
  unfold dirExists
  rw [Process.ensures_tryCatch, Process.ensures_bind]
  apply ensures_modest modest
  intro current _ _ reply after _
  cases reply with
  | ok value => trivial
  | error failure =>
      simp only [Process.split_error]
      split <;> trivial

theorem readMeta_ensures (hex : String) (store : DirStore Rest) :
    Process.Ensures DirPerforms (dirAgreement platform translators task)
      (readMeta (.entry hex))
      (Process.split (fun header after => header.layoutVersion = CACHE_LAYOUT_VERSION →
        Settled platform translators hex after) fun _ _ => True) store := by
  have modest : Modest task (.readFile (.entry hex) .metaJson : DirCall Rest) := trivial
  unfold readMeta
  rw [Process.ensures_bind]
  apply ensures_modest modest
  intro current invariant _ reply after performed
  cases reply with
  | error failure => trivial
  | ok value =>
      obtain ⟨rfl, directory, content, held, read, rfl⟩ := performs_readFile performed
      cases content with
      | plan plan => trivial
      | bytes bytes => trivial
      | other => trivial
      | header header =>
          intro layout
          rcases invariant hex with settled | foreign
          · exact settled
          · exact absurd layout (foreign directory header held read)

theorem readPlan_ensures (collisionFree : platform.sha256Hex.Injective) {store : DirStore Rest}
    (settled : Settled platform translators (keyHex platform.sha256Hex key) store) :
    Process.Ensures DirPerforms (dirAgreement platform translators task)
      (readPlan (.entry (keyHex platform.sha256Hex key)))
      (Process.split (fun plan after =>
        Settled platform translators (keyHex platform.sha256Hex key) after ∧ ∃ artifacts,
          TranslationOf platform translators key artifacts ∧ Named artifacts ∧
            plan = artifacts.plan) fun _ _ => True) store := by
  have modest : Modest task
    (.readFile (.entry (keyHex platform.sha256Hex key)) .planJson : DirCall Rest) := trivial
  unfold readPlan
  rw [Process.ensures_bind]
  apply ensures_modest modest
  intro current _ relied reply after performed
  cases reply with
  | error failure => trivial
  | ok value =>
      obtain ⟨rfl, directory, content, held, read, rfl⟩ := performs_readFile performed
      have settledNow := relied.1 _ settled
      obtain ⟨artifacts, translation, complete, holds⟩ := settledNow.belongs collisionFree held
      cases content with
      | header header => trivial
      | bytes bytes => trivial
      | other => trivial
      | plan plan =>
          have belongs := holds .planJson (.plan plan) read
          exact ⟨settledNow, artifacts, translation, complete, Content.plan.inj belongs⟩

theorem readAdapters_ensures (collisionFree : platform.sha256Hex.Injective)
    {artifacts : CachedArtifacts Rest}
    (translation : TranslationOf platform translators key artifacts) (modules : List WireModule)
    (adapters : AdapterMap) {store : DirStore Rest}
    (settled : Settled platform translators (keyHex platform.sha256Hex key) store) :
    Process.Ensures DirPerforms (dirAgreement platform translators task)
      (readAdapters (.entry (keyHex platform.sha256Hex key)) modules adapters)
      (Process.split (fun read _ => ∀ file, read.get? file =
        if .adapter file ∈ modules then artifacts.adapters.get? file else adapters.get? file)
        fun _ _ => True) store := by
  induction modules generalizing adapters store with
  | nil =>
      intro file
      simp
  | cons first rest ih =>
      cases first with
      | embedded =>
          apply (ih adapters settled).imp
          intro read after same
          cases read with
          | error failure => trivial
          | ok read =>
              intro file
              rw [same file]
              simp
      | adapter file =>
          unfold readAdapters
          rw [Process.ensures_bind, Process.ensures_ofExcept]
          cases passed : safeRelName file with
          | error failure => trivial
          | ok safe =>
              have modest : Modest task (.readFile
                (.entry (keyHex platform.sha256Hex key)) (.adapter file) : DirCall Rest) := trivial
              rw [safeRelName_ok passed, Process.split_ok, Process.ensures_bind]
              unfold readAdapter
              rw [Process.ensures_bind]
              apply ensures_modest modest
              intro current _ relied reply after performed
              cases reply with
              | error failure => trivial
              | ok value =>
                  obtain ⟨rfl, directory, content, held, read, rfl⟩ := performs_readFile performed
                  have settledNow := relied.1 _ settled
                  obtain ⟨other, another, _, holds⟩ := settledNow.belongs collisionFree held
                  cases TranslationOf.unique collisionFree translation another
                  obtain ⟨bytes, rfl, stored⟩ := holds (.adapter file) content read
                  apply (ih (adapters.set file bytes) settledNow).imp
                  intro result later same
                  cases result with
                  | error failure => trivial
                  | ok result =>
                      intro name
                      rw [same name, FileMap.get?_set]
                      by_cases equal : name = file
                      · simp [equal, stored]
                      · simp [equal]

theorem evict_ensures (store : DirStore Rest) :
    Process.Ensures DirPerforms (dirAgreement platform translators task)
      (DirCache.evict platform key) (fun _ _ => True) store := by
  apply (rmIfExists_ensures (anyLeftAlone (.inl ⟨_, rfl⟩)) trivial).imp
  intro _ _ _
  trivial

theorem missed_ensures
    {post : Except CacheFailure (Option (CachedArtifacts Rest)) → DirStore Rest → Prop}
    (misses : ∀ store, post (.ok none) store) (store : DirStore Rest) :
    Process.Ensures DirPerforms (dirAgreement platform translators task)
      (do
        DirCache.tryEvict platform key
        return none : DirProcess Rest (Option (CachedArtifacts Rest))) post store := by
  unfold DirCache.tryEvict
  rw [Process.ensures_bind, Process.ensures_tryCatch]
  apply (evict_ensures store).imp
  intro result after _
  cases result <;> exact misses after

theorem get_ensures (collisionFree : platform.sha256Hex.Injective) (store : DirStore Rest) :
    Process.Ensures DirPerforms (dirAgreement platform translators task)
      (DirCache.get platform key)
      (fun result _ => ∀ artifacts, result = .ok (some artifacts) →
        ∃ stored, TranslationOf platform translators key stored ∧ artifacts.Same stored) store := by
  have missed := @missed_ensures _ platform translators key task
    (fun result _ => ∀ artifacts, result = .ok (some artifacts) →
      ∃ stored, TranslationOf platform translators key stored ∧ artifacts.Same stored)
    (fun _ => nofun)
  unfold DirCache.get
  rw [Process.ensures_tryCatch]
  unfold DirCache.getEntry
  rw [Process.ensures_bind]
  apply (dirExists_ensures _ store).imp
  intro found first _
  rcases found with failure | present | missing
  · exact missed first
  · exact nofun
  · simp only [Process.split_ok, if_true]
    rw [Process.ensures_bind]
    apply (readMeta_ensures _ first).imp
    intro header second settles
    cases header with
    | error failure => exact missed second
    | ok header =>
        rw [Process.split_ok]
        cases agreed : agrees header key with
        | false =>
            simp only [Bool.false_eq_true, if_false]
            exact missed_ensures (fun _ => nofun) second
        | true =>
            have layout : header.layoutVersion = CACHE_LAYOUT_VERSION := by
              simp [agrees] at agreed
              exact agreed.1.1.1
            simp only [if_true]
            rw [Process.ensures_bind]
            apply (readPlan_ensures collisionFree (settles layout)).imp
            intro plan third known
            cases plan with
            | error failure => exact missed third
            | ok plan =>
                obtain ⟨settled, artifacts, translation, complete, rfl⟩ := known
                rw [Process.split_ok]
                split
                · rw [Process.ensures_bind, Process.ensures_ofExcept]
                  cases platform.loadPlan artifacts.plan with
                  | error failure => exact missed third
                  | ok value =>
                      rw [Process.split_ok, Process.ensures_bind]
                      apply (readAdapters_ensures collisionFree translation _ .empty settled).imp
                      intro adapters fourth same
                      cases adapters with
                      | error failure => exact missed fourth
                      | ok adapters =>
                          intro hit returned
                          cases returned
                          refine ⟨artifacts, translation, rfl, ?_⟩
                          intro file
                          rw [same file]
                          split
                          · rfl
                          · next unnamed =>
                              cases bytes : artifacts.adapters.get? file with
                              | none => rfl
                              | some bytes => exact absurd (complete file _ bytes) unnamed
                · exact missed_ensures (fun _ => nofun) third

theorem dirCache_backend (collisionFree : platform.sha256Hex.Injective) (task : Nat) :
    Backend platform translators Named DirPerforms (dirAgreement platform translators task)
      (dirCache platform task) where
  get := fun _ store => get_ensures collisionFree store
  put := fun _ _ store translation complete => put_ensures translation complete store
  evict := fun _ store => evict_ensures store

end Get

end

end Polyengine.Cache
