import Mathlib.Data.List.DropRight

/-!
# The parts of a URL

How a lenient parser finds the parts of a URL that names a host, before it normalizes them: where the
authority begins and ends, and what it reads in the authority and after it. A URL that is put together
from an authority and a target is read as those two exactly where both are whole.
-/

set_option autoImplicit false

namespace Polyengine.Library

/-- The parts as they are written. -/
structure UrlParts where
  scheme : List Char
  userinfo : Option (List Char)
  host : List Char
  port : Option (List Char)
  path : List Char
  query : Option (List Char)
  fragment : Option (List Char)
  deriving Repr, DecidableEq

/-- A text before a mark and what follows the mark. -/
def joined (before : List Char) (mark : Char) : Option (List Char) → List Char
  | none => before
  | some after => before ++ mark :: after

namespace UrlParts

/-! ## The parts of an authority and of a target -/

/-- Before and after the first mark. -/
def cut (mark : Char) : List Char → List Char × Option (List Char)
  | [] => ([], none)
  | c :: rest =>
      if c = mark then ([], some rest)
      else
        let (before, after) := cut mark rest
        (c :: before, after)

/-- Before and after the last at sign. -/
def splitUserinfo : List Char → Option (List Char) × List Char
  | [] => (none, [])
  | c :: rest =>
      match splitUserinfo rest with
      | (some userinfo, place) => (some (c :: userinfo), place)
      | (none, place) => if c = '@' then (some [], place) else (none, c :: place)

/-- Before and after the first colon outside brackets. -/
def splitPort (insideBrackets : Bool) : List Char → List Char × Option (List Char)
  | [] => ([], none)
  | c :: rest =>
      if c = ':' ∧ insideBrackets = false then ([], some rest)
      else
        let inside := if c = '[' then true else if c = ']' then false else insideBrackets
        let (host, port) := splitPort inside rest
        (c :: host, port)

/-- The parts of an authority and a target, each read on its own; there is a host. -/
def ofTexts (scheme authority target : List Char) : Option UrlParts :=
  let (userinfo, place) := splitUserinfo authority
  let (host, port) := splitPort false place
  let (hierarchy, fragment) := cut '#' target
  let (path, query) := cut '?' hierarchy
  if host = [] then none else some { scheme, userinfo, host, port, path, query, fragment }

def authorityText (parts : UrlParts) : List Char :=
  match parts.userinfo with
  | none => joined parts.host ':' parts.port
  | some userinfo => userinfo ++ '@' :: joined parts.host ':' parts.port

def targetText (parts : UrlParts) : List Char :=
  joined (joined parts.path '?' parts.query) '#' parts.fragment

theorem joined_cut (mark : Char) (text : List Char) :
    joined (cut mark text).1 mark (cut mark text).2 = text := by
  induction text with
  | nil => rfl
  | cons c rest ih =>
      rw [cut]
      split
      case isTrue here =>
        rw [here]
        rfl
      case isFalse =>
        cases after : (cut mark rest).2 with
        | none =>
            rw [after] at ih
            exact congrArg (List.cons c) ih
        | some more =>
            rw [after] at ih
            exact congrArg (List.cons c) ih

theorem joined_splitPort (insideBrackets : Bool) (text : List Char) :
    joined (splitPort insideBrackets text).1 ':' (splitPort insideBrackets text).2 = text := by
  induction text generalizing insideBrackets with
  | nil => rfl
  | cons c rest ih =>
      rw [splitPort]
      split
      case isTrue here =>
        rw [here.1]
        rfl
      case isFalse =>
        simp only
        generalize (if c = '[' then true else if c = ']' then false else insideBrackets) = inside
        have whole := ih inside
        cases after : (splitPort inside rest).2 with
        | none =>
            rw [after] at whole
            exact congrArg (List.cons c) whole
        | some more =>
            rw [after] at whole
            exact congrArg (List.cons c) whole

theorem splitUserinfo_text (text : List Char) :
    (match (splitUserinfo text).1 with
      | none => (splitUserinfo text).2
      | some userinfo => userinfo ++ '@' :: (splitUserinfo text).2) = text := by
  induction text with
  | nil => rfl
  | cons c rest ih =>
      rw [splitUserinfo]
      cases split : splitUserinfo rest with
      | mk userinfo place =>
          rw [split] at ih
          cases userinfo with
          | some before => exact congrArg (List.cons c) ih
          | none =>
              simp only at ih ⊢
              by_cases here : c = '@'
              · rw [if_pos here, here, ih]
                rfl
              · rw [if_neg here, ih]

theorem ofTexts_texts {scheme authority target : List Char} {parts : UrlParts}
    (read : ofTexts scheme authority target = some parts) :
    parts.authorityText = authority ∧ parts.targetText = target := by
  unfold ofTexts at read
  simp only at read
  split at read
  · cases read
  · cases read
    constructor
    · unfold authorityText
      rw [joined_splitPort]
      exact splitUserinfo_text authority
    · unfold targetText
      rw [joined_cut, joined_cut]

/-! ## The reading of a URL -/

def isControlOrSpace (c : Char) : Bool := c.toNat ≤ 0x20

def isTabOrNewline (c : Char) : Bool := c = '\t' || c = '\n' || c = '\r'

def isSlash (c : Char) : Bool := c = '/' || c = '\\'

def endsAuthority (c : Char) : Bool := isSlash c || c = '?' || c = '#'

/-- The input without what a parser removes before it begins. -/
def prepare (input : List Char) : List Char :=
  ((input.dropWhile isControlOrSpace).rdropWhile isControlOrSpace).filter (!isTabOrNewline ·)

def isSchemeChar (c : Char) : Bool := c.isAlphanum || c = '+' || c = '-' || c = '.'

/-- The scheme and what follows its colon. -/
def splitScheme (text : List Char) : Option (List Char × List Char) :=
  match text.dropWhile isSchemeChar with
  | ':' :: rest => some ((text.takeWhile isSchemeChar).map Char.toLower, rest)
  | _ => none

/-- The schemes whose URLs name a host after any number of slashes, forward or backward. -/
def hostSchemes : List (List Char) :=
  ["http".toList, "https".toList, "ws".toList, "wss".toList, "ftp".toList]

/-- The parts that a parser finds in a URL of such a scheme. -/
def read (input : List Char) : Option UrlParts := do
  let (scheme, rest) ← splitScheme (prepare input)
  if hostSchemes.contains scheme then
    let rest := rest.dropWhile isSlash
    ofTexts scheme (rest.takeWhile (!endsAuthority ·)) (rest.dropWhile (!endsAuthority ·))
  else none

/-- The URL of an authority and a target. -/
def written (scheme authority target : List Char) : List Char :=
  scheme ++ "://".toList ++ authority ++ target

/-- An authority and a target that a parser reads as they are: it neither skips nor cuts the authority,
and removes nothing at the end. -/
structure Whole (authority target : List Char) : Prop where
  there : authority ≠ []
  uncut : ∀ c ∈ authority, endsAuthority c = false
  untrimmed : ∀ c ∈ (authority ++ target).getLast?, isControlOrSpace c = false

theorem dropWhile_front {holds : Char → Bool} {front : List Char}
    (stops : front.head?.any (!holds ·) = true) (text : List Char) :
    (front ++ text).dropWhile holds = front ++ text := by
  cases front with
  | nil => cases stops
  | cons c rest =>
      have here : (!holds c) = true := stops
      rw [Bool.not_eq_true'] at here
      exact List.dropWhile_cons_of_neg (here ▸ Bool.false_ne_true)

theorem rdropWhile_front {holds : Char → Bool} {front : List Char}
    (stops : front.getLast?.any (!holds ·) = true) (text : List Char) :
    (front ++ text).rdropWhile holds = front ++ text.rdropWhile holds := by
  induction text using List.reverseRecOn with
  | nil =>
      rw [List.append_nil, List.rdropWhile_nil, List.append_nil, List.rdropWhile_eq_self_iff]
      intro nonempty
      rw [List.getLast?_eq_some_getLast nonempty, Option.any_some, Bool.not_eq_true'] at stops
      rw [stops]
      exact Bool.false_ne_true
  | append_singleton text c ih =>
      rw [← List.append_assoc, List.rdropWhile_concat, List.rdropWhile_concat, ih]
      cases holds c with
      | false => rw [if_neg Bool.false_ne_true, if_neg Bool.false_ne_true, List.append_assoc]
      | true => rw [if_pos rfl, if_pos rfl]

theorem prepare_written {scheme text : List Char} (isScheme : scheme ∈ hostSchemes)
    (plain : ∀ c ∈ text, isTabOrNewline c = false) :
    prepare (scheme ++ "://".toList ++ text) =
      scheme ++ "://".toList ++ text.rdropWhile isControlOrSpace := by
  have fronts : ∀ scheme ∈ hostSchemes,
      (scheme ++ "://".toList).head?.any (!isControlOrSpace ·) = true ∧
      (scheme ++ "://".toList).getLast?.any (!isControlOrSpace ·) = true ∧
      (scheme ++ "://".toList).all (!isTabOrNewline ·) = true := by
    decide
  obtain ⟨first, last, printed⟩ := fronts scheme isScheme
  unfold prepare
  rw [dropWhile_front first, rdropWhile_front last, List.filter_eq_self]
  intro c member
  rw [Bool.not_eq_true']
  obtain front | back := List.mem_append.mp member
  · exact (Bool.not_eq_true' _).mp (List.all_eq_true.mp printed c front)
  · exact plain c ((List.rdropWhile_prefix _ _).subset back)

theorem splitScheme_written {scheme : List Char} (isScheme : scheme ∈ hostSchemes)
    (text : List Char) : splitScheme (scheme ++ "://".toList ++ text) = some (scheme, "//".toList ++ text) := by
  have all : ∀ scheme ∈ hostSchemes, scheme.map Char.toLower = scheme ∧
      scheme.all isSchemeChar = true := by
    decide
  obtain ⟨lower, whole⟩ := all scheme isScheme
  have chars := List.all_eq_true.mp whole
  unfold splitScheme
  rw [List.append_assoc, List.dropWhile_append_of_pos chars, List.takeWhile_append_of_pos chars]
  have stops : isSchemeChar ':' = false := by decide
  have colon : "://".toList ++ text = ':' :: ("//".toList ++ text) := rfl
  rw [colon, List.dropWhile_cons_of_neg (by simp [stops]),
    List.takeWhile_cons_of_neg (by simp [stops]), List.append_nil]
  simp only [lower]

theorem read_written {scheme authority target : List Char} (isScheme : scheme ∈ hostSchemes)
    (plain : ∀ c ∈ authority ++ target, isTabOrNewline c = false) :
    read (written scheme authority target) =
      let body := ((authority ++ target).rdropWhile isControlOrSpace).dropWhile isSlash
      ofTexts scheme (body.takeWhile (!endsAuthority ·)) (body.dropWhile (!endsAuthority ·)) := by
  unfold read written
  rw [List.append_assoc, prepare_written isScheme plain, splitScheme_written isScheme]
  simp only [Option.bind_eq_bind, Option.bind_some, List.contains_iff_mem, isScheme, if_true]
  rfl

theorem ofTexts_nil (scheme target : List Char) : ofTexts scheme [] target = none := by
  simp [ofTexts, splitUserinfo, splitPort]

theorem read_whole {scheme authority target : List Char} (isScheme : scheme ∈ hostSchemes)
    (plain : ∀ c ∈ authority ++ target, isTabOrNewline c = false)
    (isTarget : ∀ c ∈ target.head?, endsAuthority c = true) (whole : Whole authority target) :
    read (written scheme authority target) = ofTexts scheme authority target := by
  have kept : (authority ++ target).rdropWhile isControlOrSpace = authority ++ target := by
    rw [List.rdropWhile_eq_self_iff]
    intro nonempty
    rw [whole.untrimmed _ (List.getLast?_eq_some_getLast nonempty)]
    exact Bool.false_ne_true
  have starts : authority.head?.any (!isSlash ·) = true := by
    cases named : authority with
    | nil => exact absurd named whole.there
    | cons c rest =>
        have inside := whole.uncut c (named ▸ List.mem_cons_self)
        simp only [endsAuthority, Bool.or_eq_false_iff] at inside
        simp [inside.1.1]
  have uncut : ∀ c ∈ authority, (!endsAuthority c) = true := by
    intro c member
    rw [whole.uncut c member]
    rfl
  rw [read_written isScheme plain]
  simp only [kept]
  rw [dropWhile_front starts, List.takeWhile_append_of_pos uncut, List.dropWhile_append_of_pos uncut]
  cases target with
  | nil => rw [List.takeWhile_nil, List.append_nil, List.dropWhile_nil]
  | cons c rest =>
      have ends : endsAuthority c = true := isTarget c rfl
      rw [List.takeWhile_cons, List.dropWhile_cons, ends, Bool.not_true, if_neg Bool.false_ne_true,
        if_neg Bool.false_ne_true, List.append_nil]

theorem whole_of_read {scheme authority target : List Char} {parts : UrlParts}
    (isScheme : scheme ∈ hostSchemes)
    (plain : ∀ c ∈ authority ++ target, isTabOrNewline c = false)
    (found : read (written scheme authority target) = some parts)
    (own : ofTexts scheme authority target = some parts) : Whole authority target := by
  rw [read_written isScheme plain] at found
  simp only at found
  obtain ⟨foundAuthority, foundTarget⟩ := ofTexts_texts found
  obtain ⟨ownAuthority, ownTarget⟩ := ofTexts_texts own
  rw [ownAuthority] at foundAuthority
  rw [ownTarget] at foundTarget
  generalize body : ((authority ++ target).rdropWhile isControlOrSpace).dropWhile isSlash = text
    at foundAuthority foundTarget
  -- What is read is all that is written, so nothing was removed.
  have all : text = authority ++ target := by
    rw [foundAuthority, foundTarget]
    exact List.takeWhile_append_dropWhile.symm
  have kept : (authority ++ target).rdropWhile isControlOrSpace = authority ++ target := by
    apply (List.rdropWhile_prefix _ _).eq_of_length_le
    calc (authority ++ target).length = text.length := by rw [all]
      _ ≤ ((authority ++ target).rdropWhile isControlOrSpace).length := by
          rw [← body]
          exact (List.dropWhile_sublist _).length_le
  refine ⟨?_, ?_, ?_⟩
  · rintro rfl
    rw [ofTexts_nil] at own
    cases own
  · intro c member
    rw [foundAuthority] at member
    have inside := List.mem_takeWhile_imp member
    rwa [Bool.not_eq_true'] at inside
  · intro c last
    rw [List.rdropWhile_eq_self_iff] at kept
    obtain ⟨nonempty, rfl⟩ := List.mem_getLast?_eq_getLast last
    exact Bool.not_eq_true _ ▸ kept nonempty

/-- A parser that accepts some of the parts reads a URL as its authority and its target, if at all, exactly
where the two are whole. -/
theorem accepted_own_iff {accepts : UrlParts → Bool} {scheme authority target : List Char}
    (isScheme : scheme ∈ hostSchemes)
    (plain : ∀ c ∈ authority ++ target, isTabOrNewline c = false)
    (isTarget : ∀ c ∈ target.head?, endsAuthority c = true) :
    (∀ parts, (read (written scheme authority target)).filter accepts = some parts →
        ofTexts scheme authority target = some parts) ↔
      Whole authority target ∨ (read (written scheme authority target)).filter accepts = none := by
  constructor
  · intro own
    cases found : (read (written scheme authority target)).filter accepts with
    | none => exact .inr rfl
    | some parts =>
        obtain ⟨readParts, _⟩ := Option.filter_eq_some_iff.mp found
        exact .inl (whole_of_read isScheme plain readParts (own parts found))
  · rintro (whole | refused) parts found
    · rw [read_whole isScheme plain isTarget whole] at found
      exact (Option.filter_eq_some_iff.mp found).1
    · rw [refused] at found
      cases found

end UrlParts

end Polyengine.Library
