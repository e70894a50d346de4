import HttpRouting.Engine
import HttpRouting.Proofs.Pairs

/-!
# Resolved patterns

A pattern whose types have been looked up is a list of slots: characters, and
holes for parameters with the expression that their values match.  The
expression that is compiled depends on the slots alone, so types may be called
anything and may be joined by others without any effect on a pattern.
-/

namespace HttpRouting.Engine

variable {α : Type}

/-- A character, or a hole for the value of a parameter, with the slash or dot before it. -/
inductive Slot where
  | literal (c : Char)
  | hole (lead : Option Char) (param regex : String) (optional : Bool)
deriving DecidableEq, Repr

namespace Slot

def resolve? (types : Pairs String) : List Pattern.Piece → Option (List Slot)
  | [] => some []
  | .literal c :: rest => (resolve? types rest).map (.literal c :: ·)
  | .block b :: rest =>
      (types.find? b.type).bind fun regex =>
        (resolve? types rest).map (.hole b.lead b.param regex b.optional :: ·)

/-- The expression of slots whose holes are counted from an index. -/
def regexFrom : Nat → List Slot → List Char
  | _, [] => []
  | index, .literal c :: rest => Regex.quoteMeta [c] ++ regexFrom index rest
  | index, .hole lead param regex optional :: rest =>
      blockRegex ⟨lead, "", param, optional⟩ index regex ++ regexFrom (index + 1) rest

def groupsFrom : Nat → List Slot → List (String × String)
  | _, [] => []
  | index, .literal _ :: rest => groupsFrom index rest
  | index, .hole _ param _ _ :: rest => (groupName index, param) :: groupsFrom (index + 1) rest

def regexes (slots : List Slot) : List String :=
  slots.filterMap fun
    | .literal _ => none
    | .hole _ _ regex _ => some regex

theorem regexes_append_literal (slots : List Slot) (c : Char) :
    regexes (slots ++ [.literal c]) = regexes slots := by
  simp [regexes, List.filterMap_append]

theorem groupsFrom_append_literal (index : Nat) (slots : List Slot) (c : Char) :
    groupsFrom index (slots ++ [.literal c]) = groupsFrom index slots := by
  induction slots generalizing index with
  | nil => rfl
  | cons slot rest ih =>
      cases slot with
      | literal d => exact ih index
      | hole lead param regex optional => exact congrArg (_ :: ·) (ih (index + 1))

/-- The compiled form of slots; the pattern they come from is only named in errors. -/
def compile (pattern : String) (slots : List Slot) : Except EngineError CompiledPattern := do
  let expression ← (Regex.Expression.read (regexFrom 0 slots)).mapError (blame pattern)
  return ⟨expression, .ofList (groupsFrom 0 slots)⟩

end Slot

open Slot

/-! ## Compiling through slots -/

theorem patternRegex_of_resolve? {types : Pairs String} {pattern : String}
    {pieces : List Pattern.Piece} {slots : List Slot} (index : Nat)
    (h : resolve? types pieces = some slots) :
    patternRegex types pattern index pieces = .ok (regexFrom index slots, groupsFrom index slots) := by
  induction pieces generalizing index slots with
  | nil =>
      simp only [resolve?, Option.some.injEq] at h
      subst h
      rfl
  | cons piece rest ih =>
      cases piece with
      | literal c =>
          obtain ⟨more, hmore, rfl⟩ := Option.map_eq_some_iff.mp h
          rw [patternRegex, ih index hmore]
          rfl
      | block b =>
          obtain ⟨regex, hregex, h⟩ := Option.bind_eq_some_iff.mp h
          obtain ⟨more, hmore, rfl⟩ := Option.map_eq_some_iff.mp h
          simp only [patternRegex, hregex, ih (index + 1) hmore]
          rfl

theorem patternRegex_of_resolve?_eq_none {types : Pairs String} {pattern : String}
    {pieces : List Pattern.Piece} (index : Nat) (h : resolve? types pieces = none) :
    ∃ type, patternRegex types pattern index pieces = .error (.unknownType type pattern) := by
  induction pieces generalizing index with
  | nil => simp [resolve?] at h
  | cons piece rest ih =>
      cases piece with
      | literal c =>
          obtain ⟨type, htype⟩ := ih index (by simpa [resolve?] using h)
          exact ⟨type, by rw [patternRegex, htype]; rfl⟩
      | block b =>
          cases hregex : types.find? b.type with
          | none => exact ⟨b.type, by simp only [patternRegex, hregex]⟩
          | some regex =>
              obtain ⟨type, htype⟩ := ih (index + 1) (by simpa [resolve?, hregex] using h)
              refine ⟨type, ?_⟩
              simp only [patternRegex, hregex, htype]
              rfl

theorem compileAfresh_of_resolve? {types : Pairs String} {pattern : String} {slots : List Slot}
    (h : resolve? types (Pattern.scan pattern.toList) = some slots) :
    compileAfresh types pattern = Slot.compile pattern slots := by
  rw [compileAfresh, patternRegex_of_resolve? 0 h]
  rfl

theorem exists_slots_of_compileAfresh {types : Pairs String} {pattern : String}
    {compiled : CompiledPattern} (h : compileAfresh types pattern = .ok compiled) :
    ∃ slots, resolve? types (Pattern.scan pattern.toList) = some slots ∧
      Slot.compile pattern slots = .ok compiled := by
  cases hslots : resolve? types (Pattern.scan pattern.toList) with
  | none =>
      obtain ⟨type, htype⟩ := @patternRegex_of_resolve?_eq_none types pattern _ 0 hslots
      rw [compileAfresh, htype] at h
      simp [Except.mapError, bind, Except.bind] at h
  | some slots => exact ⟨slots, rfl, by rw [← compileAfresh_of_resolve? hslots, h]⟩

/-! ## Filling through slots -/

namespace Slot

def writeHole (name : String) (given : Pairs Value) (lead : Option Char) (param regex : String)
    (optional : Bool) : Except EngineError (List Char) :=
  match givenValue? given param with
  | some value => do
    if ← matchesType regex value.plain then return lead.toList ++ value.plain.toList
    else throw (.pattern (.unfitValue name param value.plain))
  | none => if optional then .ok [] else .error (.pattern (.missingValue name param))

def write (name : String) (given : Pairs Value) : List Slot → Except EngineError (List Char)
  | [] => .ok []
  | .literal c :: rest => (write name given rest).map (c :: ·)
  | .hole lead param regex optional :: rest => do
    let text ← writeHole name given lead param regex optional
    return text ++ (← write name given rest)

end Slot

theorem fillBlock_of_find? {types : Pairs String} {b : Pattern.Block} {regex : String}
    (h : types.find? b.type = some regex) (name : String) (given : Pairs Value) :
    fillBlock types name given b = Slot.writeHole name given b.lead b.param regex b.optional := by
  unfold fillBlock Slot.writeHole
  cases givenValue? given b.param with
  | none => rfl
  | some value => simp only [h]

theorem fillPieces_of_resolve? {types : Pairs String} {pieces : List Pattern.Piece}
    {slots : List Slot} (h : resolve? types pieces = some slots) (name : String)
    (given : Pairs Value) : fillPieces types name given pieces = Slot.write name given slots := by
  induction pieces generalizing slots with
  | nil =>
      obtain rfl := Option.some.inj h
      rfl
  | cons piece rest ih =>
      cases piece with
      | literal c =>
          obtain ⟨more, hmore, rfl⟩ := Option.map_eq_some_iff.mp h
          rw [fillPieces, ih hmore, Slot.write]
      | block b =>
          obtain ⟨regex, hregex, h⟩ := Option.bind_eq_some_iff.mp h
          obtain ⟨more, hmore, rfl⟩ := Option.map_eq_some_iff.mp h
          rw [fillPieces, ih hmore, Slot.write, fillBlock_of_find? hregex]

theorem forall_regexes_of_resolve? {types : Pairs String} {P : String → Prop}
    (h : ∀ type regex, types.find? type = some regex → P regex) {pieces : List Pattern.Piece}
    {slots : List Slot} (hslots : resolve? types pieces = some slots) :
    ∀ regex ∈ Slot.regexes slots, P regex := by
  induction pieces generalizing slots with
  | nil =>
      obtain rfl := Option.some.inj hslots
      simp [Slot.regexes]
  | cons piece rest ih =>
      cases piece with
      | literal c =>
          obtain ⟨more, hmore, rfl⟩ := Option.map_eq_some_iff.mp hslots
          have hrest := ih hmore
          exact hrest
      | block b =>
          obtain ⟨regex, hregex, hslots⟩ := Option.bind_eq_some_iff.mp hslots
          obtain ⟨more, hmore, rfl⟩ := Option.map_eq_some_iff.mp hslots
          exact List.forall_mem_cons.mpr ⟨h _ _ hregex, ih hmore⟩

/-! ## More types -/

theorem resolve?_of_extends {types more : Pairs String} (hext : types.Extends more)
    {pieces : List Pattern.Piece} {slots : List Slot} (h : resolve? types pieces = some slots) :
    resolve? more pieces = some slots := by
  induction pieces generalizing slots with
  | nil => simpa [resolve?] using h
  | cons piece rest ih =>
      cases piece with
      | literal c =>
          obtain ⟨slots, hslots, rfl⟩ := Option.map_eq_some_iff.mp h
          simp [resolve?, ih hslots]
      | block b =>
          obtain ⟨regex, hregex, h⟩ := Option.bind_eq_some_iff.mp h
          obtain ⟨slots, hslots, rfl⟩ := Option.map_eq_some_iff.mp h
          simp [resolve?, hext _ _ hregex, ih hslots]

theorem compileAfresh_of_extends {types more : Pairs String} (hext : types.Extends more)
    {pattern : String} {compiled : CompiledPattern}
    (h : compileAfresh types pattern = .ok compiled) :
    compileAfresh more pattern = .ok compiled := by
  obtain ⟨slots, hslots, hcompile⟩ := exists_slots_of_compileAfresh h
  rw [compileAfresh_of_resolve? (resolve?_of_extends hext hslots), hcompile]

/-! ## Errors of compilation -/

end HttpRouting.Engine

namespace HttpRouting

/-- The error without the pattern in which it was noticed. -/
def PatternError.unnamed : PatternError → PatternError
  | .invalid _ error => .invalid "" error
  | error => error

def EngineError.unnamed : EngineError → EngineError
  | .pattern error => .pattern error.unnamed
  | error => error

theorem Engine.Slot.mapError_compile (pattern : String) (slots : List Slot) :
    (Slot.compile pattern slots).mapError EngineError.unnamed = Slot.compile "" slots := by
  unfold Slot.compile
  cases Regex.Expression.read (regexFrom 0 slots) with
  | ok expression => rfl
  | error cause => cases cause <;> rfl

theorem Engine.Slot.compile_error {pattern : String} {slots : List Slot} {error : EngineError}
    (h : Slot.compile pattern slots = .error error) :
    (∃ e, error = .pattern (.invalid pattern e)) ∨
      ∃ e, error = .regex e ∧ ∀ cause position, e ≠ .invalid cause position := by
  unfold Slot.compile at h
  cases hread : Regex.Expression.read (regexFrom 0 slots) with
  | ok expression => simp [hread, Except.mapError, bind, Except.bind, pure, Except.pure] at h
  | error cause =>
      simp only [hread, Except.mapError, bind, Except.bind, Except.error.injEq] at h
      subst h
      cases cause <;> simp [blame]

theorem Engine.Slot.compile_of_ok {first : String} (second : String) {slots : List Slot}
    {compiled : CompiledPattern} (h : Slot.compile first slots = .ok compiled) :
    Slot.compile second slots = .ok compiled := by
  unfold Slot.compile at h ⊢
  cases hread : Regex.Expression.read (regexFrom 0 slots) with
  | ok expression => simpa [hread, Except.mapError, bind, Except.bind, pure, Except.pure] using h
  | error cause => simp [hread, Except.mapError, bind, Except.bind] at h

end HttpRouting
