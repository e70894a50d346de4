import HttpRouting.Proofs.Engine.Answering
import HttpRouting.Proofs.Regex.Reading.Origin

/-!
# What is written into slots

A hole takes the value given for it if its expression accepts the value.  An
expression may be unreadable by itself, though, and a match may have a group
that ends before it begins; then it can not be told whether it accepts.  The
text of slots fails at the first hole that does not take what is given.
-/

namespace HttpRouting

open Regex.Expression (Accepts)

/-! ## Expressions alone -/

namespace Regex.Expression

/-- Matching fails, since a group of the match ends before it begins. -/
def Crosses (text : String) (subject : List Char) : Prop :=
  ∃ e, read text.toList = .ok e ∧ e.matchesAll subject = .error .crossedGroup

def NeedsTrail (text : String) : Prop := ∃ e, read text.toList = .ok e ∧ e.node.needsTrail = true

theorem matchesAll_error {e : Regex.Expression} {subject : List Char} {error : Error}
    (h : e.matchesAll subject = .error error) : error = .crossedGroup ∧ e.node.needsTrail = true := by
  rw [matchesAll] at h
  cases hmatch : e.fullMatch subject with
  | error cause =>
      obtain rfl : cause = error := by simpa [hmatch, Except.map] using h
      exact fullMatch_error hmatch
  | ok answer => simp [hmatch, Except.map] at h

theorem Crosses.needsTrail {text : String} {subject : List Char} (h : Crosses text subject) :
    NeedsTrail text := by
  obtain ⟨e, hread, hmatch⟩ := h
  exact ⟨e, hread, (matchesAll_error hmatch).2⟩

/-- It can not be told whether an expression accepts a text. -/
inductive Fails (text : String) (subject : List Char) : Error → Prop
  | unreadable {error : Error} : read text.toList = .error error → Fails text subject error
  | crosses : Crosses text subject → Fails text subject .crossedGroup

end Regex.Expression

open Regex.Expression (Crosses Fails)

namespace Engine

theorem matchesType_of_read {regex value : String} {e : Regex.Expression}
    (h : Regex.Expression.read regex.toList = .ok e) :
    matchesType regex value = (e.matchesAll value.toList).mapError .regex := by
  rw [matchesType, h]
  rfl

theorem matchesType_of_accepts {regex value : String} (h : Accepts regex value.toList) :
    matchesType regex value = .ok true := by
  obtain ⟨e, hread, hmatch⟩ := h
  rw [matchesType_of_read hread, hmatch]
  rfl

theorem matchesType_of_crosses {regex value : String} (h : Crosses regex value.toList) :
    matchesType regex value = .error (.regex .crossedGroup) := by
  obtain ⟨e, hread, hmatch⟩ := h
  rw [matchesType_of_read hread, hmatch]
  rfl

theorem matchesType_of_refuses {regex value : String}
    (hread : ∃ e, Regex.Expression.read regex.toList = .ok e) (haccepts : ¬ Accepts regex value.toList)
    (hcrosses : ¬ Crosses regex value.toList) : matchesType regex value = .ok false := by
  obtain ⟨e, hread⟩ := hread
  rw [matchesType_of_read hread]
  cases hmatch : e.matchesAll value.toList with
  | error error =>
      obtain ⟨rfl, -⟩ := Regex.Expression.matchesAll_error hmatch
      exact absurd ⟨e, hread, hmatch⟩ hcrosses
  | ok answer =>
      cases answer with
      | false => rfl
      | true => exact absurd ⟨e, hread, hmatch⟩ haccepts

theorem accepts_or_refuses {regex : String} (h : Regex.Expression.IsPlainText regex)
    (value : String) : Accepts regex value.toList ∨ matchesType regex value = .ok false := by
  obtain ⟨answer, hanswer, hiff⟩ := matchesType_of_isPlain h value
  cases answer with
  | false => exact .inr hanswer
  | true => exact .inl ((accepts_iff h).mpr (hiff.mp rfl))

theorem matchesType_of_fails {regex value : String} {cause : Regex.Error}
    (h : Fails regex value.toList cause) : matchesType regex value = .error (.regex cause) := by
  cases h with
  | unreadable hread =>
      rw [matchesType, hread]
      rfl
  | crosses h => exact matchesType_of_crosses h

theorem matchesType_cases (regex value : String) :
    Accepts regex value.toList ∨ matchesType regex value = .ok false ∨
      ∃ cause, Fails regex value.toList cause := by
  cases hread : Regex.Expression.read regex.toList with
  | error cause => exact .inr (.inr ⟨cause, .unreadable hread⟩)
  | ok e =>
      by_cases haccepts : Accepts regex value.toList
      · exact .inl haccepts
      · by_cases hcrosses : Crosses regex value.toList
        · exact .inr (.inr ⟨_, .crosses hcrosses⟩)
        · exact .inr (.inl (matchesType_of_refuses ⟨e, hread⟩ haccepts hcrosses))

theorem not_fails_of_accepts {regex value : String} {cause : Regex.Error}
    (h : Accepts regex value.toList) : ¬ Fails regex value.toList cause := by
  intro hfails
  have hok := matchesType_of_accepts h
  rw [matchesType_of_fails hfails] at hok
  simp at hok

theorem not_fails_of_isPlain {regex value : String} {cause : Regex.Error}
    (h : Regex.Expression.IsPlainText regex) : ¬ Fails regex value.toList cause := by
  rcases accepts_or_refuses h value with haccepts | hrefuses
  · exact not_fails_of_accepts haccepts
  · intro hfails
    rw [matchesType_of_fails hfails] at hrefuses
    simp at hrefuses

/-! ## Filling slots -/

namespace Slot

def Takes (given : Pairs Value) : Slot → Prop
  | .literal _ => True
  | .hole _ param regex optional =>
      match givenValue? given param with
      | some value => Accepts regex value.plain.toList
      | none => optional = true

def Answers (given : Pairs Value) : Slot → Prop
  | .literal _ => True
  | .hole _ param regex _ =>
      ∀ value, givenValue? given param = some value →
        Accepts regex value.plain.toList ∨ matchesType regex value.plain = .ok false

theorem writeHole_of_takes {name : String} {given : Pairs Value} {lead : Option Char}
    {param regex : String} {optional : Bool} (h : (hole lead param regex optional).Takes given) :
    writeHole name given lead param regex optional =
      .ok (fillHole lead (givenText? given param)) := by
  rw [Takes] at h
  rw [writeHole, givenText?]
  cases hvalue : givenValue? given param with
  | none =>
      rw [hvalue] at h
      exact if_pos h
  | some value =>
      rw [hvalue] at h
      simp only [matchesType_of_accepts h]
      rfl

theorem writeHole_of_not_takes {name : String} {given : Pairs Value} {lead : Option Char}
    {param regex : String} {optional : Bool} (hanswers : (hole lead param regex optional).Answers given)
    (h : ¬ (hole lead param regex optional).Takes given) :
    ∃ error, writeHole name given lead param regex optional = .error (.pattern error) := by
  rw [Takes] at h
  rw [writeHole]
  cases hvalue : givenValue? given param with
  | none =>
      rw [hvalue] at h
      exact ⟨_, if_neg h⟩
  | some value =>
      rw [hvalue] at h
      simp only [(hanswers value hvalue).resolve_left h]
      exact ⟨_, rfl⟩

theorem write_of_takes (name : String) {given : Pairs Value} {slots : List Slot}
    (h : ∀ slot ∈ slots, slot.Takes given) :
    write name given slots = .ok (fill (givenText? given) slots) := by
  induction slots with
  | nil => rfl
  | cons slot rest ih =>
      rw [List.forall_mem_cons] at h
      cases slot with
      | literal c =>
          rw [write, ih h.2]
          rfl
      | hole lead param regex optional =>
          rw [write, writeHole_of_takes h.1, ih h.2]
          rfl

theorem write_literal_eq_error {name : String} {given : Pairs Value} {c : Char} {rest : List Slot}
    {error : EngineError} : write name given (.literal c :: rest) = .error error ↔
      write name given rest = .error error := by
  rw [write]
  cases write name given rest <;> simp [Except.map]

theorem write_hole_eq_error {name : String} {given : Pairs Value} {lead : Option Char}
    {param regex : String} {optional : Bool} {rest : List Slot} {error : EngineError} :
    write name given (.hole lead param regex optional :: rest) = .error error ↔
      writeHole name given lead param regex optional = .error error ∨
        (∃ text, writeHole name given lead param regex optional = .ok text) ∧
          write name given rest = .error error := by
  rw [write]
  cases writeHole name given lead param regex optional with
  | error cause => simp [bind, Except.bind]
  | ok text => cases write name given rest <;> simp [bind, Except.bind, pure, Except.pure]

theorem write_of_not_takes (name : String) {given : Pairs Value} {slots : List Slot}
    (hanswers : ∀ slot ∈ slots, slot.Answers given) (h : ¬ ∀ slot ∈ slots, slot.Takes given) :
    ∃ error, write name given slots = .error (.pattern error) := by
  induction slots with
  | nil => simp at h
  | cons slot rest ih =>
      rw [List.forall_mem_cons] at h hanswers
      cases slot with
      | literal c =>
          obtain ⟨error, herror⟩ := ih hanswers.2 fun hrest => h ⟨trivial, hrest⟩
          exact ⟨error, write_literal_eq_error.mpr herror⟩
      | hole lead param regex optional =>
          by_cases hfirst : (hole lead param regex optional).Takes given
          · obtain ⟨error, herror⟩ := ih hanswers.2 fun hrest => h ⟨hfirst, hrest⟩
            exact ⟨error, write_hole_eq_error.mpr (.inr ⟨⟨_, writeHole_of_takes hfirst⟩, herror⟩)⟩
          · obtain ⟨error, herror⟩ := writeHole_of_not_takes hanswers.1 hfirst
            exact ⟨error, write_hole_eq_error.mpr (.inl herror)⟩

/-! ## Slots that can not be filled -/

/-- The first hole that does not take what is given for it fails. -/
inductive Fails (given : Pairs Value) (cause : Regex.Error) : List Slot → Prop
  | here {lead : Option Char} {param regex : String} {optional : Bool} {value : Value}
      {rest : List Slot} : givenValue? given param = some value →
      Regex.Expression.Fails regex value.plain.toList cause →
      Fails given cause (.hole lead param regex optional :: rest)
  | later {slot : Slot} {rest : List Slot} : slot.Takes given → Fails given cause rest →
      Fails given cause (slot :: rest)

theorem Fails.exists_hole {given : Pairs Value} {cause : Regex.Error} {slots : List Slot}
    (h : Fails given cause slots) :
    ∃ lead param regex optional value, .hole lead param regex optional ∈ slots ∧
      givenValue? given param = some value ∧
      Regex.Expression.Fails regex value.plain.toList cause := by
  induction h with
  | here hvalue hfails => exact ⟨_, _, _, _, _, List.mem_cons_self, hvalue, hfails⟩
  | later _ _ ih =>
      obtain ⟨lead, param, regex, optional, value, hmem, hfails⟩ := ih
      exact ⟨lead, param, regex, optional, value, List.mem_cons_of_mem _ hmem, hfails⟩

theorem writeHole_cases (name : String) (given : Pairs Value) (lead : Option Char)
    (param regex : String) (optional : Bool) :
    (hole lead param regex optional).Takes given ∨
      (∃ error, writeHole name given lead param regex optional = .error (.pattern error)) ∨
      ∃ value cause, givenValue? given param = some value ∧
        Regex.Expression.Fails regex value.plain.toList cause ∧
        writeHole name given lead param regex optional = .error (.regex cause) := by
  by_cases htakes : (hole lead param regex optional).Takes given
  · exact .inl htakes
  · cases hvalue : givenValue? given param with
    | none =>
        refine .inr (.inl (writeHole_of_not_takes ?_ htakes))
        intro value h
        simp [hvalue] at h
    | some value =>
        rcases matchesType_cases regex value.plain with haccepts | hrefuses | ⟨cause, hfails⟩
        · refine absurd ?_ htakes
          simpa only [Takes, hvalue] using haccepts
        · refine .inr (.inl (writeHole_of_not_takes ?_ htakes))
          intro other h
          obtain rfl := Option.some.inj (hvalue.symm.trans h)
          exact .inr hrefuses
        · refine .inr (.inr ⟨value, cause, rfl, hfails, ?_⟩)
          simp only [writeHole, hvalue, matchesType_of_fails hfails]
          rfl

theorem write_of_fails (name : String) {given : Pairs Value} {cause : Regex.Error}
    {slots : List Slot} (h : Fails given cause slots) :
    write name given slots = .error (.regex cause) := by
  induction h with
  | here hvalue hfails =>
      refine write_hole_eq_error.mpr (.inl ?_)
      simp only [writeHole, hvalue, matchesType_of_fails hfails]
      rfl
  | @later slot rest htakes _ ih =>
      cases slot with
      | literal c => exact write_literal_eq_error.mpr ih
      | hole lead param regex optional =>
          exact write_hole_eq_error.mpr (.inr ⟨⟨_, writeHole_of_takes htakes⟩, ih⟩)

theorem fails_of_write {name : String} {given : Pairs Value} {slots : List Slot}
    {error : EngineError} (h : write name given slots = .error error) :
    (∃ e, error = .pattern e) ∨ ∃ cause, error = .regex cause ∧ Fails given cause slots := by
  induction slots with
  | nil => simp [write] at h
  | cons slot rest ih =>
      have hlater (htakes : slot.Takes given) (hrest : write name given rest = .error error) :
          (∃ e, error = .pattern e) ∨
            ∃ cause, error = .regex cause ∧ Fails given cause (slot :: rest) := by
        rcases ih hrest with hpattern | ⟨cause, hcause, hfails⟩
        · exact .inl hpattern
        · exact .inr ⟨cause, hcause, .later htakes hfails⟩
      cases slot with
      | literal c => exact hlater trivial (write_literal_eq_error.mp h)
      | hole lead param regex optional =>
          rw [write_hole_eq_error] at h
          rcases writeHole_cases name given lead param regex optional with
            htakes | ⟨e, hhole⟩ | ⟨value, cause, hvalue, hfails, hhole⟩
          · refine hlater htakes (h.resolve_left ?_).2
            simp [writeHole_of_takes htakes]
          · obtain rfl : .pattern e = error := by simpa [hhole] using h
            exact .inl ⟨e, rfl⟩
          · obtain rfl : .regex cause = error := by simpa [hhole] using h
            exact .inr ⟨cause, rfl, .here hvalue hfails⟩

theorem pattern_of_writeHole {name : String} {given : Pairs Value} {lead : Option Char}
    {param regex : String} {optional : Bool} {error : PatternError}
    (h : writeHole name given lead param regex optional = .error (.pattern error)) :
    error = .missingValue name param ∨ ∃ value, error = .unfitValue name param value := by
  rw [writeHole] at h
  cases hvalue : givenValue? given param with
  | none =>
      cases optional with
      | true => simp [hvalue] at h
      | false =>
          simp only [hvalue, Bool.false_eq_true, if_false, Except.error.injEq,
            EngineError.pattern.injEq] at h
          exact .inl h.symm
  | some value =>
      rcases matchesType_cases regex value.plain with haccepts | hrefuses | ⟨cause, hfails⟩
      · simp [hvalue, matchesType_of_accepts haccepts, bind, Except.bind, pure, Except.pure] at h
      · simp only [hvalue, hrefuses, bind, Except.bind, Bool.false_eq_true, if_false, throw, throwThe,
          MonadExceptOf.throw, Except.error.injEq, EngineError.pattern.injEq] at h
        exact .inr ⟨value.plain, h.symm⟩
      · simp [hvalue, matchesType_of_fails hfails, bind, Except.bind] at h

theorem pattern_of_write {name : String} {given : Pairs Value} {slots : List Slot}
    {error : PatternError} (h : write name given slots = .error (.pattern error)) :
    ∃ param, error = .missingValue name param ∨ ∃ value, error = .unfitValue name param value := by
  induction slots with
  | nil => simp [write] at h
  | cons slot rest ih =>
      cases slot with
      | literal c => exact ih (write_literal_eq_error.mp h)
      | hole lead param regex optional =>
          rcases write_hole_eq_error.mp h with hhole | ⟨-, hrest⟩
          · exact ⟨param, pattern_of_writeHole hhole⟩
          · exact ih hrest

end Slot

end Engine

end HttpRouting
