import HttpRouting.Proofs.Engine.Capturing
import HttpRouting.Proofs.Table.Serving
import HttpRouting.Proofs.Template.Filling

/-!
# The two forms of a route alone

A route with plain constraints compiles, and each of its forms decides which
texts spell its slots.
-/

namespace HttpRouting

open Engine (Decides Entry Slot firstHit remainder?)
open Template.Compiler (typeOf)

namespace Route

theorem regexes_canonicalSlots (route : Route) :
    Slot.regexes route.canonicalSlots = Slot.regexes route.slots := by
  rw [canonicalSlots_eq]
  split
  next h => rw [slots_of_isEmpty h]
  next => exact Slot.regexes_append_literal route.slots '/'

theorem exists_token_of_regex {route : Route} {regex : String}
    (h : regex ∈ Slot.regexes route.slots) :
    ∃ t ∈ Template.tokens (Template.absorbMarks (Template.scan route.uri.toList)),
      regex = typeOf route.constraints t := by
  obtain ⟨slot, hslot, hregex⟩ := List.mem_filterMap.mp h
  cases slot with
  | literal c => simp at hregex
  | hole lead param own optional =>
      obtain rfl : own = regex := Option.some.inj hregex
      obtain ⟨t, ht, -, hown, -⟩ := Template.exists_token_of_hole hslot
      exact ⟨t, ht, hown⟩

theorem HasPlainConstraints.regexes {route : Route} (h : route.HasPlainConstraints) :
    ∀ regex ∈ Slot.regexes route.slots, Regex.Expression.IsPlainText regex := by
  intro regex hregex
  obtain ⟨t, -, rfl⟩ := exists_token_of_regex hregex
  cases hconstraint : Template.Compiler.constraint? route.constraints t with
  | none =>
      rw [typeOf, hconstraint]
      exact Engine.arePlain_defaultTypes "" _ rfl
  | some own =>
      obtain ⟨hfound, -⟩ := Option.filter_eq_some_iff.mp hconstraint
      have hown := h _ (Pairs.mem_of_find? hfound)
      rw [typeOf, hconstraint, Option.getD_some]
      exact hown

theorem HasPlainConstraints.regexes_canonical {route : Route} (h : route.HasPlainConstraints) :
    ∀ regex ∈ Slot.regexes route.canonicalSlots, Regex.Expression.IsPlainText regex := by
  rw [route.regexes_canonicalSlots]
  exact h.regexes

section

variable {route : Route}
  (hplain : ∀ regex ∈ Slot.regexes route.slots, Regex.Expression.IsPlainText regex)

include hplain

theorem exists_forms : ∃ canonical bare, route.compileForms = .ok (canonical, bare) ∧
    Decides canonical route.canonicalSlots ∧ Decides bare route.slots := by
  have hplain' : ∀ regex ∈ Slot.regexes route.canonicalSlots, Regex.Expression.IsPlainText regex := by
    rwa [regexes_canonicalSlots]
  obtain ⟨canonical, _, _, hcanonical, -⟩ := Slot.exists_compiled hplain' ""
  obtain ⟨bare, _, _, hbare, -⟩ := Slot.exists_compiled hplain ""
  refine ⟨_, _, ?_, Engine.decides_of_compile hplain' hcanonical,
    Engine.decides_of_compile hplain hbare⟩
  rw [compileForms, hcanonical, hbare]
  rfl

theorem check_eq_ok : route.check = .ok () := by
  obtain ⟨canonical, bare, hforms, -⟩ := exists_forms hplain
  rw [check, hforms]
  rfl

theorem exists_found (basePath method path : String) :
    ∃ answer, route.found basePath method path = .ok answer := by
  obtain ⟨canonical, bare, hforms, hcanonical, hbare⟩ := exists_forms hplain
  rw [found]
  split
  next => exact ⟨none, rfl⟩
  next rest _ =>
    have hanswers : ∀ entry ∈ route.entries, entry.Answers := by
      rw [entries, hforms]
      exact List.forall_mem_cons.mpr ⟨Decides.answers hcanonical,
        List.forall_mem_singleton.mpr (Decides.answers hbare)⟩
    obtain ⟨answer, hanswer⟩ := Engine.exists_firstHit hanswers (Text.upper method) rest
    exact ⟨_, by rw [hanswer]; rfl⟩

theorem found_of_captures {basePath method path : String} {rest : List Char}
    (hrest : remainder? basePath.toList path.toList = some rest)
    {canonical bare : Option (List (String × String))}
    (hcanonical : ∀ params, Slot.Captures route.canonicalSlots rest params ↔ canonical = some params)
    (hbare : ∀ params, Slot.Captures route.slots rest params ↔ bare = some params) :
    route.found basePath method path =
      .ok (if Text.upper method ∈ route.methods.map Text.upper then
        (canonical.or bare).map fun params => ⟨0, ⟨.ofList params⟩⟩ else none) := by
  obtain ⟨first, second, hforms, hfirst, hsecond⟩ := exists_forms hplain
  simp only [found, hrest, entries, hforms]
  split
  next hmethod =>
    have hmethod' := List.contains_iff_mem.mpr hmethod
    rw [Decides.firstHit_cons ⟨_, "", first, (), none⟩ hfirst hmethod' hcanonical]
    cases canonical with
    | some params => rfl
    | none =>
        simp only
        rw [Decides.firstHit_cons ⟨_, "", second, (), none⟩ hsecond hmethod' hbare]
        cases bare <;> rfl
  next hmethod =>
    have hmethod' : (route.methods.map Text.upper).contains (Text.upper method) = false := by
      simpa using hmethod
    simp only [firstHit, Entry.fits?, hmethod', Bool.false_eq_true, if_false]
    rfl

end

end Route

end HttpRouting
