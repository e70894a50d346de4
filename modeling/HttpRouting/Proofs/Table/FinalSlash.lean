import HttpRouting.Proofs.Engine.Delimited
import HttpRouting.Proofs.Engine.Extension
import HttpRouting.Proofs.Table.Forms
import HttpRouting.Proofs.Template.FinalSlash

/-!
# A route and the final slash

Only the bare form of a route takes a text without a slash at its end, and only
the canonical form takes one with a slash there.  With the slash, the canonical
form finds what the bare form finds without it.
-/

namespace HttpRouting.Route

open Engine (Decides Slot firstHit remainder?)
open Engine.Slot (Captures)
open Template (HasWholeOptions scan)

/--
A template without brackets, doubled slashes and question marks behind braces,
whose optional tokens are whole segments.
-/
structure IsSegmented (route : Route) : Prop where
  bracket : '[' ∉ route.uri.toList
  slashes : ¬ ['/', '/'] <:+: route.uri.toList
  mark : ¬ ['}', '?'] <:+: route.uri.toList
  whole : HasWholeOptions (scan route.uri.toList)

/-- The constraints accept nothing but texts that are not empty and have no slashes. -/
def ConstrainsSegments (route : Route) : Prop :=
  ∀ entry ∈ route.constraints.entries, ∀ subject,
    Regex.Expression.Accepts entry.2 subject → subject ≠ [] ∧ '/' ∉ subject

variable {route : Route}

theorem compile_of_compileForms {canonical bare : Engine.CompiledPattern}
    (h : route.compileForms = .ok (canonical, bare)) :
    Slot.compile "" route.canonicalSlots = .ok canonical ∧ Slot.compile "" route.slots = .ok bare := by
  rw [compileForms] at h
  cases hcanonical : Slot.compile "" route.canonicalSlots with
  | error error => simp [hcanonical, bind, Except.bind] at h
  | ok first =>
      cases hbare : Slot.compile "" route.slots with
      | error error => simp [hcanonical, hbare, bind, Except.bind] at h
      | ok second =>
          simp only [hcanonical, hbare, bind, Except.bind, pure, Except.pure, Except.ok.injEq,
            Prod.mk.injEq] at h
          rw [h.1, h.2]
          exact ⟨rfl, rfl⟩

theorem IsSegmented.getLast?_of_captures (h : route.IsSegmented)
    (htrimmed : Path.IsTrimmed route.uri.toList) (hplain : route.HasPlainConstraints)
    (hsegments : route.ConstrainsSegments) {text : List Char} {params : List (String × String)}
    (hcaptures : Captures route.slots text params) : text.getLast? ≠ some '/' := by
  rw [slots, Template.absorbMarks_scan h.mark] at hcaptures
  refine Template.getLast?_of_captures ?_ (h.whole.precedes h.slashes) (fun hlast => ?_) hcaptures
  · exact Slot.forall_mem_languageOf_typeOf hplain (fun _ hne hfree => ⟨hne, hfree⟩) hsegments
  · have hfiller := htrimmed.last '/' (Template.getLast?_of_getLast?_scan hlast)
    simp [Path.isFiller] at hfiller

theorem IsSegmented.found_append_slash (h : route.IsSegmented)
    (htrimmed : Path.IsTrimmed route.uri.toList) (hplain : route.HasPlainConstraints)
    (hsegments : route.ConstrainsSegments) {basePath path closed : String} {rest : List Char}
    (hne : rest ≠ []) (hlast : rest.getLast? ≠ some '/')
    (hrest : remainder? basePath.toList path.toList = some rest)
    (hclosed : remainder? basePath.toList closed.toList = some (rest ++ ['/'])) (method : String) :
    route.found basePath method closed = route.found basePath method path := by
  cases hempty : route.uri.toList.isEmpty with
  | true =>
      have hnone {slots : List Slot} (hslots : slots = []) {text : List Char} (htext : text ≠ [])
          (params : List (String × String)) : Captures slots text params ↔ none = some params := by
        rw [hslots, Engine.Slot.captures_nil]
        exact iff_of_false (fun hcaptures => htext hcaptures.1) (by simp)
      have hslots := slots_of_isEmpty hempty
      have hcanonical := canonicalSlots_of_isEmpty hempty
      rw [found_of_captures hplain.regexes hrest (hnone hcanonical hne) (hnone hslots hne),
        found_of_captures hplain.regexes hclosed (hnone hcanonical (by simp)) (hnone hslots (by simp))]
  | false =>
      obtain ⟨canonical, bare, hforms, hdecides, hdecides'⟩ := exists_forms hplain.regexes
      obtain ⟨hcanonical, hbare⟩ := compile_of_compileForms hforms
      have hslots := canonicalSlots_of_not_isEmpty hempty
      have hopen (params : List (String × String)) : ¬ Captures route.canonicalSlots rest params := by
        rw [hslots, Engine.Slot.captures_append_literal]
        rintro ⟨front, rfl, -⟩
        simp at hlast
      have hshut (params : List (String × String)) : ¬ Captures route.slots (rest ++ ['/']) params :=
        fun hcaptures => h.getLast?_of_captures htrimmed hplain hsegments hcaptures (by simp)
      rw [hslots] at hcanonical
      let entry (form : Engine.CompiledPattern) : Engine.Entry Unit :=
        ⟨route.methods.map Text.upper, "", form, (), none⟩
      have hfirst : firstHit (Text.upper method) rest [entry canonical, entry bare] =
          firstHit (Text.upper method) rest [entry bare] :=
        Decides.firstHit_of_not_captures (entry canonical) hdecides hopen _ _
      have hsecond : firstHit (Text.upper method) (rest ++ ['/']) [entry canonical, entry bare] =
          firstHit (Text.upper method) (rest ++ ['/']) [entry canonical] :=
        Decides.firstHit_concat_of_not_captures (entry bare) hdecides' hshut _ [entry canonical]
      have hsame := Engine.firstHit_append_literal hplain.regexes hbare hcanonical
        (route.methods.map Text.upper) () none (Text.upper method) rest
      simp only [found, hrest, hclosed, entries, hforms]
      exact congrArg (Except.map _) (hsecond.trans (hsame.trans hfirst.symm))

end HttpRouting.Route
