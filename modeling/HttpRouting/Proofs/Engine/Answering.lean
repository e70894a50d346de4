import HttpRouting.Proofs.Engine.Generation
import HttpRouting.Proofs.Engine.Registration

/-!
# Answers of entries

An entry answers when it never fails, whatever is asked.  Entries whose types
are all plain do so, and what they find are values with which their slots spell
the text.  Where all entries answer, so does their list.
-/

namespace HttpRouting.Engine

open Slot

variable {α : Type}

/-! ## Entries that answer -/

def Entry.Answers (entry : Entry α) : Prop :=
  ∀ method rest, ∃ fit, entry.fits? method rest = .ok fit ∧
    ∀ cursor, fit = some cursor → ∃ hit, entry.hit cursor = .ok hit

section

variable {method : String} {rest : List Char} {first second : List (Entry α)}

theorem exists_firstHit (h : ∀ entry ∈ first, entry.Answers) (method : String) (rest : List Char) :
    ∃ answer, firstHit method rest first = .ok answer := by
  induction first with
  | nil => exact ⟨none, rfl⟩
  | cons entry entries ih =>
      obtain ⟨fit, hfit, hhit⟩ := h entry List.mem_cons_self method rest
      rw [firstHit, hfit]
      cases fit with
      | none => exact ih fun other hother => h other (List.mem_cons_of_mem _ hother)
      | some cursor =>
          obtain ⟨hit, hhit⟩ := hhit cursor rfl
          exact ⟨some hit, by simp only [bind, Except.bind, hhit, Except.map]⟩

theorem fits?_of_firstHit_eq_none (h : firstHit method rest first = .ok none) {entry : Entry α}
    (hentry : entry ∈ first) : entry.fits? method rest = .ok none := by
  induction first with
  | nil => simp at hentry
  | cons other entries ih =>
      rw [firstHit] at h
      cases hfits : other.fits? method rest with
      | error error => simp [hfits, bind, Except.bind] at h
      | ok fit =>
          cases fit with
          | none =>
              simp only [hfits, bind, Except.bind] at h
              rcases List.mem_cons.mp hentry with rfl | hentry
              · exact hfits
              · exact ih h hentry
          | some cursor =>
              simp only [hfits, bind, Except.bind] at h
              cases hhit : other.hit cursor <;> simp [hhit, Except.map] at h

theorem firstHit_append_of_some {hit : Hit α} (h : firstHit method rest first = .ok (some hit)) :
    firstHit method rest (first ++ second) = .ok (some hit) := by
  rw [firstHit_append, h]

theorem firstHit_append_of_none (h : firstHit method rest first = .ok none) :
    firstHit method rest (first ++ second) = firstHit method rest second := by
  rw [firstHit_append, h]

theorem firstHit_append_of_error {error : EngineError} (h : firstHit method rest first = .error error) :
    firstHit method rest (first ++ second) = .error error := by
  rw [firstHit_append, h]

theorem firstHit_cons_of_fits {entry : Entry α} {cursor : Regex.Cursor}
    (h : entry.fits? method rest = .ok (some cursor)) :
    firstHit method rest (entry :: second) = (entry.hit cursor).map some := by
  rw [firstHit, h]
  rfl

end

/-! ## Entries of plain slots -/

def ArePlain (types : Pairs String) : Prop :=
  ∀ type regex, types.find? type = some regex → Regex.Expression.IsPlainText regex

theorem arePlain_defaultTypes : ArePlain defaultTypes := by
  intro type regex h
  have hmem := Pairs.mem_of_find? h
  simp only [defaultTypes, List.mem_cons, Prod.mk.injEq, List.not_mem_nil, or_false] at hmem
  rcases hmem with ⟨-, rfl⟩ | ⟨-, rfl⟩ | ⟨-, rfl⟩ | ⟨-, rfl⟩ <;> decide +kernel

theorem isPlainText_anySegment : Regex.Expression.IsPlainText Template.Compiler.anySegment :=
  arePlain_defaultTypes "" _ rfl

theorem ArePlain.regexes {types : Pairs String} (h : ArePlain types) {pieces : List Pattern.Piece}
    {slots : List Slot} (hslots : resolve? types pieces = some slots) :
    ∀ regex ∈ Slot.regexes slots, Regex.Expression.IsPlainText regex :=
  forall_regexes_of_resolve? h hslots

theorem IsSound.exists_slots {e : Engine α} (h : e.IsSound) (hplain : ArePlain e.types)
    {entry : Entry α} (hentry : entry ∈ e.entries) :
    ∃ slots, resolve? e.types (Pattern.scan entry.pattern.toList) = some slots ∧
      Decides entry.compiled slots := by
  obtain ⟨slots, hslots, hcompile⟩ := exists_slots_of_compileAfresh (h.registered entry hentry)
  exact ⟨slots, hslots, decides_of_compile (hplain.regexes hslots) hcompile⟩

section

variable {entry : Entry α} {slots : List Slot} {method : String} {rest : List Char}

theorem Decides.hit (h : Decides entry.compiled slots) {cursor : Regex.Cursor}
    (hfits : entry.fits? method rest = .ok (some cursor)) :
    ∃ values, Spells slots values rest ∧
      entry.hit cursor = .ok ⟨entry.target, .ofList (captured slots values), entry.name⟩ := by
  have hfull : entry.compiled.expression.fullMatch rest = .ok (some cursor) := by
    rw [Entry.fits?] at hfits
    split at hfits
    next =>
      cases hmatch : entry.compiled.expression.fullMatch rest with
      | error error => simp [hmatch, Except.mapError] at hfits
      | ok answer => simpa [hmatch, Except.mapError] using hfits
    next => simp at hfits
  obtain ⟨values, hspells, hcaptures⟩ := h.sound rest cursor hfull
  refine ⟨values, hspells, ?_⟩
  rw [Entry.hit, hcaptures]
  rfl

theorem Decides.answers (h : Decides entry.compiled slots) : entry.Answers := by
  intro method rest
  by_cases hmethod : entry.methods.contains method = true
  · obtain ⟨answer, hanswer⟩ := h.total rest
    have hfits : entry.fits? method rest = .ok answer := by
      rw [Entry.fits?, if_pos hmethod, hanswer]
      rfl
    refine ⟨answer, hfits, fun cursor hcursor => ?_⟩
    obtain ⟨values, -, hhit⟩ := h.hit (hcursor ▸ hfits)
    exact ⟨_, hhit⟩
  · exact ⟨none, if_neg hmethod, by simp⟩

theorem Decides.fits (h : Decides entry.compiled slots) (hmethod : entry.methods.contains method = true)
    {values : List (Option (List Char))} (hspells : Spells slots values rest) :
    ∃ cursor, entry.fits? method rest = .ok (some cursor) := by
  obtain ⟨cursor, hcursor⟩ := h.complete rest values hspells
  exact ⟨cursor, by rw [Entry.fits?, if_pos hmethod, hcursor]; rfl⟩

end

end HttpRouting.Engine
