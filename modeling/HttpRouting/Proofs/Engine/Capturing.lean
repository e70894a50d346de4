import HttpRouting.Proofs.Engine.Answering

/-!
# What slots capture

Slots capture values from a text that they spell, piece by piece.  Where they
can do so in one way at most, an entry finds these values and no others.
-/

namespace HttpRouting.Engine

namespace Slot

/-- The slots can spell a text in such a way that these parameters are captured. -/
def Captures (slots : List Slot) (text : List Char) (params : List (String × String)) : Prop :=
  ∃ values, Spells slots values text ∧ captured slots values = params

variable {rest : List Slot} {text : List Char} {params : List (String × String)}

theorem captures_nil : Captures [] text params ↔ text = [] ∧ params = [] := by
  constructor
  · rintro ⟨values, hspells, rfl⟩
    cases hspells
    exact ⟨rfl, rfl⟩
  · rintro ⟨rfl, rfl⟩
    exact ⟨[], .nil, rfl⟩

theorem captures_literal {c : Char} :
    Captures (.literal c :: rest) text params ↔
      ∃ tail, text = c :: tail ∧ Captures rest tail params := by
  constructor
  · rintro ⟨values, hspells, rfl⟩
    cases hspells with
    | literal hrest => exact ⟨_, rfl, values, hrest, rfl⟩
  · rintro ⟨tail, rfl, values, hrest, rfl⟩
    exact ⟨values, .literal hrest, rfl⟩

theorem captures_hole {lead : Option Char} {param regex : String} {optional : Bool} :
    Captures (.hole lead param regex optional :: rest) text params ↔
      (∃ word tail more, word ∈ languageOf regex ∧ text = lead.toList ++ word ++ tail ∧
        Captures rest tail more ∧ params = (param, .ofList word) :: more) ∨
      optional = true ∧ Captures rest text params := by
  constructor
  · rintro ⟨values, hspells, rfl⟩
    cases hspells with
    | filled hword hrest =>
        exact .inl ⟨_, _, _, hword, rfl, ⟨_, hrest, rfl⟩, rfl⟩
    | left hrest => exact .inr ⟨rfl, _, hrest, rfl⟩
  · rintro (⟨word, tail, more, hword, rfl, ⟨values, hrest, rfl⟩, rfl⟩ | ⟨rfl, values, hrest, rfl⟩)
    · exact ⟨some word :: values, .filled hword hrest, rfl⟩
    · exact ⟨none :: values, .left hrest, rfl⟩

theorem captures_literals (front : List Char) :
    Captures (front.map .literal ++ rest) text params ↔
      ∃ tail, text = front ++ tail ∧ Captures rest tail params := by
  induction front generalizing text with
  | nil => simp
  | cons c front ih =>
      rw [List.map_cons, List.cons_append, captures_literal]
      simp only [ih]
      constructor
      · rintro ⟨_, rfl, tail, rfl, hrest⟩
        exact ⟨tail, rfl, hrest⟩
      · rintro ⟨tail, rfl, hrest⟩
        exact ⟨front ++ tail, rfl, tail, rfl, hrest⟩

theorem captures_append_literal {slots : List Slot} {c : Char} :
    Captures (slots ++ [.literal c]) text params ↔
      ∃ front, text = front ++ [c] ∧ Captures slots front params := by
  induction slots generalizing text params with
  | nil =>
      rw [List.nil_append, captures_literal]
      simp only [captures_nil]
      constructor
      · rintro ⟨tail, rfl, rfl, rfl⟩
        exact ⟨[], rfl, rfl, rfl⟩
      · rintro ⟨front, rfl, rfl, rfl⟩
        exact ⟨[], rfl, rfl, rfl⟩
  | cons slot slots ih =>
      cases slot with
      | literal d =>
          rw [List.cons_append, captures_literal]
          simp only [captures_literal, ih]
          constructor
          · rintro ⟨_, rfl, front, rfl, hslots⟩
            exact ⟨d :: front, rfl, front, rfl, hslots⟩
          · rintro ⟨_, rfl, front, rfl, hslots⟩
            exact ⟨front ++ [c], rfl, front, rfl, hslots⟩
      | hole lead param regex optional =>
          rw [List.cons_append, captures_hole]
          simp only [captures_hole, ih]
          constructor
          · rintro (⟨word, _, more, hword, rfl, ⟨front, rfl, hslots⟩, rfl⟩ |
              ⟨hoptional, front, rfl, hslots⟩)
            · exact ⟨lead.toList ++ word ++ front, by simp,
                .inl ⟨word, front, more, hword, rfl, hslots, rfl⟩⟩
            · exact ⟨front, rfl, .inr ⟨hoptional, hslots⟩⟩
          · rintro ⟨_, rfl, ⟨word, front, more, hword, rfl, hslots, rfl⟩ | ⟨hoptional, hslots⟩⟩
            · exact .inl ⟨word, front ++ [c], more, hword, by simp, ⟨front, rfl, hslots⟩, rfl⟩
            · exact .inr ⟨hoptional, _, rfl, hslots⟩

theorem captures_append_self {slots : List Slot} {c : Char} :
    Captures (slots ++ [.literal c]) (text ++ [c]) params ↔ Captures slots text params := by
  rw [captures_append_literal]
  constructor
  · rintro ⟨front, heq, hslots⟩
    rwa [List.append_cancel_right heq]
  · exact fun hslots => ⟨text, rfl, hslots⟩

end Slot

open Slot

theorem Decides.firstHit_cons {α : Type} (entry : Entry α) {slots : List Slot}
    (h : Decides entry.compiled slots) {method : String}
    (hmethod : entry.methods.contains method = true) {rest : List Char}
    {answer : Option (List (String × String))}
    (hanswer : ∀ params, Captures slots rest params ↔ answer = some params) (more : List (Entry α)) :
    firstHit method rest (entry :: more) = match answer with
      | some params => .ok (some ⟨entry.target, .ofList params, entry.name⟩)
      | none => firstHit method rest more := by
  cases answer with
  | some params =>
      obtain ⟨values, hspells, -⟩ := (hanswer params).mpr rfl
      obtain ⟨cursor, hfits⟩ := h.fits hmethod hspells
      obtain ⟨others, hothers, hhit⟩ := h.hit hfits
      have hsame := (hanswer _).mp ⟨others, hothers, rfl⟩
      rw [firstHit_cons_of_fits hfits, hhit, ← Option.some.inj hsame]
      rfl
  | none =>
      obtain ⟨fit, hfit, -⟩ := h.answers method rest
      cases fit with
      | none =>
          rw [firstHit, hfit]
          rfl
      | some cursor =>
          obtain ⟨values, hspells, -⟩ := h.hit hfit
          exact absurd ((hanswer _).mp ⟨values, hspells, rfl⟩) (by simp)

theorem Decides.firstHit_of_not_captures {α : Type} (entry : Entry α) {slots : List Slot}
    (h : Decides entry.compiled slots) {rest : List Char}
    (hnone : ∀ params, ¬ Captures slots rest params) (method : String) (more : List (Entry α)) :
    firstHit method rest (entry :: more) = firstHit method rest more := by
  by_cases hmethod : entry.methods.contains method = true
  · have hanswer (params : List (String × String)) : Captures slots rest params ↔ none = some params :=
      iff_of_false (hnone params) (by simp)
    rw [h.firstHit_cons entry hmethod hanswer]
  · rw [firstHit, Entry.fits?, if_neg hmethod]
    rfl

theorem Decides.firstHit_concat_of_not_captures {α : Type} (entry : Entry α) {slots : List Slot}
    (h : Decides entry.compiled slots) {rest : List Char}
    (hnone : ∀ params, ¬ Captures slots rest params) (method : String) (entries : List (Entry α)) :
    firstHit method rest (entries ++ [entry]) = firstHit method rest entries := by
  rw [firstHit_append, h.firstHit_of_not_captures entry hnone]
  split
  next hentries => exact hentries.symm
  next => rfl

end HttpRouting.Engine
