import HttpRouting.Proofs.Engine.Generation
import HttpRouting.Proofs.Table.Isolation
import HttpRouting.Template.Filling

/-!
# Filled templates

Filling the slots of a template writes what filling the template says: the
slots have the same parameters as the tokens, in the same order, and a hole
takes the slash or dot before it away with it.
-/

namespace HttpRouting

namespace Template

open Compiler (typeOf)
open Engine (Slot)

/-! ## Tokens and holes -/

@[simp] theorem tokens_literal (c : Char) (rest : List Piece) :
    tokens (.literal c :: rest) = tokens rest := rfl

@[simp] theorem tokens_token (t : Token) (rest : List Piece) :
    tokens (.token t :: rest) = t :: tokens rest := rfl

theorem params_slots (constraints : Pairs String) (pieces : List Piece) :
    Slot.params (slots constraints pieces) = (tokens pieces).map Token.name := by
  fun_induction slots constraints pieces with
  | case1 => rfl
  | case2 c t rest hlead ih => simpa [Slot.params] using ih
  | case3 c t rest hlead ih => simpa [Slot.params] using ih
  | case4 c rest hrest ih => simpa [Slot.params] using ih
  | case5 t rest ih => simpa [Slot.params] using ih

theorem exists_token_of_hole {constraints : Pairs String} {pieces : List Piece}
    {lead : Option Char} {param regex : String} {optional : Bool}
    (h : Slot.hole lead param regex optional ∈ slots constraints pieces) :
    ∃ t ∈ tokens pieces, param = t.name ∧ regex = typeOf constraints t ∧ optional = t.optional := by
  fun_induction slots constraints pieces with
  | case1 => simp at h
  | case2 c t rest hlead ih =>
      rcases List.mem_cons.mp h with heq | h
      · simp only [Slot.hole.injEq] at heq
        exact ⟨t, by simp, heq.2⟩
      · obtain ⟨u, hu, hsame⟩ := ih h
        exact ⟨u, by simp [hu], hsame⟩
  | case3 c t rest hlead ih =>
      rw [List.mem_cons, List.mem_cons] at h
      rcases h with heq | heq | h
      · simp at heq
      · simp only [Slot.hole.injEq] at heq
        exact ⟨t, by simp, heq.2⟩
      · obtain ⟨u, hu, hsame⟩ := ih h
        exact ⟨u, by simp [hu], hsame⟩
  | case4 c rest hrest ih =>
      obtain ⟨u, hu, hsame⟩ := ih (by simpa using h)
      exact ⟨u, by simp [hu], hsame⟩
  | case5 t rest ih =>
      rcases List.mem_cons.mp h with heq | h
      · simp only [Slot.hole.injEq] at heq
        exact ⟨t, by simp, heq.2⟩
      · obtain ⟨u, hu, hsame⟩ := ih h
        exact ⟨u, by simp [hu], hsame⟩

theorem exists_hole_of_token {constraints : Pairs String} {pieces : List Piece} {t : Token}
    (h : t ∈ tokens pieces) :
    ∃ lead, .hole lead t.name (typeOf constraints t) t.optional ∈ slots constraints pieces := by
  fun_induction slots constraints pieces with
  | case1 => simp [tokens] at h
  | case2 c u rest hlead ih =>
      rcases List.mem_cons.mp (show t ∈ u :: tokens rest from h) with rfl | h
      · exact ⟨_, List.mem_cons_self⟩
      · obtain ⟨lead, hmem⟩ := ih h
        exact ⟨lead, List.mem_cons_of_mem _ hmem⟩
  | case3 c u rest hlead ih =>
      rcases List.mem_cons.mp (show t ∈ u :: tokens rest from h) with rfl | h
      · exact ⟨_, List.mem_cons_of_mem _ List.mem_cons_self⟩
      · obtain ⟨lead, hmem⟩ := ih h
        exact ⟨lead, List.mem_cons_of_mem _ (List.mem_cons_of_mem _ hmem)⟩
  | case4 c rest hrest ih =>
      obtain ⟨lead, hmem⟩ := ih h
      exact ⟨lead, List.mem_cons_of_mem _ hmem⟩
  | case5 u rest ih =>
      rcases List.mem_cons.mp (show t ∈ u :: tokens rest from h) with rfl | h
      · exact ⟨_, List.mem_cons_self⟩
      · obtain ⟨lead, hmem⟩ := ih h
        exact ⟨lead, List.mem_cons_of_mem _ hmem⟩

theorem forall_mem_slots_iff {P : Slot → Prop} {Q : String → String → Bool → Prop}
    (hliteral : ∀ c, P (.literal c))
    (hhole : ∀ lead param regex optional, P (.hole lead param regex optional) ↔ Q param regex optional)
    {constraints : Pairs String} {pieces : List Piece} :
    (∀ slot ∈ slots constraints pieces, P slot) ↔
      ∀ t ∈ tokens pieces, Q t.name (typeOf constraints t) t.optional := by
  constructor
  · intro h t ht
    obtain ⟨lead, hmem⟩ := @exists_hole_of_token constraints pieces t ht
    exact (hhole ..).mp (h _ hmem)
  · intro h slot hslot
    cases slot with
    | literal c => exact hliteral c
    | hole lead param regex optional =>
        obtain ⟨t, ht, rfl, rfl, rfl⟩ := exists_token_of_hole hslot
        exact (hhole ..).mpr (h t ht)

/-! ## Filling -/

theorem fill_slots (texts : String → Option (List Char)) (constraints : Pairs String)
    (pieces : List Piece) : Slot.fill texts (slots constraints pieces) = fill texts pieces := by
  fun_induction slots constraints pieces with
  | case1 => rfl
  | case2 c t rest hlead ih =>
      have hpiece : Piece.isLead (.literal c) = true := hlead
      rw [fill, Slot.fill, ih, hpiece]
      cases texts t.name <;> rfl
  | case3 c t rest hlead ih =>
      have hpiece : Piece.isLead (.literal c) = false := Bool.eq_false_iff.mpr hlead
      rw [fill, Slot.fill, Slot.fill, ih, hpiece]
      cases texts t.name <;> rfl
  | case4 c rest hrest ih =>
      rw [Slot.fill, ih, fill]
      exact hrest
  | case5 t rest ih =>
      rw [Slot.fill, ih, fill]
      cases texts t.name <;> rfl

theorem absorbMarks_scan {s : List Char} (h : ¬ ['}', '?'] <:+: s) : absorbMarks (scan s) = scan s := by
  fun_induction scan s with
  | case1 s t rest htoken ih =>
      obtain ⟨spelling, hspelled, rfl⟩ := token?_eq htoken
      rw [absorbMarks_unmarked, ih]
      · exact fun hrest => h (hrest.trans (List.suffix_append _ _).isInfix)
      · refine .inr fun hmark => h ?_
        obtain ⟨before, hbefore⟩ := List.getLast?_eq_some_iff.mp hspelled.getLast?
        obtain ⟨after, hafter⟩ := List.head?_eq_some_iff.mp (head?_of_head?_scan hmark)
        exact ⟨before, after, by simp [hbefore, hafter]⟩
  | case2 => rfl
  | case3 c rest htoken ih =>
      rw [absorbMarks_literal, ih]
      exact fun hrest => h (hrest.trans (List.suffix_cons _ _).isInfix)

/-! ## The final slash -/

theorem eq_or_eq_append_slash {uri text filled : List Char}
    (h : text = filled ∨ text = withFinalSlash uri filled) : text = filled ∨ text = filled ++ ['/'] := by
  rw [withFinalSlash] at h
  split at h
  next => exact .inl (or_self_iff.mp h)
  next => exact h

theorem absorbMarks_append_slash (pieces : List Piece) :
    absorbMarks (pieces ++ [.literal '/']) = absorbMarks pieces ++ [.literal '/'] := by
  fun_induction absorbMarks pieces with
  | case1 => rfl
  | case2 t c rest hmark ih =>
      rw [List.cons_append, List.cons_append, absorbMarks, if_pos hmark, ih, List.cons_append]
  | case3 t c rest hmark ih =>
      rw [List.cons_append, List.cons_append, absorbMarks, if_neg hmark, ← List.cons_append, ih,
        List.cons_append]
  | case4 piece rest hrest ih =>
      rw [List.cons_append, List.cons_append, ← ih]
      cases piece with
      | literal c => rw [absorbMarks_literal]
      | token t =>
          refine absorbMarks_unmarked (.inr fun hmark => ?_)
          cases rest with
          | nil => simp at hmark
          | cons other rest =>
              obtain rfl : other = .literal '?' := by simpa using hmark
              exact hrest t '?' rest rfl rfl

theorem slots_append_literal (constraints : Pairs String) (pieces : List Piece) (d : Char) :
    slots constraints (pieces ++ [.literal d]) = slots constraints pieces ++ [.literal d] := by
  fun_induction slots constraints pieces with
  | case1 => rfl
  | case2 c t rest hlead ih => simp [slots, hlead, ih]
  | case3 c t rest hlead ih => simp [slots, hlead, ih]
  | case4 c rest hrest ih =>
      rw [List.cons_append, List.cons_append, ← ih]
      refine slots_literal constraints fun _ t ht => ?_
      cases rest with
      | nil => simp at ht
      | cons other rest =>
          obtain rfl : other = .token t := by simpa using ht
          exact hrest t rest rfl
  | case5 t rest ih => simp [slots, ih]

end Template

open Engine (Slot)

namespace Route

theorem slots_of_isEmpty {route : Route} (h : route.uri.toList.isEmpty = true) : route.slots = [] := by
  rw [slots, List.isEmpty_iff.mp h, Template.scan_nil]
  rfl

theorem canonicalSlots_eq (route : Route) :
    route.canonicalSlots =
      if route.uri.toList.isEmpty then [] else route.slots ++ [.literal '/'] := by
  rw [canonicalSlots, Template.canonicalPieces, slots]
  split
  next => rfl
  next => rw [Template.absorbMarks_append_slash, Template.slots_append_literal]

theorem canonicalSlots_of_isEmpty {route : Route} (h : route.uri.toList.isEmpty = true) :
    route.canonicalSlots = [] := by
  rw [canonicalSlots_eq, if_pos h]

theorem canonicalSlots_of_not_isEmpty {route : Route} (h : route.uri.toList.isEmpty = false) :
    route.canonicalSlots = route.slots ++ [.literal '/'] := by
  rw [canonicalSlots_eq, h]
  rfl

theorem params_canonicalSlots (route : Route) :
    Slot.params route.canonicalSlots = Slot.params route.slots := by
  have happend (first : List Slot) : Slot.params (first ++ [.literal '/']) = Slot.params first := by
    induction first with
    | nil => rfl
    | cons slot rest ih => cases slot <;> simp [Slot.params, ih]
  rw [canonicalSlots_eq]
  split
  next h => rw [slots_of_isEmpty h]
  next => exact happend route.slots

theorem fill_canonicalSlots (route : Route) (texts : String → Option (List Char)) :
    Slot.fill texts route.canonicalSlots =
      Template.withFinalSlash route.uri.toList (Slot.fill texts route.slots) := by
  have happend (first : List Slot) :
      Slot.fill texts (first ++ [.literal '/']) = Slot.fill texts first ++ ['/'] := by
    induction first with
    | nil => rfl
    | cons slot rest ih => cases slot <;> simp [Slot.fill, ih]
  rw [canonicalSlots_eq, Template.withFinalSlash]
  split
  next h => rw [slots_of_isEmpty h]
  next => exact happend route.slots

theorem forall_mem_canonicalSlots {P : Slot → Prop} (hslash : P (.literal '/')) (route : Route) :
    (∀ slot ∈ route.canonicalSlots, P slot) ↔ ∀ slot ∈ route.slots, P slot := by
  rw [canonicalSlots_eq]
  split
  next h => rw [slots_of_isEmpty h]
  next => rw [List.forall_mem_append, List.forall_mem_singleton, and_iff_left hslash]

theorem admits_canonicalSlots (route : Route) (texts : String → Option (List Char)) :
    (∀ slot ∈ route.canonicalSlots, slot.Admits texts) ↔ ∀ slot ∈ route.slots, slot.Admits texts :=
  route.forall_mem_canonicalSlots trivial

end Route

end HttpRouting
