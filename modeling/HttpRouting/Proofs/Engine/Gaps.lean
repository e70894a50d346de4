import HttpRouting.Proofs.Engine.Delimited
import Mathlib.Data.List.Chain

/-!
# Gaps in filled slots

A hole that is left out takes with it the slash directly before it, and no
other.  Where nothing but holes that are left out stands between a slash that
stays and the next one, the two come together and an empty segment is written.
If no slash stands directly behind another, there is no other way to write one.
-/

namespace HttpRouting

namespace Path

/-! ## Empty segments -/

/-- There is nothing between two of the slashes. -/
def HasEmptySegment (s : List Char) : Prop := ['/', '/'] <:+: s

instance : DecidablePred HasEmptySegment := fun s => inferInstanceAs (Decidable (['/', '/'] <:+: s))

theorem hasEmptySegment_cons {c : Char} {s : List Char} :
    HasEmptySegment (c :: s) ↔ c = '/' ∧ s.head? = some '/' ∨ HasEmptySegment s := by
  have hhead : ['/'] <+: s ↔ s.head? = some '/' := by
    cases s <;> simp [List.cons_prefix_cons, eq_comm]
  rw [HasEmptySegment, List.infix_cons_iff, List.cons_prefix_cons, hhead, eq_comm, HasEmptySegment]

theorem hasEmptySegment_append_of_not_mem {word s : List Char} (h : '/' ∉ word) :
    HasEmptySegment (word ++ s) ↔ HasEmptySegment s := by
  induction word with
  | nil => rfl
  | cons c word ih =>
      rw [List.mem_cons, not_or] at h
      rw [List.cons_append, hasEmptySegment_cons, ih h.2]
      simp [Ne.symm h.1]

theorem hasEmptySegment_append_slash (front s : List Char) :
    HasEmptySegment (front ++ '/' :: s) ↔
      HasEmptySegment (front ++ ['/']) ∨ HasEmptySegment ('/' :: s) := by
  induction front with
  | nil =>
      have hslash : ¬ HasEmptySegment ['/'] := fun h => by simpa using h.length_le
      simp [hslash]
  | cons c front ih =>
      have hhead : (front ++ '/' :: s).head? = (front ++ ['/']).head? := by cases front <;> rfl
      rw [List.cons_append, List.cons_append, hasEmptySegment_cons, ih, hhead, ← or_assoc,
        ← hasEmptySegment_cons]

end Path

open HttpRouting.Path (HasEmptySegment hasEmptySegment_cons)

namespace Engine.Slot

/-! ## Gaps -/

def first? : Slot → Option Char
  | .literal c => some c
  | .hole lead _ _ _ => lead

/-- A hole for which there is no text. -/
def IsLeftOut (texts : String → Option (List Char)) : Slot → Prop
  | .literal _ => False
  | .hole _ param _ _ => texts param = none

/-- A slash that stays is written for the slot before anything else. -/
def Opens (texts : String → Option (List Char)) (slot : Slot) : Prop :=
  ¬ slot.IsLeftOut texts ∧ slot.first? = some '/'

/-- Some holes are left out, and nothing else is between a slash that stays and the next one. -/
def HasGap (texts : String → Option (List Char)) (slots : List Slot) : Prop :=
  ∃ left next after, .literal '/' :: (left ++ next :: after) <:+ slots ∧ left ≠ [] ∧
    (∀ slot ∈ left, slot.IsLeftOut texts) ∧ next.Opens texts

def AreSpaced (slots : List Slot) : Prop :=
  slots.IsChain fun slot next => slot = .literal '/' → next.first? ≠ some '/'

def AreSegments (texts : String → Option (List Char)) (slots : List Slot) : Prop :=
  ∀ lead param regex optional, .hole lead param regex optional ∈ slots →
    ∀ word, texts param = some word → word ≠ [] ∧ '/' ∉ word

variable {texts : String → Option (List Char)} {slots rest : List Slot}

theorem AreSegments.of_cons {slot : Slot} (h : AreSegments texts (slot :: rest)) :
    AreSegments texts rest :=
  fun lead param regex optional hmem => h lead param regex optional (List.mem_cons_of_mem _ hmem)

/-- The first slot that is not left out begins with a slash. -/
def OpensFirst (texts : String → Option (List Char)) (slots : List Slot) : Prop :=
  ∃ left next after, slots = left ++ next :: after ∧ (∀ slot ∈ left, slot.IsLeftOut texts) ∧
    next.Opens texts

theorem opensFirst_cons {slot : Slot} :
    OpensFirst texts (slot :: rest) ↔
      slot.Opens texts ∨ slot.IsLeftOut texts ∧ OpensFirst texts rest := by
  constructor
  · rintro ⟨left, next, after, heq, hleft, hopens⟩
    cases left with
    | nil =>
        obtain ⟨rfl, -⟩ := List.cons.inj heq
        exact .inl hopens
    | cons first left =>
        obtain ⟨rfl, rfl⟩ := List.cons.inj heq
        rw [List.forall_mem_cons] at hleft
        exact .inr ⟨hleft.1, left, next, after, rfl, hleft.2, hopens⟩
  · rintro (hopens | ⟨hslot, left, next, after, rfl, hleft, hopens⟩)
    · exact ⟨[], slot, rest, rfl, by simp, hopens⟩
    · exact ⟨slot :: left, next, after, rfl, List.forall_mem_cons.mpr ⟨hslot, hleft⟩, hopens⟩

theorem head?_fill_iff (hsegments : AreSegments texts slots) :
    (fill texts slots).head? = some '/' ↔ OpensFirst texts slots := by
  induction slots with
  | nil => simp [fill, OpensFirst]
  | cons slot rest ih =>
      rw [opensFirst_cons, ← ih hsegments.of_cons]
      cases slot with
      | literal c => simp [fill, Opens, IsLeftOut, first?]
      | hole lead param regex optional =>
          cases hword : texts param with
          | none => simp [fill, fillHole, Opens, IsLeftOut, hword]
          | some word =>
              obtain ⟨hne, hslash⟩ := hsegments _ _ _ _ List.mem_cons_self word hword
              obtain ⟨c, word, rfl⟩ := List.exists_cons_of_ne_nil hne
              have hc : c ≠ '/' := fun heq => hslash (heq ▸ List.mem_cons_self)
              cases lead <;> simp [fill, fillHole, Opens, IsLeftOut, first?, hword, hc]

def HasDouble (texts : String → Option (List Char)) (slots : List Slot) : Prop :=
  ∃ rest, .literal '/' :: rest <:+ slots ∧ OpensFirst texts rest

theorem hasDouble_cons {slot : Slot} :
    HasDouble texts (slot :: rest) ↔
      slot = .literal '/' ∧ OpensFirst texts rest ∨ HasDouble texts rest := by
  constructor
  · rintro ⟨other, hsuffix, hopens⟩
    rcases List.suffix_cons_iff.mp hsuffix with heq | hlater
    · obtain ⟨rfl, rfl⟩ := List.cons.inj heq
      exact .inl ⟨rfl, hopens⟩
    · exact .inr ⟨other, hlater, hopens⟩
  · rintro (⟨rfl, hopens⟩ | ⟨other, hsuffix, hopens⟩)
    · exact ⟨rest, List.suffix_rfl, hopens⟩
    · exact ⟨other, hsuffix.trans (List.suffix_cons ..), hopens⟩

theorem hasEmptySegment_fill_iff (hsegments : AreSegments texts slots) :
    HasEmptySegment (fill texts slots) ↔ HasDouble texts slots := by
  induction slots with
  | nil => simp [fill, HasEmptySegment, HasDouble]
  | cons slot rest ih =>
      rw [hasDouble_cons, ← ih hsegments.of_cons]
      cases slot with
      | literal c =>
          rw [fill, hasEmptySegment_cons, head?_fill_iff hsegments.of_cons]
          simp
      | hole lead param regex optional =>
          cases hword : texts param with
          | none => simp [fill, fillHole, hword]
          | some word =>
              obtain ⟨hne, hslash⟩ := hsegments _ _ _ _ List.mem_cons_self word hword
              have hhead : word.head? ≠ some '/' := fun heq => hslash (List.mem_of_mem_head? heq)
              have hrest := Path.hasEmptySegment_append_of_not_mem (s := fill texts rest) hslash
              cases lead with
              | none => simpa [fill, fillHole, hword] using hrest
              | some c => simpa [fill, fillHole, hword, hasEmptySegment_cons, hhead, hne] using hrest

theorem AreSpaced.not_opens (h : AreSpaced slots) {next : Slot}
    (hsuffix : .literal '/' :: next :: rest <:+ slots) : next.first? ≠ some '/' :=
  (h.suffix hsuffix).rel rfl

/-- Where slashes do not stand side by side, an empty segment is written exactly for a gap. -/
theorem hasEmptySegment_fill_iff_hasGap (hsegments : AreSegments texts slots)
    (hspaced : AreSpaced slots) : HasEmptySegment (fill texts slots) ↔ HasGap texts slots := by
  rw [hasEmptySegment_fill_iff hsegments]
  constructor
  · rintro ⟨_, hsuffix, left, next, after, rfl, hleft, hopens⟩
    refine ⟨left, next, after, hsuffix, ?_, hleft, hopens⟩
    rintro rfl
    exact hspaced.not_opens hsuffix hopens.2
  · rintro ⟨left, next, after, hsuffix, -, hleft, hopens⟩
    exact ⟨_, hsuffix, left, next, after, rfl, hleft, hopens⟩

theorem not_hasGap (hspaced : AreSpaced slots) (hadmits : ∀ slot ∈ slots, slot.Admits texts)
    (hleads : ∀ lead param regex, .hole lead param regex true ∈ slots → lead = some '/') :
    ¬ HasGap texts slots := by
  rintro ⟨left, next, after, hsuffix, hne, hleft, -⟩
  obtain ⟨slot, left, rfl⟩ := List.exists_cons_of_ne_nil hne
  have hmem : slot ∈ slots := hsuffix.subset (by simp)
  have hslot := hleft slot List.mem_cons_self
  cases slot with
  | literal c => exact hslot
  | hole lead param regex optional =>
      have hnone : texts param = none := hslot
      have hoptional := hadmits _ hmem
      rw [Admits, hnone] at hoptional
      subst hoptional
      exact hspaced.not_opens hsuffix (hleads lead param regex hmem)

end Engine.Slot

end HttpRouting
