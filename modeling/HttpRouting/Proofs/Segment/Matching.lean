import HttpRouting.Proofs.Engine.Capturing
import HttpRouting.Proofs.Segment.Slots

/-!
# Matching by segments

Where no token has a constraint, the canonical form of segments spells the
texts that consist of parts with a slash behind each, which the segments take
one by one.  So both forms of a template together match as its segments do.
-/

namespace HttpRouting

open Engine (Slot)
open Engine.Slot (Captures)
open Template (Token slots)
open Template.Compiler (anySegment typeOf)

/-! ## Parts of texts -/

namespace Http

def closeParts (parts : List (List Char)) : List Char := parts.flatMap fun part => part ++ ['/']

theorem closeParts_cons (part : List Char) (parts : List (List Char)) :
    closeParts (part :: parts) = part ++ '/' :: closeParts parts := by
  simp [closeParts]

theorem closeParts_splitOn (s : List Char) : closeParts (splitOn '/' s) = s ++ ['/'] := by
  induction s with
  | nil => rfl
  | cons c s ih =>
      rw [splitOn]
      split
      next hc => rw [closeParts_cons, ih, hc]; rfl
      next =>
        cases hsplit : splitOn '/' s with
        | nil => exact absurd hsplit (splitOn_ne_nil '/' s)
        | cons part parts =>
            rw [hsplit, closeParts_cons] at ih
            simp only [closeParts_cons, List.cons_append, ih]

theorem closeParts_injective {parts others : List (List Char)} (h : ∀ part ∈ parts, '/' ∉ part)
    (h' : ∀ part ∈ others, '/' ∉ part) (heq : closeParts parts = closeParts others) :
    parts = others := by
  induction parts generalizing others with
  | nil =>
      cases others with
      | nil => rfl
      | cons other others => simp [closeParts] at heq
  | cons part parts ih =>
      cases others with
      | nil => simp [closeParts] at heq
      | cons other others =>
          rw [List.forall_mem_cons] at h h'
          rw [closeParts_cons, closeParts_cons] at heq
          obtain ⟨rfl, hrest⟩ := Engine.Slot.append_slash_inj h.1 h'.1 heq
          rw [ih h.2 h'.2 hrest]

theorem splitOn_eq_of_closeParts {parts : List (List Char)} (h : ∀ part ∈ parts, '/' ∉ part)
    {s : List Char} (heq : s ++ ['/'] = closeParts parts) : splitOn '/' s = parts :=
  closeParts_injective (fun _ => not_mem_of_mem_splitOn) h ((closeParts_splitOn s).trans heq)

end Http

open Http (closeParts splitOn)

namespace Segment

/-! ## Texts that segments match -/

theorem matchAll?_nil {parts : List (List Char)} {params : List (String × String)} :
    matchAll? [] parts = some params ↔ parts = [] ∧ params = [] := by
  cases parts <;> simp [matchAll?, eq_comm]

theorem matchAll?_literal {text : List Char} {segments : List Segment} {parts : List (List Char)}
    {params : List (String × String)} :
    matchAll? (.literal text :: segments) parts = some params ↔
      ∃ rest, parts = text :: rest ∧ matchAll? segments rest = some params := by
  cases parts with
  | nil => simp [matchAll?]
  | cons part parts =>
      rw [matchAll?]
      split
      next heq => simp [heq]
      next hne => simp [hne]

theorem matchAll?_token {t : Token} {segments : List Segment} {parts : List (List Char)}
    {params : List (String × String)} :
    matchAll? (.token t :: segments) parts = some params ↔
      (∃ part rest more, part ≠ [] ∧ parts = part :: rest ∧ matchAll? segments rest = some more ∧
        params = (t.name, .ofList part) :: more) ∨
      t.optional = true ∧ segments = [] ∧ parts = [] ∧ params = [] := by
  cases parts with
  | nil =>
      cases segments with
      | nil => cases ht : t.optional <;> simp [matchAll?, ht, eq_comm]
      | cons segment segments => simp [matchAll?]
  | cons part parts =>
      rw [matchAll?]
      split
      next hempty => simp [List.isEmpty_iff.mp hempty]
      next hne =>
        have hpart : part ≠ [] := fun h => hne (by simp [h])
        constructor
        · intro h
          obtain ⟨more, hmore, rfl⟩ := Option.map_eq_some_iff.mp h
          exact .inl ⟨part, parts, more, hpart, rfl, hmore, rfl⟩
        · rintro (⟨_, _, more, -, ⟨⟩, hmore, rfl⟩ | ⟨-, -, hnil, -⟩)
          · rw [hmore]
            rfl
          · simp at hnil

section

variable {constraints : Pairs String} {segments : List Segment}
  {text : List Char} {params : List (String × String)}

/-- Segments without constraints, whose literals have no slash. -/
structure IsFree (constraints : Pairs String) (segments : List Segment) : Prop where
  token : ∀ t, .token t ∈ segments → typeOf constraints t = anySegment
  literal : ∀ text, .literal text ∈ segments → '/' ∉ text

theorem IsFree.of_cons {segment : Segment} (h : IsFree constraints (segment :: segments)) :
    IsFree constraints segments where
  token := fun t ht => h.token t (List.mem_cons_of_mem _ ht)
  literal := fun text htext => h.literal text (List.mem_cons_of_mem _ htext)

theorem slots_slash_literal (constraints : Pairs String) (own : List Char) (segments : List Segment) :
    slots constraints (.literal '/' :: closed (.literal own :: segments)) =
      ('/' :: own).map .literal ++ slots constraints (.literal '/' :: closed segments) := by
  rw [← slots_literals, closed_literal]
  rfl

theorem captures_slash_closed (hfree : IsFree constraints segments)
    (hoptional : ∀ s ∈ segments.dropLast, s.isOptional = false) :
    Captures (slots constraints (.literal '/' :: closed segments)) text params ↔
      ∃ parts, (∀ part ∈ parts, '/' ∉ part) ∧ text = '/' :: closeParts parts ∧
        matchAll? segments parts = some params := by
  induction segments generalizing text params with
  | nil =>
      have hslots : slots constraints (.literal '/' :: closed []) = [.literal '/'] := rfl
      rw [hslots, Engine.Slot.captures_literal]
      simp only [Engine.Slot.captures_nil, matchAll?_nil]
      constructor
      · rintro ⟨_, rfl, rfl, rfl⟩
        exact ⟨[], by simp, rfl, rfl, rfl⟩
      · rintro ⟨_, -, rfl, rfl, rfl⟩
        exact ⟨[], rfl, rfl, rfl⟩
  | cons segment segments ih =>
      have hrest {text : List Char} {params : List (String × String)} :=
        @ih text params hfree.of_cons (forall_mem_dropLast_of_cons hoptional)
      cases segment with
      | literal own =>
          rw [slots_slash_literal, Engine.Slot.captures_literals]
          simp only [hrest, matchAll?_literal]
          constructor
          · rintro ⟨_, rfl, parts, hparts, rfl, hmatch⟩
            refine ⟨own :: parts, ?_, by simp [Http.closeParts_cons], parts, rfl, hmatch⟩
            exact List.forall_mem_cons.mpr ⟨hfree.literal own List.mem_cons_self, hparts⟩
          · rintro ⟨_, hparts, rfl, parts, rfl, hmatch⟩
            exact ⟨_, by rw [Http.closeParts_cons]; rfl, parts, (List.forall_mem_cons.mp hparts).2,
              rfl, hmatch⟩
      | token t =>
          have htype := hfree.token t List.mem_cons_self
          rw [closed_token, Template.slots_lead constraints rfl, htype, Engine.Slot.captures_hole]
          simp only [hrest, matchAll?_token, Engine.Slot.mem_languageOf_anySegment]
          constructor
          · rintro (⟨word, _, more, ⟨hne, hslash⟩, rfl, ⟨parts, hparts, rfl, hmatch⟩, rfl⟩ |
              ⟨ht, parts, hparts, rfl, hmatch⟩)
            · refine ⟨word :: parts, List.forall_mem_cons.mpr ⟨hslash, hparts⟩, ?_,
                .inl ⟨word, parts, more, hne, rfl, hmatch, rfl⟩⟩
              simp [Http.closeParts_cons]
            · -- Only the last segment may be left out, so there are no further parts.
              cases segments with
              | nil =>
                  obtain ⟨rfl, rfl⟩ := matchAll?_nil.mp hmatch
                  exact ⟨[], by simp, rfl, .inr ⟨ht, rfl, rfl, rfl⟩⟩
              | cons other segments =>
                  have hfirst := hoptional (.token t) List.mem_cons_self
                  simp [isOptional, ht] at hfirst
          · rintro ⟨_, hparts, rfl, ⟨word, parts, more, hne, rfl, hmatch, rfl⟩ |
              ⟨ht, rfl, rfl, rfl⟩⟩
            · obtain ⟨hslash, hparts⟩ := List.forall_mem_cons.mp hparts
              refine .inl ⟨word, '/' :: closeParts parts, more, ⟨hne, hslash⟩, ?_,
                ⟨parts, hparts, rfl, hmatch⟩, rfl⟩
              simp [Http.closeParts_cons]
            · exact .inr ⟨ht, [], by simp, rfl, rfl⟩

theorem captures_slash_iff {segment : Segment} (hrequired : segment.isOptional = false) :
    Captures (slots constraints (.literal '/' :: closed (segment :: segments))) ('/' :: text) params ↔
      Captures (slots constraints (closed (segment :: segments))) text params := by
  cases segment with
  | literal own =>
      rw [slots_slash_literal, closed_literal, slots_literals, Engine.Slot.captures_literals,
        Engine.Slot.captures_literals]
      simp
  | token t =>
      have ht : t.optional = false := hrequired
      rw [closed_token, Template.slots_lead constraints rfl, Template.slots_token,
        Engine.Slot.captures_hole, Engine.Slot.captures_hole]
      simp [ht]

theorem captures_closed_parts (hfree : IsFree constraints segments)
    (hoptional : ∀ s ∈ segments.dropLast, s.isOptional = false)
    (hsingle : segments.length = 1 → ∀ s ∈ segments, s.isOptional = false) (hne : segments ≠ []) :
    Captures (slots constraints (closed segments)) text params ↔
      ∃ parts, (∀ part ∈ parts, '/' ∉ part) ∧ parts ≠ [] ∧ text = closeParts parts ∧
        matchAll? segments parts = some params := by
  cases segments with
  | nil => exact absurd rfl hne
  | cons segment segments =>
      have hrequired : segment.isOptional = false := by
        cases segments with
        | nil => exact hsingle rfl _ List.mem_cons_self
        | cons other segments => exact hoptional segment List.mem_cons_self
      rw [← captures_slash_iff hrequired, captures_slash_closed hfree hoptional]
      constructor
      · rintro ⟨parts, hparts, heq, hmatch⟩
        refine ⟨parts, hparts, ?_, (List.cons.inj heq).2, hmatch⟩
        rintro rfl
        cases segment with
        | literal own => simp [matchAll?_literal] at hmatch
        | token t => simp_all [matchAll?_token, isOptional]
      · rintro ⟨parts, hparts, -, rfl, hmatch⟩
        exact ⟨parts, hparts, rfl, hmatch⟩

theorem captures_closed (hfree : IsFree constraints segments)
    (hoptional : ∀ s ∈ segments.dropLast, s.isOptional = false)
    (hsingle : segments.length = 1 → ∀ s ∈ segments, s.isOptional = false) (hne : segments ≠ []) :
    Captures (slots constraints (closed segments)) text params ↔
      ∃ front, text = front ++ ['/'] ∧ matchAll? segments (splitOn '/' front) = some params := by
  rw [captures_closed_parts hfree hoptional hsingle hne]
  constructor
  · rintro ⟨parts, hslash, hne, rfl, hmatch⟩
    obtain ⟨before, last, rfl⟩ := (List.eq_nil_or_concat parts).resolve_left hne
    rw [List.concat_eq_append] at hslash hmatch ⊢
    have hclose : closeParts (before ++ [last]) = (closeParts before ++ last) ++ ['/'] := by
      simp [closeParts]
    refine ⟨_, hclose, ?_⟩
    rw [Http.splitOn_eq_of_closeParts hslash hclose.symm]
    exact hmatch
  · rintro ⟨front, rfl, hmatch⟩
    exact ⟨splitOn '/' front, fun _ => Http.not_mem_of_mem_splitOn,
      Http.splitOn_ne_nil '/' front, (Http.closeParts_splitOn front).symm, hmatch⟩

end

end Segment

end HttpRouting
