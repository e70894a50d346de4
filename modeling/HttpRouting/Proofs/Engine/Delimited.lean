import HttpRouting.Proofs.Engine.Generation

/-!
# Slots between slashes

When no value has a slash and a slash stands behind every hole, a text can be
taken apart in one way only.  The last hole may be left out, since then a slash
is missing.
-/

namespace HttpRouting.Engine.Slot

open Regex (Node)
open Template.Compiler (anySegment)

/-! ## Words without slashes -/

def IsSlashFree (regex : String) : Prop := ∀ word ∈ languageOf regex, '/' ∉ word

theorem isSlashFree_of_readPlain? {regex : String} {greed : Regex.Greed} {least : Nat}
    {most : Option Nat} {negated : Bool} {items : List Regex.ClassItem} {e : Regex.Expression}
    (hread : Regex.Expression.readPlain? regex.toList = some e)
    (hnode : e.node = .loop greed least most (.chars negated items))
    (hitems : Regex.accepts {} negated items '/' = false) : IsSlashFree regex := by
  intro word hword hmem
  rw [languageOf, hread] at hword
  simp only [hnode] at hword
  rw [Node.accepts_of_mem_loop hword hmem] at hitems
  simp at hitems

private theorem readPlain?_anySegment : Regex.Expression.readPlain? anySegment.toList =
    some ⟨.loop .greedy 1 none (.chars true [.code '/'.toNat]), {}, [], 1⟩ := by
  decide +kernel

theorem isSlashFree_anySegment : IsSlashFree anySegment :=
  isSlashFree_of_readPlain? readPlain?_anySegment rfl (by decide)

theorem mem_languageOf_anySegment {word : List Char} :
    word ∈ languageOf anySegment ↔ word ≠ [] ∧ '/' ∉ word := by
  refine ⟨fun hword => ⟨?_, isSlashFree_anySegment word hword⟩, fun ⟨hne, hslash⟩ => ?_⟩
  · rintro rfl
    rw [languageOf, readPlain?_anySegment] at hword
    obtain ⟨first, hfirst, rest, -, hempty⟩ := hword
    rw [pow_one] at hfirst
    obtain ⟨x, -, rfl⟩ := hfirst
    simp at hempty
  · have hletter : ∀ x ∈ word, [x] ∈ (Node.chars true [.code '/'.toNat]).language := by
      intro x hx
      have hcode : x.toNat ≠ '/'.toNat := fun heq => hslash (Char.toNat_inj.mp heq ▸ hx)
      exact ⟨x, by simpa [Regex.accepts, Regex.isMember, Regex.ClassItem.contains] using hcode, rfl⟩
    have hpower (rest : List Char) (hrest : ∀ x ∈ rest, x ∈ word) :
        rest ∈ (Node.chars true [.code '/'.toNat]).language ^ rest.length := by
      refine Language.mem_pow.mpr ⟨rest.map fun x => [x],
        (List.flatMap_singleton' rest).symm, List.length_map _, fun letter hmem => ?_⟩
      obtain ⟨x, hx, rfl⟩ := List.mem_map.mp hmem
      exact hletter x (hrest x hx)
    rw [languageOf, readPlain?_anySegment]
    cases word with
    | nil => exact absurd rfl hne
    | cons x rest =>
        refine ⟨[x], ?_, rest, ⟨rest.length, by simp, hpower rest fun y hy => ?_⟩, rfl⟩
        · rw [pow_one]
          exact hletter x List.mem_cons_self
        · exact List.mem_cons_of_mem _ hy

theorem forall_mem_languageOf_typeOf {constraints : Pairs String}
    (hplain : ∀ entry ∈ constraints.entries, Regex.Expression.IsPlainText entry.2)
    {P : List Char → Prop} (hsegment : ∀ word, word ≠ [] → '/' ∉ word → P word)
    (hconstraint : ∀ entry ∈ constraints.entries, ∀ subject,
      Regex.Expression.Accepts entry.2 subject → P subject) (t : Template.Token) :
    ∀ word ∈ languageOf (Template.Compiler.typeOf constraints t), P word := by
  intro word hword
  cases hfound : Template.Compiler.constraint? constraints t with
  | none =>
      rw [Template.Compiler.typeOf, hfound] at hword
      obtain ⟨hne, hslash⟩ := mem_languageOf_anySegment.mp hword
      exact hsegment word hne hslash
  | some regex =>
      obtain ⟨hfind, -⟩ := Option.filter_eq_some_iff.mp hfound
      have hentry := Pairs.mem_of_find? hfind
      rw [Template.Compiler.typeOf, hfound] at hword
      exact hconstraint _ hentry word ((accepts_iff (hplain _ hentry)).mpr hword)

/-! ## Delimited slots -/

def BeginWithSlash (slots : List Slot) : Prop :=
  ∀ values text, Spells slots values text → ∃ rest, text = '/' :: rest

/-- A slash stands behind every hole and in no value, and only the last hole may be left out. -/
inductive Delimited : List Slot → Prop
  | nil : Delimited []
  | literal {c : Char} {rest : List Slot} : Delimited rest → Delimited (.literal c :: rest)
  | hole {lead : Option Char} {param regex : String} {rest : List Slot} :
      IsSlashFree regex → BeginWithSlash rest → Delimited rest →
      Delimited (.hole lead param regex false :: rest)
  | last {param regex : String} :
      IsSlashFree regex → Delimited [.hole (some '/') param regex true, .literal '/']

theorem beginWithSlash_literal (rest : List Slot) : BeginWithSlash (.literal '/' :: rest) := by
  rintro values text (_ | _)
  exact ⟨_, rfl⟩

theorem beginWithSlash_hole (param regex : String) (rest : List Slot) :
    BeginWithSlash (.hole (some '/') param regex false :: rest) := by
  rintro values text (_ | _ | _)
  exact ⟨_, rfl⟩

theorem beginWithSlash_last (param regex : String) :
    BeginWithSlash [.hole (some '/') param regex true, .literal '/'] := by
  rintro values text (_ | _ | _ | ⟨hrest⟩)
  · exact ⟨_, rfl⟩
  · exact beginWithSlash_literal [] _ _ hrest

theorem append_slash_inj {first second : List Char} (hfirst : '/' ∉ first) (hsecond : '/' ∉ second)
    {rest other : List Char} (h : first ++ '/' :: rest = second ++ '/' :: other) :
    first = second ∧ rest = other := by
  induction first generalizing second with
  | nil =>
      cases second with
      | nil => exact ⟨rfl, List.tail_eq_of_cons_eq h⟩
      | cons d second =>
          obtain rfl : '/' = d := List.head_eq_of_cons_eq h
          exact absurd List.mem_cons_self hsecond
  | cons c first ih =>
      cases second with
      | nil =>
          obtain rfl : c = '/' := List.head_eq_of_cons_eq h
          exact absurd List.mem_cons_self hfirst
      | cons d second =>
          simp only [List.mem_cons, not_or] at hfirst hsecond
          simp only [List.cons_append, List.cons.injEq] at h
          obtain ⟨rfl, h⟩ := h
          obtain ⟨rfl, rfl⟩ := ih hfirst.2 hsecond.2 h
          exact ⟨rfl, rfl⟩

theorem Delimited.values_unique {slots : List Slot} (h : Delimited slots)
    {first second : List (Option (List Char))} {text : List Char}
    (hfirst : Spells slots first text) (hsecond : Spells slots second text) : first = second := by
  induction h generalizing first second text with
  | nil =>
      cases hfirst
      cases hsecond
      rfl
  | literal _ ih =>
      cases hfirst with
      | literal hfirst =>
          cases hsecond with
          | literal hsecond => exact ih hfirst hsecond
  | @hole lead param regex rest hfree hslash _ ih =>
      obtain ⟨word, values, tail, hword, hrest, rfl, rfl⟩ := hfirst.exists_word
      obtain ⟨other, others, tail', hother, hrest', rfl, heq⟩ := hsecond.exists_word
      rw [List.append_assoc, List.append_assoc, List.append_cancel_left_eq] at heq
      obtain ⟨after, rfl⟩ := hslash _ _ hrest
      obtain ⟨after', rfl⟩ := hslash _ _ hrest'
      obtain ⟨rfl, rfl⟩ := append_slash_inj (hfree _ hword) (hfree _ hother) heq
      rw [ih hrest hrest']
  | @last param regex hfree =>
      have hlength {values : List (Option (List Char))} {text : List Char}
          (h : Spells [.hole (some '/') param regex true, .literal '/'] values text) :
          (values = [none] ∧ text = ['/']) ∨
            ∃ word ∈ languageOf regex, values = [some word] ∧ text = '/' :: word ++ ['/'] := by
        rcases h with _ | _ | ⟨hword, (_ | ⟨⟨⟩⟩)⟩ | ⟨(_ | ⟨⟨⟩⟩)⟩
        · exact .inr ⟨_, hword, rfl, rfl⟩
        · exact .inl ⟨rfl, rfl⟩
      rcases hlength hfirst with ⟨rfl, rfl⟩ | ⟨word, hword, rfl, rfl⟩ <;>
        rcases hlength hsecond with ⟨rfl, heq⟩ | ⟨other, hother, rfl, heq⟩
      · rfl
      · simp at heq
      · simp at heq
      · simp only [List.cons_append, List.cons.injEq, true_and, List.append_cancel_right_eq] at heq
        rw [heq]

end HttpRouting.Engine.Slot
