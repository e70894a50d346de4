import HttpRouting.Proofs.Engine.Capturing
import HttpRouting.Proofs.Template.Filling
import Mathlib.Data.List.Chain

/-!
# Texts with a slash at the end

A trimmed template without doubled slashes, whose optional tokens are whole
segments, is not spelled by a text with a slash at its end, if its values are
not empty and have no slashes.  A slash is left out together with the optional
token behind it, and every other slash has something behind it.
-/

namespace HttpRouting.Template

open Compiler (typeOf)
open Engine (Slot)
open Engine.Slot (Captures captures_hole captures_literal captures_nil languageOf)

/-! ## Pieces beside each other -/

def Piece.isOptional : Piece → Bool
  | .literal _ => false
  | .token t => t.optional

/-- No optional token stands beside anything but a slash, so each of them is a whole segment. -/
def HasWholeOptions (pieces : List Piece) : Prop :=
  pieces.IsChain fun first second =>
    (first.isOptional = true → second = .literal '/') ∧
      (second.isOptional = true → first = .literal '/')

instance (pieces : List Piece) : Decidable (HasWholeOptions pieces) :=
  inferInstanceAs (Decidable (List.IsChain _ pieces))

/-- Slashes stand alone, and an optional token has one before it. -/
def Piece.Precedes (first second : Piece) : Prop :=
  (first = .literal '/' → second ≠ .literal '/') ∧
    (second.isOptional = true → first = .literal '/')

theorem isChain_literal_scan {c : Char} {s : List Char} (h : ¬ [c, c] <:+: s) :
    (scan s).IsChain fun first second => first = .literal c → second ≠ .literal c := by
  fun_induction scan s with
  | case1 s t rest htoken ih =>
      obtain ⟨spelling, -, rfl⟩ := token?_eq htoken
      have hrest := ih fun hrest => h (hrest.trans (List.suffix_append _ _).isInfix)
      exact hrest.cons fun _ _ => by simp
  | case2 => exact .nil
  | case3 d rest htoken ih =>
      have hrest := ih fun hrest => h (hrest.trans (List.suffix_cons _ _).isInfix)
      refine hrest.cons fun second hsecond => ?_
      rintro hfirst rfl
      obtain rfl := Piece.literal.inj hfirst
      obtain ⟨after, hafter⟩ := List.head?_eq_some_iff.mp (head?_of_head?_scan hsecond)
      exact h ⟨[], after, by simp [hafter]⟩

theorem HasWholeOptions.precedes {s : List Char} (h : HasWholeOptions (scan s))
    (hslashes : ¬ ['/', '/'] <:+: s) : (scan s).IsChain Piece.Precedes := by
  rw [HasWholeOptions, List.isChain_iff_forall_rel_of_append_cons_cons] at h
  have halone := List.isChain_iff_forall_rel_of_append_cons_cons.mp (isChain_literal_scan hslashes)
  refine List.isChain_iff_forall_rel_of_append_cons_cons.mpr fun first second before after heq => ?_
  exact ⟨halone heq, (h heq).2⟩

/-! ## Captured texts -/

variable {constraints : Pairs String}

theorem ne_nil_of_captures {d : Char} (hd : d ≠ '/') {rest : List Piece}
    (hchain : (.literal d :: rest).IsChain Piece.Precedes)
    {text : List Char} {params : List (String × String)}
    (h : Captures (slots constraints (.literal d :: rest)) text params) : text ≠ [] := by
  by_cases hlead : Pattern.isLead d = true ∧ ∃ t more, rest = .token t :: more
  · obtain ⟨hlead, t, more, rfl⟩ := hlead
    rw [slots_lead constraints hlead] at h
    rcases captures_hole.mp h with ⟨word, tail, -, -, rfl, -, -⟩ | ⟨hoptional, -⟩
    · simp
    · have hslash := (List.isChain_cons_cons.mp hchain).1.2 hoptional
      exact absurd (Piece.literal.inj hslash) hd
  · rw [slots_literal constraints] at h
    · obtain ⟨tail, rfl, -⟩ := captures_literal.mp h
      simp
    · intro hlead' t ht
      obtain ⟨more, rfl⟩ := List.head?_eq_some_iff.mp ht
      exact hlead ⟨hlead', t, more, rfl⟩

section

variable (hwords : ∀ t : Token, ∀ word ∈ languageOf (typeOf constraints t), word ≠ [] ∧ '/' ∉ word)

include hwords

theorem getLast?_of_captures_hole {lead : Option Char} {t : Token} {rest : List Slot}
    {text : List Char} {params : List (String × String)}
    (h : Captures (.hole lead t.name (typeOf constraints t) t.optional :: rest) text params)
    (hrest : ∀ {text params}, Captures rest text params → text.getLast? ≠ some '/') :
    text.getLast? ≠ some '/' := by
  rcases captures_hole.mp h with ⟨word, tail, more, hword, rfl, htail, -⟩ | ⟨-, htail⟩
  · obtain ⟨hne, hslash⟩ := hwords t word hword
    rw [List.getLast?_append]
    cases hlast : tail.getLast? with
    | some d =>
        rw [Option.some_or, ← hlast]
        exact hrest htail
    | none =>
        rw [Option.none_or, List.getLast?_append, List.getLast?_eq_some_getLast hne, Option.some_or,
          ne_eq, Option.some.injEq]
        exact fun heq => hslash (heq ▸ List.getLast_mem hne)
  · exact hrest htail

/--
The induction is on the slots: only a literal slash with nothing behind it could
end a text in a slash, since no value does.
-/
theorem getLast?_of_captures {pieces : List Piece}
    (hchain : pieces.IsChain Piece.Precedes)
    (hlast : pieces.getLast? ≠ some (.literal '/')) {text : List Char}
    {params : List (String × String)} (h : Captures (slots constraints pieces) text params) :
    text.getLast? ≠ some '/' := by
  have hbehind {piece : Piece} {rest : List Piece}
      (hlast : (piece :: rest).getLast? ≠ some (.literal '/')) : rest.getLast? ≠ some (.literal '/') :=
    fun heq => hlast (by rw [List.getLast?_cons, heq]; rfl)
  have hliteral {c : Char} {tail : List Char} (hc : c ≠ '/') (htail : tail.getLast? ≠ some '/') :
      (c :: tail).getLast? ≠ some '/' := by
    rw [List.getLast?_cons]
    cases hlast : tail.getLast? with
    | none => simpa using hc
    | some d => simpa [hlast] using htail
  fun_induction slots constraints pieces generalizing text params with
  | case1 =>
      obtain ⟨rfl, -⟩ := captures_nil.mp h
      simp
  | case2 c t rest hlead ih =>
      exact getLast?_of_captures_hole hwords h (ih hchain.tail.tail (hbehind (hbehind hlast)))
  | case3 c t rest hlead ih =>
      obtain ⟨tail, rfl, htail⟩ := captures_literal.mp h
      have htail' := getLast?_of_captures_hole hwords htail
        (ih hchain.tail.tail (hbehind (hbehind hlast)))
      have hc : c ≠ '/' := fun heq => hlead (heq ▸ rfl)
      exact hliteral hc htail'
  | case4 c rest hrest ih =>
      obtain ⟨tail, rfl, htail⟩ := captures_literal.mp h
      have htail' := ih hchain.tail (hbehind hlast) htail
      by_cases hc : c = '/'
      · subst hc
        cases rest with
        | nil => exact absurd rfl hlast
        | cons piece more =>
            cases piece with
            | token t => exact (hrest t more rfl).elim
            | literal d =>
                have hd : d ≠ '/' := fun heq => (List.isChain_cons_cons.mp hchain).1.1 rfl (by rw [heq])
                have hne := ne_nil_of_captures hd hchain.tail htail
                obtain ⟨e, tail, rfl⟩ := List.exists_cons_of_ne_nil hne
                rwa [List.getLast?_cons_cons]
      · exact hliteral hc htail'
  | case5 t rest ih =>
      exact getLast?_of_captures_hole hwords h (ih hchain.tail (hbehind hlast))

end

end HttpRouting.Template
