import HttpRouting.Proofs.Engine.Slot
import HttpRouting.Proofs.Template.Tags

/-!
# Slots of templates

A template without an opening bracket is compiled to a pattern whose slots can
be read off the template itself: literals stay, and a token becomes a hole with
the slash or dot before it and the expression of its constraint.  The tags that
were handed out meanwhile leave no trace.  A question mark behind a token is
taken for the mark of an optional block.
-/

namespace HttpRouting.Template

open Compiler (Part Binds tagPieces typeOf)
open Engine (Slot)

/-! ## Slots -/

/-- A question mark right behind a token makes it optional. -/
def absorbMarks : List Piece → List Piece
  | [] => []
  | .token t :: .literal c :: rest =>
      if c = '?' ∧ t.optional = false then .token ⟨t.name, true⟩ :: absorbMarks rest
      else .token t :: absorbMarks (.literal c :: rest)
  | piece :: rest => piece :: absorbMarks rest

def slots (constraints : Pairs String) : List Piece → List Slot
  | [] => []
  | .literal c :: .token t :: rest =>
      if Pattern.isLead c then
        .hole (some c) t.name (typeOf constraints t) t.optional :: slots constraints rest
      else
        .literal c :: .hole none t.name (typeOf constraints t) t.optional :: slots constraints rest
  | .literal c :: rest => .literal c :: slots constraints rest
  | .token t :: rest =>
      .hole none t.name (typeOf constraints t) t.optional :: slots constraints rest

/-- Pieces whose literals begin no block and whose tokens have names. -/
structure IsReadable (pieces : List Piece) : Prop where
  literal : ∀ c, .literal c ∈ pieces → c ≠ '['
  token : ∀ t, .token t ∈ pieces → IsName t.name.toList

theorem IsReadable.of_cons {piece : Piece} {rest : List Piece} (h : IsReadable (piece :: rest)) :
    IsReadable rest where
  literal := fun c hc => h.literal c (List.mem_cons_of_mem _ hc)
  token := fun t ht => h.token t (List.mem_cons_of_mem _ ht)

theorem IsReadable.append {first second : List Piece} (hfirst : IsReadable first)
    (hsecond : IsReadable second) : IsReadable (first ++ second) where
  literal := fun c hc => (List.mem_append.mp hc).elim (hfirst.literal c) (hsecond.literal c)
  token := fun t ht => (List.mem_append.mp ht).elim (hfirst.token t) (hsecond.token t)

theorem isReadable_scan {s : List Char} (h : '[' ∉ s) : IsReadable (scan s) where
  literal := by
    rintro c hc rfl
    exact h (mem_of_literal_mem_scan hc)
  token := fun _ ht => isName_of_token_mem_scan ht

/-! ## Equations -/

theorem absorbMarks_literal (c : Char) (rest : List Piece) :
    absorbMarks (.literal c :: rest) = .literal c :: absorbMarks rest := by
  rw [absorbMarks]
  intro t d tail h
  simp at h

theorem absorbMarks_marked {t : Token} (ht : t.optional = false) (rest : List Piece) :
    absorbMarks (.token t :: .literal '?' :: rest) = .token ⟨t.name, true⟩ :: absorbMarks rest := by
  rw [absorbMarks, if_pos ⟨rfl, ht⟩]

theorem absorbMarks_unmarked {t : Token} {rest : List Piece}
    (h : t.optional = true ∨ rest.head? ≠ some (.literal '?')) :
    absorbMarks (.token t :: rest) = .token t :: absorbMarks rest := by
  cases rest with
  | nil => rfl
  | cons piece rest =>
      cases piece with
      | literal c =>
          rw [absorbMarks, if_neg]
          rintro ⟨rfl, ht⟩
          simp_all
      | token u =>
          rw [absorbMarks]
          rintro v c tail - ⟨⟩

theorem slots_token (constraints : Pairs String) (t : Token) (rest : List Piece) :
    slots constraints (.token t :: rest) =
      .hole none t.name (typeOf constraints t) t.optional :: slots constraints rest := by
  rw [slots]

theorem slots_lead (constraints : Pairs String) {c : Char} (hc : Pattern.isLead c = true)
    (t : Token) (rest : List Piece) :
    slots constraints (.literal c :: .token t :: rest) =
      .hole (some c) t.name (typeOf constraints t) t.optional :: slots constraints rest := by
  rw [slots, if_pos hc]

theorem slots_literal (constraints : Pairs String) {c : Char} {rest : List Piece}
    (h : Pattern.isLead c = true → ∀ t, rest.head? ≠ some (.token t)) :
    slots constraints (.literal c :: rest) = .literal c :: slots constraints rest := by
  cases rest with
  | nil => rfl
  | cons piece rest =>
      cases piece with
      | literal d =>
          rw [slots]
          intro t tail h
          simp at h
      | token t =>
          have hc : ¬ Pattern.isLead c = true := fun hc => h hc t rfl
          rw [slots, if_neg hc, slots_token]

theorem head?_absorbMarks {rest : List Piece} (h : ∀ t, rest.head? ≠ some (.token t)) (t : Token) :
    (absorbMarks rest).head? ≠ some (.token t) := by
  cases rest with
  | nil => simp [absorbMarks]
  | cons piece rest =>
      cases piece with
      | literal c => simp [absorbMarks_literal]
      | token u => exact absurd rfl (h u)

/-! ## Equal constraints -/

theorem constraint?_congr {constraints others : Pairs String}
    (h : ∀ param, constraints.find? param = others.find? param) :
    Compiler.constraint? constraints = Compiler.constraint? others := by
  funext t
  rw [Compiler.constraint?, Compiler.constraint?, h]

theorem slots_congr {constraints others : Pairs String}
    (h : ∀ param, constraints.find? param = others.find? param) (pieces : List Piece) :
    slots constraints pieces = slots others pieces := by
  have htype : Compiler.typeOf constraints = Compiler.typeOf others := by
    funext t
    rw [Compiler.typeOf, Compiler.typeOf, constraint?_congr h]
  fun_induction slots constraints pieces with
  | case1 => rfl
  | case2 c t rest hc ih => rw [slots_lead _ hc, ih, htype]
  | case3 c t rest hc ih =>
      rw [slots_literal _ fun hlead => absurd hlead hc, slots_token, ih, htype]
  | case4 c rest hrest ih =>
      rw [slots_literal _ fun _ t ht => ?_, ih]
      cases rest with
      | nil => simp at ht
      | cons piece tail =>
          obtain rfl := Option.some.inj ht
          exact hrest t tail rfl
  | case5 t rest ih => rw [slots_token, ih, htype]

/-! ## Scanning what compiling writes -/

theorem isWritable_param {t : Token} (ht : IsName t.name.toList) {compiler : Compiler}
    (hc : compiler.IsWritable) {p : Param} (hname : p.name = t.name)
    (htag : p.tag = none ∨ p.tag = some compiler.tag) : Pattern.IsWritable p where
  tag := by
    intro c hmem
    rcases htag with hnone | hsome
    · simp [hnone] at hmem
    · rw [hsome, Option.getD_some] at hmem
      exact Compiler.isBlockChar_of_mem_tag hc hmem
  name := by
    intro c hmem
    rw [hname] at hmem
    exact Compiler.isBlockChar_of_isNameChar (ht.2 c hmem)
  named := by
    rw [hname]
    exact ht.1

theorem head?_text_tagPieces (constraints : Pairs String) (rest : List Piece) (compiler : Compiler)
    (d : Char) :
    ((tagPieces constraints rest compiler).1.flatMap Part.text).head? = some d →
      rest.head? = some (.literal d) ∨ ∃ t, rest.head? = some (.token t) ∧ d = '[' := by
  cases rest with
  | nil => simp [tagPieces]
  | cons piece rest =>
      cases piece with
      | literal c => simp [Compiler.tagPieces_literal, Part.text]
      | token t =>
          obtain ⟨p, regex, next, -, htag, -⟩ := Compiler.tagPieces_token constraints t rest compiler
          intro h
          rw [htag] at h
          simp only [List.flatMap_cons, Part.text, Param.block, List.cons_append,
            List.head?_cons, Option.some.injEq] at h
          exact .inr ⟨t, rfl, h.symm⟩

/-- However its tokens are tagged, the text written for some pieces is scanned as their slots. -/
def Resolves (constraints types : Pairs String) (pieces : List Piece) : Prop :=
  ∀ compiler : Compiler, compiler.IsWritable →
    Binds types (tagPieces constraints pieces compiler).1 →
    Slot.resolve? types
        (Pattern.scan ((tagPieces constraints pieces compiler).1.flatMap Part.text)) =
      some (slots constraints (absorbMarks pieces))

private theorem bracket?_token {constraints types : Pairs String} (lead : Option Char) {t : Token}
    {rest : List Piece} (hread : IsReadable (.token t :: rest))
    (ih : ∀ more : List Piece, more.length ≤ rest.length → IsReadable more →
      Resolves constraints types more)
    {compiler : Compiler} (hwrite : compiler.IsWritable)
    (hbinds : Binds types (tagPieces constraints (.token t :: rest) compiler).1) :
    ∃ (b : Pattern.Block) (after : List Char) (u : Token) (more : List Piece),
      Pattern.bracket? lead
          ((tagPieces constraints (.token t :: rest) compiler).1.flatMap Part.text) =
        some (b, after) ∧
      absorbMarks (.token t :: rest) = .token u :: absorbMarks more ∧
      Slot.resolve? types (.block b :: Pattern.scan after) =
        some (.hole lead u.name (typeOf constraints u) u.optional ::
          slots constraints (absorbMarks more)) := by
  obtain ⟨p, regex, next, hnext, htag, hname, hoptional, htype⟩ :=
    Compiler.tagPieces_token constraints t rest compiler
  have hp : Pattern.IsWritable p :=
    isWritable_param (hread.token t (by simp)) hwrite hname (htype.imp And.left And.left)
  rw [htag] at hbinds ⊢
  have hfound : types.find? (p.tag.getD "") = some (typeOf constraints t) :=
    hbinds.find?_tag (htype.imp id fun h => ⟨h.1, h.2.2⟩)
  have hrest := ih rest (Nat.le_refl _) hread.of_cons { compiler with next := next } hwrite
    hbinds.tail
  simp only [List.flatMap_cons, Part.text]
  by_cases hmark : t.optional = false ∧ rest.head? = some (.literal '?')
  · obtain ⟨ht, hmark⟩ := hmark
    obtain ⟨more, rfl⟩ : ∃ more, rest = .literal '?' :: more := by
      cases rest <;> simp_all
    have hmore := ih more (by simp) hread.of_cons.of_cons { compiler with next := next } hwrite
      hbinds.tail.tail
    rw [Compiler.tagPieces_literal]
    simp only [List.flatMap_cons, Part.text, List.cons_append, List.nil_append]
    refine ⟨_, _, ⟨t.name, true⟩, more,
      Pattern.bracket?_marked hp (by rw [hoptional, ht]) lead _, absorbMarks_marked ht more, ?_⟩
    have hsame : typeOf constraints ⟨t.name, true⟩ = typeOf constraints t := rfl
    simp only [Slot.resolve?, Pattern.blockOf, hfound, hmore, hname, hsame]
    rfl
  · have habsorb : absorbMarks (.token t :: rest) = .token t :: absorbMarks rest := by
      refine absorbMarks_unmarked ?_
      cases ht : t.optional with
      | true => exact .inl rfl
      | false => exact .inr fun h => hmark ⟨ht, h⟩
    cases ht : t.optional with
    | true =>
        refine ⟨_, _, t, rest, Pattern.bracket?_optional hp (by rw [hoptional, ht]) lead _,
          habsorb, ?_⟩
        simp only [Slot.resolve?, Pattern.blockOf, hfound, hrest, hname, ht]
        rfl
    | false =>
        have hhead : ((tagPieces constraints rest { compiler with next := next }).1.flatMap
            Part.text).head? ≠ some '?' := by
          intro h
          rcases head?_text_tagPieces _ _ _ _ h with hliteral | ⟨_, -, habsurd⟩
          · exact hmark ⟨ht, hliteral⟩
          · simp at habsurd
        refine ⟨_, _, t, rest, Pattern.bracket?_required hp (by rw [hoptional, ht]) lead hhead,
          habsorb, ?_⟩
        simp only [Slot.resolve?, Pattern.blockOf, hfound, hrest, hname, ht]
        rfl

/--
The slots of a compiled template.  The induction is on the number of pieces,
since a lead or a mark is used up together with the token it belongs to.
-/
theorem resolves {constraints types : Pairs String} {pieces : List Piece}
    (hread : IsReadable pieces) : Resolves constraints types pieces := by
  induction hlength : pieces.length using Nat.strongRecOn generalizing pieces with
  | ind length ih =>
      have hshorter (bound : Nat) (hbound : bound < length) (more : List Piece)
          (hmore : more.length ≤ bound) (hread : IsReadable more) :
          Resolves constraints types more :=
        ih more.length (by omega) hread rfl
      intro compiler hwrite hbinds
      cases pieces with
      | nil => simp [tagPieces, Slot.resolve?, absorbMarks, slots]
      | cons piece rest =>
          rw [List.length_cons] at hlength
          cases piece with
          | token t =>
              obtain ⟨b, after, u, more, hbracket, habsorb, hresolve⟩ :=
                bracket?_token none hread (hshorter rest.length (by omega)) hwrite hbinds
              rw [Pattern.scan_of_bracket? hbracket, hresolve, habsorb, slots_token]
          | literal c =>
              rw [Compiler.tagPieces_literal] at hbinds ⊢
              simp only [List.flatMap_cons, Part.text, List.cons_append, List.nil_append]
              by_cases hlead : Pattern.isLead c = true ∧ ∃ t, rest.head? = some (.token t)
              · obtain ⟨hc, t, ht⟩ := hlead
                obtain ⟨rest, rfl⟩ : ∃ more, rest = .token t :: more := by
                  cases rest <;> simp_all
                obtain ⟨b, after, u, more, hbracket, habsorb, hresolve⟩ :=
                  bracket?_token (some c) hread.of_cons
                    (hshorter rest.length (by simp at hlength; omega)) hwrite hbinds.tail
                rw [Pattern.scan_of_lead hc hbracket, hresolve, absorbMarks_literal, habsorb,
                  slots_lead constraints hc]
              · have hhead : Pattern.isLead c = true → ∀ t, rest.head? ≠ some (.token t) :=
                  fun hc t ht => hlead ⟨hc, t, ht⟩
                have hbare : Pattern.isLead c = true →
                    ((tagPieces constraints rest compiler).1.flatMap Part.text).head? ≠
                      some '[' := by
                  intro hc h
                  rcases head?_text_tagPieces _ _ _ _ h with hliteral | ⟨t, ht, -⟩
                  · refine hread.literal '[' ?_ rfl
                    exact List.mem_cons_of_mem _ (List.mem_of_mem_head? hliteral)
                  · exact hhead hc t ht
                have hrest := hshorter rest.length (by omega) rest (Nat.le_refl _) hread.of_cons
                  compiler hwrite hbinds.tail
                rw [Pattern.scan_literal (hread.literal c (by simp)) hbare, Slot.resolve?, hrest,
                  absorbMarks_literal,
                  slots_literal constraints fun hc t => head?_absorbMarks (hhead hc) t]
                rfl

end HttpRouting.Template
