import HttpRouting.Proofs.Template.Placeholders

/-!
# Divisions of templates

A spelling of a token opens with its only opening brace, so two spellings never
overlap.  That is why a template has exactly one division into spellings and
literals without any, which scanning finds, and why the brackets that are
written for a template depend on its tokens but not on their blanks.
-/

namespace HttpRouting.Template

open Compiler (tagPieces constraint?)

/-! ## Spellings -/

theorem Token.Spelled.exists_inside {t : Token} {spelling : List Char} (h : t.Spelled spelling) :
    ∃ inside, spelling = '{' :: inside ∧ '{' ∉ inside ∧ ('?' ∈ inside ↔ t.optional = true) := by
  cases h with
  | @intro left name right optional hleft hname hright =>
      have hblank {c : Char} {blanks : List Char} (h : IsBlankText blanks)
          (hc : Text.isBlank c = false) : c ∉ blanks := fun hmem => by simp [h c hmem] at hc
      have hletter {c : Char} (hc : isNameChar c = false) : c ∉ name :=
        fun hmem => by simp [hname.2 c hmem] at hc
      refine ⟨left ++ name ++ (if optional then ['?'] else []) ++ right ++ ['}'], rfl, ?_, ?_⟩
      · have hmark : '{' ∉ (if optional then ['?'] else []) := by split <;> simp
        simp [hblank hleft (c := '{') (by decide), hletter (c := '{') (by decide), hmark,
          hblank hright (c := '{') (by decide)]
      · have hmark : '?' ∈ (if optional then ['?'] else []) ↔ optional = true := by
          cases optional <;> simp
        simp [hblank hleft (c := '?') (by decide), hletter (c := '?') (by decide), hmark,
          hblank hright (c := '?') (by decide)]

theorem Token.Spelled.mark_mem_iff {t : Token} {spelling : List Char} (h : t.Spelled spelling) :
    '?' ∈ spelling ↔ t.optional = true := by
  obtain ⟨inside, rfl, -, hmark⟩ := h.exists_inside
  simp [hmark]

theorem Token.Spelled.exists_between {t : Token} {spelling rest before : List Char}
    (h : t.Spelled spelling) (hne : before ≠ []) {tail : List Char}
    (heq : spelling ++ rest = before ++ '{' :: tail) : ∃ between, before = spelling ++ between := by
  rcases List.append_eq_append_iff.mp heq with ⟨between, hbefore, -⟩ | ⟨beyond, hspelling, htail⟩
  · exact ⟨between, hbefore⟩
  · cases beyond with
    | nil => exact ⟨[], by simpa using hspelling.symm⟩
    | cons c beyond =>
        obtain ⟨rfl, -⟩ := List.cons.inj htail
        obtain ⟨inside, hinside, hbrace, -⟩ := h.exists_inside
        obtain ⟨d, more, rfl⟩ := List.exists_cons_of_ne_nil hne
        rw [hspelling, List.cons_append, List.cons.injEq] at hinside
        exact absurd (by simp [← hinside.2]) hbrace

/-! ## Literals -/

theorem IsTokenFree.of_cons {c : Char} {s : List Char} (h : IsTokenFree (c :: s)) : IsTokenFree s := by
  intro before spelling after token hs
  exact h (c :: before) spelling after token (by simp [hs])

theorem isTokenFree_nil : IsTokenFree [] := by
  intro before spelling after token hs hspelled
  have hnil : spelling = [] := by simp_all
  simpa [hnil] using hspelled.head?

theorem IsTokenFree.cons {c : Char} {s rest : List Char} (h : IsTokenFree s)
    (hnone : token? (c :: (s ++ rest)) = none) : IsTokenFree (c :: s) := by
  intro before spelling after token hs hspelled
  cases before with
  | nil =>
      have hread := token?_of_spelled hspelled (after ++ rest)
      rw [← List.append_assoc, show spelling ++ after = c :: s from hs.symm, List.cons_append,
        hnone] at hread
      simp at hread
  | cons d before =>
      simp only [List.cons_append, List.cons.injEq] at hs
      exact h before spelling after token hs.2 hspelled

theorem token?_of_isTokenFree {s : List Char} (h : IsTokenFree s) : token? s = none := by
  cases hread : token? s with
  | none => rfl
  | some found =>
      obtain ⟨token, rest⟩ := found
      obtain ⟨spelling, hspelled, hs⟩ := token?_eq hread
      exact absurd hspelled (h [] spelling rest token (by simp [hs]))

theorem token?_literal {c : Char} {literal spelling : List Char} {t : Token}
    (h : IsTokenFree (c :: literal)) (hspelled : t.Spelled spelling) (rest : List Char) :
    token? (c :: (literal ++ (spelling ++ rest))) = none := by
  cases hread : token? (c :: (literal ++ (spelling ++ rest))) with
  | none => rfl
  | some found =>
      obtain ⟨other, after⟩ := found
      obtain ⟨longer, hlonger, heq⟩ := token?_eq hread
      obtain ⟨inside, rfl, -, -⟩ := hspelled.exists_inside
      have hopens : longer ++ after = (c :: literal) ++ '{' :: (inside ++ rest) := by
        simpa using heq.symm
      obtain ⟨between, hbetween⟩ := hlonger.exists_between (List.cons_ne_nil c literal) hopens
      exact absurd hlonger (h [] longer between other (by simp [hbetween]))

theorem scan_of_isTokenFree {s : List Char} (h : IsTokenFree s) : scan s = s.map .literal := by
  induction s with
  | nil => simp
  | cons c s ih =>
      rw [scan_cons_of_token?_eq_none (token?_of_isTokenFree h), ih h.of_cons, List.map_cons]

theorem scan_literal_append {literal spelling : List Char} {t : Token} (h : IsTokenFree literal)
    (hspelled : t.Spelled spelling) (rest : List Char) :
    scan (literal ++ (spelling ++ rest)) = literal.map .literal ++ .token t :: scan rest := by
  induction literal with
  | nil => exact scan_of_token? (token?_of_spelled hspelled rest)
  | cons c literal ih =>
      rw [List.cons_append, scan_cons_of_token?_eq_none (token?_literal h hspelled rest),
        ih h.of_cons, List.map_cons, List.cons_append]

/-! ## Divisions -/

namespace Division

theorem isProper_cons {s : Section} {sections : List Section} {last : List Char} :
    IsProper ⟨s :: sections, last⟩ ↔
      IsTokenFree s.literal ∧ s.token.Spelled s.spelling ∧ IsProper ⟨sections, last⟩ := by
  simp [IsProper, and_assoc]

theorem text_cons (s : Section) (sections : List Section) (last : List Char) :
    text ⟨s :: sections, last⟩ = s.literal ++ (s.spelling ++ text ⟨sections, last⟩) := by
  simp [text, Section.text]

theorem pieces_cons (s : Section) (sections : List Section) (last : List Char) :
    pieces ⟨s :: sections, last⟩ =
      s.literal.map .literal ++ .token s.token :: pieces ⟨sections, last⟩ := by
  simp [pieces]

theorem scan_text {d : Division} (h : d.IsProper) : scan d.text = d.pieces := by
  obtain ⟨sections, last⟩ := d
  induction sections with
  | nil => simpa [text, pieces] using scan_of_isTokenFree h.2
  | cons s sections ih =>
      obtain ⟨hliteral, hspelled, hrest⟩ := isProper_cons.mp h
      rw [text_cons, scan_literal_append hliteral hspelled, ih hrest, pieces_cons]

def push (c : Char) : Division → Division
  | ⟨[], last⟩ => ⟨[], c :: last⟩
  | ⟨s :: sections, last⟩ => ⟨{ s with literal := c :: s.literal } :: sections, last⟩

theorem text_push (c : Char) (d : Division) : (d.push c).text = c :: d.text := by
  obtain ⟨sections, last⟩ := d
  cases sections with
  | nil => rfl
  | cons s sections => simp [push, text_cons]

theorem IsProper.push {c : Char} {d : Division} (h : d.IsProper)
    (hnone : token? (c :: d.text) = none) : (d.push c).IsProper := by
  obtain ⟨sections, last⟩ := d
  cases sections with
  | nil =>
      have hread : token? (c :: (last ++ [])) = none := by simpa [text] using hnone
      have hlast : IsTokenFree (c :: last) := h.2.cons hread
      exact ⟨by simp [Division.push], hlast⟩
  | cons s sections =>
      obtain ⟨hliteral, hspelled, hrest⟩ := isProper_cons.mp h
      rw [text_cons] at hnone
      exact isProper_cons.mpr ⟨hliteral.cons hnone, hspelled, hrest⟩

theorem exists_isProper (s : List Char) : ∃ d : Division, d.IsProper ∧ d.text = s := by
  fun_induction scan s with
  | case1 s t rest htoken ih =>
      obtain ⟨⟨sections, last⟩, hproper, htext⟩ := ih
      obtain ⟨spelling, hspelled, rfl⟩ := token?_eq htoken
      refine ⟨⟨⟨[], spelling, t⟩ :: sections, last⟩, ?_, ?_⟩
      · exact isProper_cons.mpr ⟨isTokenFree_nil, hspelled, hproper⟩
      · simp [text_cons, htext]
  | case2 => exact ⟨⟨[], []⟩, ⟨by simp, isTokenFree_nil⟩, rfl⟩
  | case3 c rest htoken ih =>
      obtain ⟨d, hproper, rfl⟩ := ih
      exact ⟨d.push c, hproper.push htoken, d.text_push c⟩

theorem first_section_unique {literal spelling rest literal' spelling' rest' : List Char}
    {t t' : Token} (hfree : IsTokenFree literal) (hfree' : IsTokenFree literal')
    (hspelled : t.Spelled spelling) (hspelled' : t'.Spelled spelling')
    (heq : literal ++ (spelling ++ rest) = literal' ++ (spelling' ++ rest')) :
    literal = literal' ∧ spelling = spelling' ∧ t = t' ∧ rest = rest' := by
  -- The longer of the two literals would hold the token behind the shorter one.
  have hlonger {first second spelling spelling' rest rest' : List Char} {t t' : Token}
      (hfree : IsTokenFree (first ++ second)) (hspelled : t.Spelled spelling)
      (hspelled' : t'.Spelled spelling')
      (heq : spelling ++ rest = second ++ (spelling' ++ rest')) : second = [] := by
    by_contra hne
    obtain ⟨inside, rfl, -, -⟩ := hspelled'.exists_inside
    have hopens : spelling ++ rest = second ++ '{' :: (inside ++ rest') := by simpa using heq
    obtain ⟨between, rfl⟩ := hspelled.exists_between hne hopens
    exact hfree first spelling between t (by simp) hspelled
  have hliteral : literal = literal' := by
    rcases List.append_eq_append_iff.mp heq with ⟨more, rfl, hmore⟩ | ⟨more, rfl, hmore⟩
    · simp [hlonger hfree' hspelled hspelled' hmore]
    · simp [hlonger hfree hspelled' hspelled hmore]
  subst hliteral
  have hread := token?_of_spelled hspelled rest
  rw [List.append_cancel_left heq, token?_of_spelled hspelled' rest', Option.some.injEq,
    Prod.mk.injEq] at hread
  obtain ⟨rfl, rfl⟩ := hread
  exact ⟨rfl, List.append_cancel_right (List.append_cancel_left heq), rfl, rfl⟩

theorem IsProper.eq_of_text_eq {d e : Division} (hd : d.IsProper) (he : e.IsProper)
    (h : d.text = e.text) : d = e := by
  obtain ⟨sections, last⟩ := d
  obtain ⟨sections', last'⟩ := e
  induction sections generalizing sections' with
  | nil =>
      cases sections' with
      | nil => simpa [text] using h
      | cons s sections' =>
          obtain ⟨-, hspelled, -⟩ := isProper_cons.mp he
          rw [text_cons] at h
          exact absurd hspelled (hd.2 s.literal s.spelling _ s.token (by simpa [text] using h))
  | cons s sections ih =>
      obtain ⟨hliteral, hspelled, hrest⟩ := isProper_cons.mp hd
      cases sections' with
      | nil =>
          rw [text_cons] at h
          exact absurd hspelled (he.2 s.literal s.spelling _ s.token (by simpa [text] using h.symm))
      | cons s' sections' =>
          obtain ⟨hliteral', hspelled', hrest'⟩ := isProper_cons.mp he
          rw [text_cons, text_cons] at h
          obtain ⟨hl, hs, ht, hr⟩ := first_section_unique hliteral hliteral' hspelled hspelled' h
          have hsection : s = s' := by
            cases s
            cases s'
            simp_all
          have htail := ih hrest sections' hrest' hr
          simp only [Division.mk.injEq] at htail ⊢
          exact ⟨by rw [hsection, htail.1], htail.2⟩

end Division

/-! ## Compiling -/

/-- The parameter of a section is optional if its token is marked, and tagged if it is constrained. -/
structure Section.IsDescribedBy (constraints : Pairs String) (s : Section) (p : Param) : Prop where
  name : p.name = s.token.name
  optional : p.optional = true ↔ '?' ∈ s.spelling
  tag : p.tag.isSome = true ↔ ∃ regex, constraints.find? s.token.name = some regex ∧ regex ≠ ""

/-- The literal of a section, and its token with a tag in brackets. -/
def Section.bracketed (s : Section) (tag : Option String) : List Char :=
  s.literal ++ '[' :: (tag.getD "").toList ++ ':' :: s.token.name.toList ++
    ']' :: if '?' ∈ s.spelling then ['?'] else []

def Division.bracketed (d : Division) (tags : List (Option String)) : List Char :=
  (List.zipWith Section.bracketed d.sections tags).flatten ++ d.last

theorem constraint?_isSome (constraints : Pairs String) (t : Token) :
    (constraint? constraints t).isSome = true ↔
      ∃ regex, constraints.find? t.name = some regex ∧ regex ≠ "" := by
  rw [constraint?]
  cases constraints.find? t.name with
  | none => simp
  | some regex => by_cases hregex : regex = "" <;> simp [Option.filter, hregex]

namespace Compiler

variable (constraints : Pairs String)

theorem written_literals (literal : List Char) (rest : List Piece) (compiler : Compiler) :
    compiler.written constraints (literal.map .literal ++ rest) =
        literal ++ compiler.written constraints rest ∧
      compiler.paramsOf constraints (literal.map .literal ++ rest) =
        compiler.paramsOf constraints rest := by
  induction literal with
  | nil => exact ⟨rfl, rfl⟩
  | cons c literal ih =>
      simp only [List.map_cons, List.cons_append, written_literal, paramsOf_literal, ih.1, ih.2,
        and_self]

theorem exists_param_of_section {s : Section} (h : s.token.Spelled s.spelling) (rest : List Piece)
    (compiler : Compiler) :
    ∃ (p : Param) (next : Nat), s.IsDescribedBy constraints p ∧
      s.literal ++ compiler.written constraints (.token s.token :: rest) =
        s.bracketed p.tag ++ { compiler with next := next }.written constraints rest ∧
      compiler.paramsOf constraints (.token s.token :: rest) =
        p :: { compiler with next := next }.paramsOf constraints rest := by
  have hbracketed (tag : Option String) : s.bracketed tag =
      s.literal ++ (Param.mk s.token.name s.token.optional tag).block := by
    by_cases hmark : '?' ∈ s.spelling
    · simp [Section.bracketed, Param.block, hmark, h.mark_mem_iff.mp hmark]
    · simp [Section.bracketed, Param.block, hmark,
        Bool.eq_false_iff.mpr (mt h.mark_mem_iff.mpr hmark)]
  have htag := constraint?_isSome constraints s.token
  cases hconstraint : constraint? constraints s.token with
  | none =>
      refine ⟨⟨s.token.name, s.token.optional, none⟩, compiler.next,
        ⟨rfl, h.mark_mem_iff.symm, by simpa [hconstraint] using htag⟩, ?_, ?_⟩
      · simp [hbracketed, written, tagPieces, hconstraint, Part.text]
      · simp [paramsOf, tagPieces, hconstraint, Part.param?]
  | some regex =>
      refine ⟨⟨s.token.name, s.token.optional, some compiler.tag⟩, compiler.next + 1,
        ⟨rfl, h.mark_mem_iff.symm, by simpa [hconstraint] using htag⟩, ?_, ?_⟩
      · simp [hbracketed, written, tagPieces, hconstraint, Part.text]
      · simp [paramsOf, tagPieces, hconstraint, Part.param?]

theorem written_pieces {d : Division} (h : d.IsProper) (compiler : Compiler) :
    List.Forall₂ (Section.IsDescribedBy constraints) d.sections
        (compiler.paramsOf constraints d.pieces) ∧
      compiler.written constraints d.pieces =
        d.bracketed ((compiler.paramsOf constraints d.pieces).map Param.tag) := by
  obtain ⟨sections, last⟩ := d
  induction sections generalizing compiler with
  | nil =>
      have hlast := written_literals constraints last [] compiler
      rw [List.append_nil] at hlast
      simp only [Division.pieces, List.flatMap_nil, List.nil_append, hlast.1, hlast.2]
      simp [Division.bracketed, written, paramsOf, tagPieces]
  | cons s sections ih =>
      obtain ⟨-, hspelled, hrest⟩ := Division.isProper_cons.mp h
      obtain ⟨p, next, hp, hwritten, hparams⟩ := exists_param_of_section constraints hspelled
        (Division.pieces ⟨sections, last⟩) compiler
      obtain ⟨hsections, htail⟩ := ih { compiler with next := next } hrest
      obtain ⟨hliteral, hnone⟩ := written_literals constraints s.literal
        (.token s.token :: Division.pieces ⟨sections, last⟩) compiler
      rw [Division.pieces_cons, hliteral, hnone, hparams, hwritten, htail]
      exact ⟨.cons hp hsections, by simp [Division.bracketed]⟩

end Compiler

/--
A template has exactly one division into spellings of tokens and literals
without any.  Compiling it gives one parameter for each token, in their order,
and a pattern in which the tokens stand in brackets and all other text as it is.
Templates that differ only in the spelling of their tokens compile to the same.
-/
theorem compile_follows_division (template : String) :
    ∃ d : Division, (d.IsProper ∧ d.text = template.toList) ∧
      (∀ e : Division, e.IsProper → e.text = template.toList → e = d) ∧
      ∀ (compiler : Compiler) (constraints : Pairs String),
        let compiled := (compiler.compile template constraints).1
        List.Forall₂ (Section.IsDescribedBy constraints) d.sections compiled.params ∧
          compiled.pattern.toList =
            Path.trimLeft (d.bracketed (compiled.params.map Param.tag)) ∧
          ∀ (other : String) (e : Division), e.IsProper → e.text = other.toList →
            e.pieces = d.pieces →
              compiler.compile other constraints = compiler.compile template constraints := by
  obtain ⟨d, hproper, htext⟩ := Division.exists_isProper template.toList
  have hscan : scan template.toList = d.pieces := by rw [← htext, Division.scan_text hproper]
  refine ⟨d, ⟨hproper, htext⟩, fun e he hetext => he.eq_of_text_eq hproper (hetext.trans htext.symm),
    fun compiler constraints => ?_⟩
  obtain ⟨hparams, hwritten⟩ := Compiler.written_pieces constraints hproper compiler
  have hcompiled : (compiler.compile template constraints).1.params =
      compiler.paramsOf constraints d.pieces := by
    rw [← hscan]
    rfl
  refine ⟨hcompiled ▸ hparams, ?_, fun other e he hetext hsame => ?_⟩
  · rw [hcompiled, ← hwritten, ← hscan]
    simp [Compiler.compile, Compiler.written]
  · have hother : scan other.toList = scan template.toList := by
      rw [← hetext, Division.scan_text he, hsame, hscan]
    rw [Compiler.compile, Compiler.compile, hother]

example : (({} : Compiler).compile "/{{a}}/{ b ?}/{ c? }" ∅).1.pattern =
    "{[:a]}/{ b ?}/[:c]?" := by
  decide +kernel

end HttpRouting.Template
