import HttpRouting.Proofs.Path
import HttpRouting.Proofs.Template.Slots

/-!
# The two forms of a template

A trimmed template is compiled to the text of its parts, which is its bare
form; the canonical form has a slash more, unless the template is empty.  An
engine that knows the tags of the template resolves both forms to the slots of
the template.
-/

namespace HttpRouting.Template

open Compiler (Part Binds tagPieces)
open Engine (Slot)

/-- The pieces of the canonical form: a slash stands behind everything else. -/
def canonicalPieces (template : List Char) : List Piece :=
  if template.isEmpty then [] else scan template ++ [.literal '/']

/-! ## Texts of parts -/

theorem tagPieces_append_literal (constraints : Pairs String) (pieces : List Piece) (c : Char)
    (compiler : Compiler) :
    tagPieces constraints (pieces ++ [.literal c]) compiler =
      ((tagPieces constraints pieces compiler).1 ++ [.literal c],
        (tagPieces constraints pieces compiler).2) := by
  induction pieces generalizing compiler with
  | nil => rfl
  | cons piece rest ih =>
      cases piece with
      | literal d => simp [Compiler.tagPieces_literal, ih]
      | token t =>
          cases hconstraint : Compiler.constraint? constraints t <;>
            simp [tagPieces, hconstraint, ih]

theorem getLast?_block (p : Param) : p.block.getLast? = some ']' ∨ p.block.getLast? = some '?' := by
  cases h : p.optional <;> simp [Param.block, h, List.getLast?_cons, List.getLast?_append]

theorem text_tagPieces_ne_nil (constraints : Pairs String) {pieces : List Piece} (h : pieces ≠ [])
    (compiler : Compiler) : (tagPieces constraints pieces compiler).1.flatMap Part.text ≠ [] := by
  cases pieces with
  | nil => exact absurd rfl h
  | cons piece rest =>
      cases piece with
      | literal c => simp [Compiler.tagPieces_literal, Part.text]
      | token t =>
          obtain ⟨p, regex, next, -, htag, -⟩ := Compiler.tagPieces_token constraints t rest compiler
          simp [htag, Part.text, Param.block]

theorem getLast?_text_tagPieces (constraints : Pairs String) (pieces : List Piece)
    (compiler : Compiler) {d : Char}
    (h : ((tagPieces constraints pieces compiler).1.flatMap Part.text).getLast? = some d) :
    pieces.getLast? = some (.literal d) ∨ d = ']' ∨ d = '?' := by
  induction pieces generalizing compiler with
  | nil => simp [tagPieces] at h
  | cons piece rest ih =>
      have htail {compiler : Compiler} {first : List Char}
          (hfirst : first.getLast? = some d → rest = [] → (piece :: rest).getLast? =
            some (.literal d) ∨ d = ']' ∨ d = '?')
          (h : (first ++ (tagPieces constraints rest compiler).1.flatMap Part.text).getLast? =
            some d) :
          (piece :: rest).getLast? = some (.literal d) ∨ d = ']' ∨ d = '?' := by
        cases hlast : ((tagPieces constraints rest compiler).1.flatMap Part.text).getLast? with
        | none =>
            rw [List.getLast?_append, hlast, Option.none_or] at h
            refine hfirst h (by_contra fun hrest => ?_)
            exact text_tagPieces_ne_nil constraints hrest compiler (List.getLast?_eq_none_iff.mp hlast)
        | some e =>
            rw [List.getLast?_append, hlast, Option.some_or, Option.some.injEq] at h
            subst h
            refine (ih compiler hlast).imp_left fun hrest => ?_
            simp [List.getLast?_cons, hrest]
      cases piece with
      | literal c =>
          rw [Compiler.tagPieces_literal, List.flatMap_cons] at h
          refine htail (fun hc hrest => ?_) h
          simp only [Part.text, List.getLast?_singleton, Option.some.injEq] at hc
          exact .inl (by simp [hrest, hc])
      | token t =>
          obtain ⟨p, regex, next, -, htag, -⟩ := Compiler.tagPieces_token constraints t rest compiler
          rw [htag, List.flatMap_cons] at h
          refine htail (fun hc _ => .inr ?_) h
          rcases getLast?_block p with hlast | hlast
          · exact .inl (Option.some.inj (hc.symm.trans hlast))
          · exact .inr (Option.some.inj (hc.symm.trans hlast))

/-! ## Compiled texts -/

section

variable {template : String} (htrim : Path.IsTrimmed template.toList)
  (constraints : Pairs String) (compiler : Compiler)

include htrim

theorem trimRight_text :
    Path.trimRight ((tagPieces constraints (scan template.toList) compiler).1.flatMap Part.text) =
      (tagPieces constraints (scan template.toList) compiler).1.flatMap Part.text := by
  refine Path.trimRight_eq fun c hc => ?_
  rcases getLast?_text_tagPieces _ _ _ hc with hliteral | rfl | rfl
  · exact htrim.last c (getLast?_of_getLast?_scan hliteral)
  · rfl
  · rfl

theorem trimLeft_text :
    Path.trimLeft ((tagPieces constraints (scan template.toList) compiler).1.flatMap Part.text) =
      (tagPieces constraints (scan template.toList) compiler).1.flatMap Part.text := by
  refine Path.trimLeft_eq fun c hc => ?_
  rcases head?_text_tagPieces _ _ _ _ hc with hliteral | ⟨t, -, rfl⟩
  · exact htrim.head c (head?_of_head?_scan hliteral)
  · rfl

theorem toList_bare :
    (compiler.compile template constraints).1.bare.toList =
      (tagPieces constraints (scan template.toList) compiler).1.flatMap Part.text := by
  simp only [Compiler.compile, Compiled.bare, Path.removeTrailingSlash, String.toList_ofList,
    trimLeft_text htrim, trimRight_text htrim]

theorem toList_canonical :
    (compiler.compile template constraints).1.canonical.toList =
      (tagPieces constraints (canonicalPieces template.toList) compiler).1.flatMap Part.text := by
  have hbare := toList_bare htrim constraints compiler
  rw [Compiled.canonical, canonicalPieces]
  cases hscan : scan template.toList with
  | nil =>
      rw [hscan] at hbare
      have hempty : (compiler.compile template constraints).1.bare = "" :=
        String.toList_eq_nil_iff.mp hbare
      simp [hempty, scan_eq_nil.mp hscan, tagPieces]
  | cons piece rest =>
      have htemplate : template.toList.isEmpty = false := by
        cases htext : template.toList with
        | nil => simp [htext] at hscan
        | cons c s => rfl
      have hnonempty : (compiler.compile template constraints).1.bare.isEmpty = false := by
        rw [Bool.eq_false_iff, ne_eq, String.isEmpty_iff]
        rintro hempty
        rw [hempty, hscan] at hbare
        cases piece with
        | literal c => simp [Compiler.tagPieces_literal, Part.text] at hbare
        | token t =>
            obtain ⟨p, regex, next, -, htag, -⟩ :=
              Compiler.tagPieces_token constraints t rest compiler
            simp [htag, Part.text, Param.block] at hbare
      rw [htemplate, hnonempty, ← hscan]
      simp only [Bool.false_eq_true, if_false, String.toList_append, hbare,
        tagPieces_append_literal, List.flatMap_append]
      rfl

end

/-! ## Slots of both forms -/

theorem isReadable_canonicalPieces {s : List Char} (h : '[' ∉ s) :
    IsReadable (canonicalPieces s) := by
  rw [canonicalPieces]
  split
  · exact ⟨by simp, by simp⟩
  · refine (isReadable_scan h).append ⟨?_, by simp⟩
    rintro c hc
    simp only [List.mem_cons, Piece.literal.injEq, List.not_mem_nil, or_false] at hc
    rw [hc]
    decide

theorem binds_canonicalPieces {types constraints : Pairs String} {template : String}
    {compiler : Compiler}
    (h : Binds types (tagPieces constraints (scan template.toList) compiler).1) :
    Binds types (tagPieces constraints (canonicalPieces template.toList) compiler).1 := by
  rw [canonicalPieces]
  split
  · exact ⟨h.untagged, by simp [tagPieces]⟩
  · rw [tagPieces_append_literal]
    exact ⟨h.untagged, by simpa [List.filterMap_append, Part.binding?] using h.tagged⟩

theorem resolve?_bare {types constraints : Pairs String} {template : String}
    {compiler : Compiler} (htrim : Path.IsTrimmed template.toList) (hbracket : '[' ∉ template.toList)
    (hwrite : compiler.IsWritable)
    (hbinds : Binds types (tagPieces constraints (scan template.toList) compiler).1) :
    Slot.resolve? types (Pattern.scan (compiler.compile template constraints).1.bare.toList) =
      some (slots constraints (absorbMarks (scan template.toList))) := by
  rw [toList_bare htrim]
  exact resolves (isReadable_scan hbracket) compiler hwrite hbinds

theorem resolve?_canonical {types constraints : Pairs String} {template : String}
    {compiler : Compiler} (htrim : Path.IsTrimmed template.toList) (hbracket : '[' ∉ template.toList)
    (hwrite : compiler.IsWritable)
    (hbinds : Binds types (tagPieces constraints (scan template.toList) compiler).1) :
    Slot.resolve? types (Pattern.scan (compiler.compile template constraints).1.canonical.toList) =
      some (slots constraints (absorbMarks (canonicalPieces template.toList))) := by
  rw [toList_canonical htrim]
  exact resolves (isReadable_canonicalPieces hbracket) compiler hwrite
    (binds_canonicalPieces hbinds)

end HttpRouting.Template
