import HttpRouting.Proofs.Pairs
import HttpRouting.Proofs.Pattern.Brackets
import HttpRouting.Proofs.Template.Scan

/-!
# Tags

Compiling a template hands out tags with rising numbers, one for each token
with a constraint.  A tag is never handed out twice, so binding the tags of a
template keeps every type that an engine knows already.
-/

namespace HttpRouting.Template.Compiler

/-! ## Numbered tags -/

def tagNumbered (stem : String) (n : Nat) : String := stem ++ toString n

private theorem toDigits_injective {m n : Nat} (h : Nat.toDigits 10 m = Nat.toDigits 10 n) : m = n := by
  have hparsed := congrArg (fun digits => Nat.ofDigitChars 10 digits 0) h
  simpa using hparsed

theorem tagNumbered_injective {stem : String} {m n : Nat}
    (h : tagNumbered stem m = tagNumbered stem n) : m = n := by
  have hchars := congrArg String.toList h
  simp only [tagNumbered, String.toList_append, List.append_cancel_left_eq,
    Nat.toString_eq_repr, Nat.toList_repr] at hchars
  exact toDigits_injective hchars

/-- A compiler whose tags can stand in brackets. -/
def IsWritable (compiler : Compiler) : Prop :=
  ∀ c ∈ compiler.stem.toList, Pattern.isBlockChar c = true

theorem isWritable_default : ({} : Compiler).IsWritable := by
  have hall : "sp".toList.all Pattern.isBlockChar = true := by decide
  exact List.all_eq_true.mp hall

theorem isBlockChar_of_isNameChar {c : Char} (h : isNameChar c = true) :
    Pattern.isBlockChar c = true := by
  simp only [Pattern.isBlockChar, Bool.and_eq_true, bne_iff_ne]
  constructor <;> rintro rfl <;> simp [isNameChar] at h

theorem isBlockChar_of_mem_tag {compiler : Compiler} (h : compiler.IsWritable) {c : Char}
    (hc : c ∈ compiler.tag.toList) : Pattern.isBlockChar c = true := by
  simp only [tag, String.toList_append, List.mem_append, Nat.toString_eq_repr,
    Nat.toList_repr] at hc
  rcases hc with hstem | hdigit
  · exact h c hstem
  · have hd := Nat.isDigit_of_mem_toDigits (by omega) (by omega) hdigit
    refine isBlockChar_of_isNameChar ?_
    simp [isNameChar, Char.isAlphanum, hd]

/-! ## One token -/

def anySegment : String := "[^/]+"

def typeOf (constraints : Pairs String) (t : Token) : String :=
  (constraint? constraints t).getD anySegment

/-- The types that parts rely on are bound: those of the tags, and that of no tag. -/
structure Binds (types : Pairs String) (parts : List Part) : Prop where
  untagged : types.find? "" = some anySegment
  tagged : ∀ entry ∈ parts.filterMap Part.binding?, types.find? entry.1 = some entry.2

theorem Binds.tail {types : Pairs String} {part : Part} {parts : List Part}
    (h : Binds types (part :: parts)) : Binds types parts where
  untagged := h.untagged
  tagged := fun entry hentry => h.tagged entry (by
    rw [List.filterMap_cons]
    split <;> simp_all)

theorem Binds.find?_tag {types : Pairs String} {p : Param} {regex tag type : String}
    {parts : List Part} (h : Binds types (.param p regex :: parts))
    (htype : p.tag = none ∧ type = anySegment ∨ p.tag = some tag ∧ type = regex) :
    types.find? (p.tag.getD "") = some type := by
  rcases htype with ⟨htag, rfl⟩ | ⟨htag, rfl⟩
  · rw [htag]
    exact h.untagged
  · rw [htag]
    exact h.tagged (tag, type) (by simp [Part.binding?, htag])

theorem tagPieces_token (constraints : Pairs String) (t : Token) (rest : List Piece)
    (compiler : Compiler) :
    ∃ (p : Param) (regex : String) (next : Nat),
      compiler.next ≤ next ∧
      tagPieces constraints (.token t :: rest) compiler =
        (.param p regex :: (tagPieces constraints rest { compiler with next := next }).1,
          (tagPieces constraints rest { compiler with next := next }).2) ∧
      p.name = t.name ∧ p.optional = t.optional ∧
      (p.tag = none ∧ typeOf constraints t = anySegment ∨
        p.tag = some compiler.tag ∧ next = compiler.next + 1 ∧ typeOf constraints t = regex) := by
  cases hconstraint : constraint? constraints t with
  | none =>
      refine ⟨⟨t.name, t.optional, none⟩, "", compiler.next, Nat.le_refl _, ?_, rfl, rfl, ?_⟩
      · simp [tagPieces, hconstraint]
      · exact .inl ⟨rfl, by simp [typeOf, hconstraint]⟩
  | some regex =>
      refine ⟨⟨t.name, t.optional, some compiler.tag⟩, regex, compiler.next + 1,
        Nat.le_succ _, ?_, rfl, rfl, ?_⟩
      · simp [tagPieces, hconstraint]
      · exact .inr ⟨rfl, rfl, by simp [typeOf, hconstraint]⟩

theorem tagPieces_literal (constraints : Pairs String) (c : Char) (rest : List Piece)
    (compiler : Compiler) :
    tagPieces constraints (.literal c :: rest) compiler =
      (.literal c :: (tagPieces constraints rest compiler).1,
        (tagPieces constraints rest compiler).2) := rfl

/-! ## All tokens -/

theorem tagPieces_numbered (constraints : Pairs String) (pieces : List Piece) (compiler : Compiler) :
    ∃ count, ((tagPieces constraints pieces compiler).1.filterMap Part.binding?).map Prod.fst =
        (List.range' compiler.next count).map (tagNumbered compiler.stem) ∧
      (tagPieces constraints pieces compiler).2 =
        { compiler with next := compiler.next + count } := by
  induction pieces generalizing compiler with
  | nil => exact ⟨0, rfl, rfl⟩
  | cons piece rest ih =>
      cases piece with
      | literal c => exact ih compiler
      | token t =>
          cases hconstraint : constraint? constraints t with
          | none =>
              simp only [tagPieces, hconstraint]
              exact ih compiler
          | some regex =>
              obtain ⟨count, htags, hlast⟩ := ih { compiler with next := compiler.next + 1 }
              refine ⟨count + 1, ?_, ?_⟩
              · simp [tagPieces, hconstraint, Part.binding?, htags, List.range'_succ, tag,
                  tagNumbered]
              · simp [tagPieces, hconstraint, hlast, Nat.add_assoc, Nat.add_comm 1]

theorem tagPieces_stem (constraints : Pairs String) (pieces : List Piece) (compiler : Compiler) :
    (tagPieces constraints pieces compiler).2.stem = compiler.stem := by
  obtain ⟨count, -, hlast⟩ := tagPieces_numbered constraints pieces compiler
  rw [hlast]

theorem tagPieces_next_le (constraints : Pairs String) (pieces : List Piece)
    (compiler : Compiler) :
    compiler.next ≤ (tagPieces constraints pieces compiler).2.next := by
  obtain ⟨count, -, hlast⟩ := tagPieces_numbered constraints pieces compiler
  rw [hlast]
  exact Nat.le_add_right _ _

theorem mem_binding_tagPieces {constraints : Pairs String} {pieces : List Piece}
    {compiler : Compiler} {entry : String × String}
    (h : entry ∈ (tagPieces constraints pieces compiler).1.filterMap Part.binding?) :
    ∃ n, compiler.next ≤ n ∧ n < (tagPieces constraints pieces compiler).2.next ∧
      entry.1 = tagNumbered compiler.stem n := by
  obtain ⟨count, htags, hlast⟩ := tagPieces_numbered constraints pieces compiler
  have hmem := List.mem_map_of_mem (f := Prod.fst) h
  rw [htags] at hmem
  obtain ⟨n, hn, heq⟩ := List.mem_map.mp hmem
  rw [List.mem_range'_1] at hn
  exact ⟨n, hn.1, by rw [hlast]; exact hn.2, heq.symm⟩

theorem nodup_map_tagNumbered (stem : String) (first count : Nat) :
    ((List.range' first count).map (tagNumbered stem)).Nodup :=
  (List.nodup_range' 1).map fun _ _ => tagNumbered_injective

theorem nodup_binding_tagPieces (constraints : Pairs String) (pieces : List Piece)
    (compiler : Compiler) :
    (((tagPieces constraints pieces compiler).1.filterMap Part.binding?).map Prod.fst).Nodup := by
  obtain ⟨count, htags, -⟩ := tagPieces_numbered constraints pieces compiler
  rw [htags]
  exact nodup_map_tagNumbered compiler.stem compiler.next count

theorem constraint_of_param {constraints : Pairs String} {pieces : List Piece}
    {compiler : Compiler} {p : Param} {regex tag : String}
    (h : .param p regex ∈ (tagPieces constraints pieces compiler).1) (htag : p.tag = some tag) :
    constraints.find? p.name = some regex := by
  induction pieces generalizing compiler with
  | nil => simp [tagPieces] at h
  | cons piece rest ih =>
      cases piece with
      | literal c => exact ih (by simpa [tagPieces_literal] using h)
      | token t =>
          cases hconstraint : constraint? constraints t with
          | none =>
              simp only [tagPieces, hconstraint, List.mem_cons] at h
              rcases h with heq | h
              · obtain ⟨rfl, -⟩ := Part.param.inj heq
                simp at htag
              · exact ih h
          | some other =>
              simp only [tagPieces, hconstraint, List.mem_cons] at h
              rcases h with heq | h
              · obtain ⟨rfl, rfl⟩ := Part.param.inj heq
                exact (Option.filter_eq_some_iff.mp hconstraint).1
              · exact ih h

/-! ## Compiled templates -/

theorem map_fst_bindings (parts : List Part) :
    (parts.filterMap Part.binding?).map Prod.fst =
      (parts.filterMap Part.param?).filterMap Param.tag := by
  induction parts with
  | nil => rfl
  | cons part rest ih =>
      cases part with
      | literal c => exact ih
      | param p regex => cases htag : p.tag <;> simp [Part.binding?, Part.param?, htag, ih]

variable (compiler : Compiler) (template : String) (constraints : Pairs String)

theorem entries_types_compile :
    (compiler.compile template constraints).1.types.entries =
      (tagPieces constraints (scan template.toList) compiler).1.filterMap Part.binding? :=
  Pairs.ofList_entries (nodup_binding_tagPieces _ _ _)

theorem keys_types_compile :
    (compiler.compile template constraints).1.types.keys =
      (compiler.compile template constraints).1.tags := by
  rw [Pairs.keys, entries_types_compile]
  exact map_fst_bindings _

theorem tags_compile :
    (compiler.compile template constraints).1.tags =
        (List.range' compiler.next (compiler.compile template constraints).1.tags.length).map
          (tagNumbered compiler.stem) ∧
      (compiler.compile template constraints).2 = { compiler with
        next := compiler.next + (compiler.compile template constraints).1.tags.length } := by
  obtain ⟨count, htags, hlast⟩ := tagPieces_numbered constraints (scan template.toList) compiler
  rw [map_fst_bindings] at htags
  have hcompiled : (compiler.compile template constraints).1.tags =
      (List.range' compiler.next count).map (tagNumbered compiler.stem) := htags
  have hcount : (compiler.compile template constraints).1.tags.length = count := by
    simp [hcompiled]
  rw [hcount]
  exact ⟨hcompiled, hlast⟩

end HttpRouting.Template.Compiler
