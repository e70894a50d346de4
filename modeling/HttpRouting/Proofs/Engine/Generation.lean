import HttpRouting.Proofs.Engine.Matching

/-!
# What slots generate

Generating fills each hole with the text given for its parameter, and checks
the text against the expression of the hole alone.  With plain expressions this
succeeds exactly if the texts given spell the slots, so that what is generated
is what the compiled form of the slots matches.
-/

namespace HttpRouting.Engine

open Regex (Node)

/-! ## Plain expressions alone -/

theorem matchesAll_of_isPlain {e : Regex.Expression} (h : e.isPlain) (subject : List Char) :
    ∃ answer, e.matchesAll subject = .ok answer ∧ (answer = true ↔ subject ∈ e.node.language) := by
  simp only [Regex.Expression.isPlain, Bool.and_eq_true, beq_iff_eq] at h
  obtain ⟨⟨hflags, -⟩, hnode⟩ := h
  have hfull : e.fullMatch subject =
      .ok (e.node.run {} (.atStart subject) Regex.Expression.atEnd) := by
    rw [Regex.Expression.fullMatch, Node.needsTrail_of_isPlain hnode, hflags]
    rfl
  refine ⟨_, by rw [Regex.Expression.matchesAll, hfull]; rfl, fun hanswer => ?_, fun hword => ?_⟩
  · obtain ⟨last, hlast⟩ := Option.isSome_iff_exists.mp hanswer
    obtain ⟨word, hword, next, hpasses, hend⟩ := Node.isSound_run hnode _ _ last hlast
    have hempty : next.after = [] := by
      unfold Regex.Expression.atEnd at hend
      split at hend
      next hnext => simpa using hnext
      next => simp at hend
    have hsubject : subject = word := by
      have hafter := hpasses.after
      rwa [hempty, List.append_nil] at hafter
    rwa [hsubject]
  · exact Node.isComplete_run hnode (.atStart subject) _ subject [] hword
      (List.append_nil subject).symm fun next hnext => by simp [Regex.Expression.atEnd, hnext]

theorem accepts_iff {regex : String} (h : Regex.Expression.IsPlainText regex) {subject : List Char} :
    Regex.Expression.Accepts regex subject ↔ subject ∈ Slot.languageOf regex := by
  obtain ⟨e, hread, hplain, hlanguage⟩ := Slot.exists_plain_expression h
  obtain ⟨answer, hanswer, hiff⟩ := matchesAll_of_isPlain hplain subject
  rw [hlanguage, ← hiff]
  constructor
  · rintro ⟨other, hother, htrue⟩
    obtain rfl := Except.ok.inj (hread.symm.trans hother)
    exact Except.ok.inj (hanswer.symm.trans htrue)
  · rintro rfl
    exact ⟨e, hread, hanswer⟩

theorem matchesType_of_isPlain {regex : String} (h : Regex.Expression.IsPlainText regex)
    (value : String) :
    ∃ answer, matchesType regex value = .ok answer ∧
      (answer = true ↔ value.toList ∈ Slot.languageOf regex) := by
  obtain ⟨e, hread, hplain, hlanguage⟩ := Slot.exists_plain_expression h
  obtain ⟨answer, hanswer, hiff⟩ := matchesAll_of_isPlain hplain value.toList
  refine ⟨answer, ?_, by rw [hlanguage, hiff]⟩
  rw [matchesType, hread]
  simp only [Except.mapError, bind, Except.bind, hanswer]

/-! ## Texts for holes -/

namespace Slot

variable {texts : String → Option (List Char)}

def params : List Slot → List String
  | [] => []
  | .literal _ :: rest => params rest
  | .hole _ param _ _ :: rest => param :: params rest

def valuesOf (texts : String → Option (List Char)) : List Slot → List (Option (List Char))
  | [] => []
  | .literal _ :: rest => valuesOf texts rest
  | .hole _ param _ _ :: rest => texts param :: valuesOf texts rest

def fillHole (lead : Option Char) : Option (List Char) → List Char
  | some word => lead.toList ++ word
  | none => []

def fill (texts : String → Option (List Char)) : List Slot → List Char
  | [] => []
  | .literal c :: rest => c :: fill texts rest
  | .hole lead param _ _ :: rest => fillHole lead (texts param) ++ fill texts rest

def Admits (texts : String → Option (List Char)) : Slot → Prop
  | .literal _ => True
  | .hole _ param regex optional =>
      match texts param with
      | some word => word ∈ languageOf regex
      | none => optional = true

theorem spells_valuesOf_iff {slots : List Slot} {text : List Char} :
    Spells slots (valuesOf texts slots) text ↔
      (∀ slot ∈ slots, slot.Admits texts) ∧ text = fill texts slots := by
  induction slots generalizing text with
  | nil =>
      simp only [valuesOf, fill, List.not_mem_nil, false_implies, implies_true, true_and]
      exact ⟨fun h => by cases h; rfl, fun h => h ▸ .nil⟩
  | cons slot rest ih =>
      rw [List.forall_mem_cons]
      cases slot with
      | literal c =>
          simp only [valuesOf, fill, Admits, true_and]
          constructor
          · rintro (_ | ⟨h⟩)
            obtain ⟨hadmits, rfl⟩ := ih.mp h
            exact ⟨hadmits, rfl⟩
          · rintro ⟨hadmits, rfl⟩
            exact .literal (ih.mpr ⟨hadmits, rfl⟩)
      | hole lead param regex optional =>
          simp only [valuesOf, fill, Admits]
          cases texts param with
          | none =>
              constructor
              · rintro (_ | _ | _ | ⟨h⟩)
                obtain ⟨hadmits, rfl⟩ := ih.mp h
                exact ⟨⟨rfl, hadmits⟩, rfl⟩
              · rintro ⟨⟨rfl, hadmits⟩, rfl⟩
                exact .left (ih.mpr ⟨hadmits, rfl⟩)
          | some word =>
              constructor
              · rintro (_ | _ | ⟨hword, h⟩)
                obtain ⟨hadmits, rfl⟩ := ih.mp h
                exact ⟨⟨hword, hadmits⟩, rfl⟩
              · rintro ⟨⟨hword, hadmits⟩, rfl⟩
                exact .filled hword (ih.mpr ⟨hadmits, rfl⟩)

end Slot

open Slot

/-! ## Generating -/

def givenText? (params : Pairs Value) (param : String) : Option (List Char) :=
  (givenValue? params param).map fun value => value.plain.toList

theorem fillBlock_eq_ok_iff {types : Pairs String} {b : Pattern.Block} {regex : String}
    (hregex : types.find? b.type = some regex) (hplain : Regex.Expression.IsPlainText regex)
    (name : String) (params : Pairs Value) (text : List Char) :
    fillBlock types name params b = .ok text ↔
      (Slot.hole b.lead b.param regex b.optional).Admits (givenText? params) ∧
        text = fillHole b.lead (givenText? params b.param) := by
  rw [fillBlock, Admits, givenText?]
  cases givenValue? params b.param with
  | none => cases b.optional <;> simp [fillHole, eq_comm]
  | some value =>
      obtain ⟨answer, hanswer, hiff⟩ := matchesType_of_isPlain hplain value.plain
      simp only [Option.map_some, hregex, hanswer, bind, Except.bind, ← hiff, fillHole]
      cases answer <;> simp [pure, Except.pure, throw, throwThe, MonadExceptOf.throw, eq_comm]

section

variable {types : Pairs String} {name : String} {params : Pairs Value} {rest : List Pattern.Piece}
  {text : List Char}

theorem fillPieces_literal_eq_ok_iff {c : Char} :
    fillPieces types name params (.literal c :: rest) = .ok text ↔
      ∃ filled, fillPieces types name params rest = .ok filled ∧ text = c :: filled := by
  rw [fillPieces]
  cases fillPieces types name params rest with
  | error error => simp [Except.map]
  | ok filled => simp [Except.map, eq_comm]

theorem fillPieces_block_eq_ok_iff {b : Pattern.Block} :
    fillPieces types name params (.block b :: rest) = .ok text ↔
      ∃ word filled, fillBlock types name params b = .ok word ∧
        fillPieces types name params rest = .ok filled ∧ text = word ++ filled := by
  rw [fillPieces]
  cases fillBlock types name params b with
  | error error => simp [bind, Except.bind]
  | ok word =>
      cases fillPieces types name params rest with
      | error error => simp [bind, Except.bind]
      | ok filled => simp [bind, Except.bind, pure, Except.pure, eq_comm]

end

theorem fillPieces_eq_ok_iff {types : Pairs String} {pieces : List Pattern.Piece}
    {slots : List Slot} (hslots : resolve? types pieces = some slots)
    (hplain : ∀ regex ∈ regexes slots, Regex.Expression.IsPlainText regex) (name : String)
    (params : Pairs Value) (text : List Char) :
    fillPieces types name params pieces = .ok text ↔
      Spells slots (valuesOf (givenText? params) slots) text := by
  rw [spells_valuesOf_iff]
  induction pieces generalizing slots text with
  | nil =>
      obtain rfl := Option.some.inj hslots
      simp [fillPieces, fill, eq_comm]
  | cons piece rest ih =>
      cases piece with
      | literal c =>
          obtain ⟨more, hmore, rfl⟩ := Option.map_eq_some_iff.mp hslots
          rw [fillPieces_literal_eq_ok_iff, List.forall_mem_cons, fill]
          simp only [ih hmore hplain, Admits, true_and]
          constructor
          · rintro ⟨_, ⟨hadmits, rfl⟩, rfl⟩
            exact ⟨hadmits, rfl⟩
          · rintro ⟨hadmits, rfl⟩
            exact ⟨_, ⟨hadmits, rfl⟩, rfl⟩
      | block b =>
          obtain ⟨regex, hregex, h⟩ := Option.bind_eq_some_iff.mp hslots
          obtain ⟨more, hmore, rfl⟩ := Option.map_eq_some_iff.mp h
          have hrest := ih hmore fun other hother => hplain other (by
            simp only [regexes, List.filterMap_cons, List.mem_cons] at hother ⊢
            exact .inr hother)
          rw [fillPieces_block_eq_ok_iff, List.forall_mem_cons, fill]
          simp only [fillBlock_eq_ok_iff hregex (hplain regex (by simp [regexes])), hrest]
          constructor
          · rintro ⟨_, _, ⟨hadmits, rfl⟩, ⟨hmoreAdmits, rfl⟩, rfl⟩
            exact ⟨⟨hadmits, hmoreAdmits⟩, rfl⟩
          · rintro ⟨⟨hadmits, hmoreAdmits⟩, rfl⟩
            exact ⟨_, _, ⟨hadmits, rfl⟩, ⟨hmoreAdmits, rfl⟩, rfl⟩

/-! ## Captured texts -/

namespace Slot

theorem text_of_mem_captured {texts : String → Option (List Char)} {slots : List Slot}
    {entry : String × String} (h : entry ∈ captured slots (valuesOf texts slots)) :
    entry.1 ∈ params slots ∧ texts entry.1 = some entry.2.toList := by
  induction slots with
  | nil => simp [captured] at h
  | cons slot rest ih =>
      cases slot with
      | literal c => exact ih h
      | hole lead param regex optional =>
          rw [params, List.mem_cons]
          rw [valuesOf] at h
          cases htext : texts param with
          | none =>
              rw [htext] at h
              exact ⟨.inr (ih h).1, (ih h).2⟩
          | some word =>
              rw [htext] at h
              rcases List.mem_cons.mp h with rfl | h
              · exact ⟨.inl rfl, by rw [htext, String.toList_ofList]⟩
              · exact ⟨.inr (ih h).1, (ih h).2⟩

theorem mem_captured_of_text {texts : String → Option (List Char)} {slots : List Slot}
    {param : String} {word : List Char} (hparam : param ∈ params slots)
    (htext : texts param = some word) :
    (param, String.ofList word) ∈ captured slots (valuesOf texts slots) := by
  induction slots with
  | nil => simp [params] at hparam
  | cons slot rest ih =>
      cases slot with
      | literal c => exact ih hparam
      | hole lead other regex optional =>
          rw [valuesOf]
          rcases List.mem_cons.mp hparam with rfl | hparam
          · rw [htext]
            exact List.mem_cons_self
          · cases texts other with
            | none => exact ih hparam
            | some _ => exact List.mem_cons_of_mem _ (ih hparam)

theorem find?_captured (texts : String → Option (List Char)) (slots : List Slot) (key : String) :
    (Pairs.ofList (captured slots (valuesOf texts slots))).find? key =
      if key ∈ params slots then (texts key).map String.ofList else none := by
  rw [Pairs.find?_ofList]
  cases hfound : Pairs.valueOf? key (captured slots (valuesOf texts slots)).reverse with
  | some value =>
      have hmem := List.mem_reverse.mp (Pairs.mem_of_valueOf? hfound)
      obtain ⟨hparam, htext⟩ := text_of_mem_captured hmem
      simp only at hparam htext
      rw [if_pos hparam, htext, Option.map_some, String.ofList_toList]
  | none =>
      split
      next hparam =>
        cases htext : texts key with
        | none => rfl
        | some word =>
            have hmem := List.mem_reverse.mpr (mem_captured_of_text hparam htext)
            exact absurd hfound (Pairs.valueOf?_ne_none_of_mem hmem)
      next => rfl

theorem mem_params_of_captured {slots : List Slot} {values : List (Option (List Char))}
    {entry : String × String} (h : entry ∈ captured slots values) : entry.1 ∈ params slots := by
  fun_induction captured slots values with
  | case1 c rest values ih => exact ih h
  | case2 lead param regex optional rest word values ih =>
      rcases List.mem_cons.mp h with rfl | h
      · exact List.mem_cons_self
      · exact List.mem_cons_of_mem _ (ih h)
  | case3 lead param regex optional rest values ih => exact List.mem_cons_of_mem _ (ih h)
  | case4 => simp at h

theorem nodup_captured {slots : List Slot} (h : (params slots).Nodup)
    (values : List (Option (List Char))) : ((captured slots values).map Prod.fst).Nodup := by
  fun_induction captured slots values with
  | case1 c rest values ih => exact ih h
  | case2 lead param regex optional rest word values ih =>
      rw [params, List.nodup_cons] at h
      rw [List.map_cons, List.nodup_cons]
      refine ⟨fun hmem => h.1 ?_, ih h.2⟩
      obtain ⟨entry, hentry, rfl⟩ := List.mem_map.mp hmem
      exact mem_params_of_captured hentry
  | case3 lead param regex optional rest values ih =>
      rw [params, List.nodup_cons] at h
      exact ih h.2
  | case4 => simp

theorem Spells.valuesOf_captured {slots : List Slot} {values : List (Option (List Char))}
    {text : List Char} (h : Spells slots values text) (hnodup : (params slots).Nodup)
    {texts : String → Option (List Char)}
    (hcaptured : ∀ entry ∈ captured slots values, texts entry.1 = some entry.2.toList)
    (hothers : ∀ param ∈ params slots, (∀ entry ∈ captured slots values, entry.1 ≠ param) →
      texts param = none) : valuesOf texts slots = values := by
  induction h with
  | nil => rfl
  | literal _ ih => exact ih hnodup hcaptured hothers
  | @filled lead param regex optional rest values word text hword hrest ih =>
      rw [params, List.nodup_cons] at hnodup
      rw [captured, List.forall_mem_cons] at hcaptured
      rw [valuesOf, hcaptured.1, String.toList_ofList,
        ih hnodup.2 hcaptured.2 fun other hother hnone => ?_]
      refine hothers other (List.mem_cons_of_mem _ hother) fun entry hentry => ?_
      rcases List.mem_cons.mp hentry with rfl | hentry
      · rintro rfl
        exact hnodup.1 hother
      · exact hnone entry hentry
  | @left lead param regex rest values text hrest ih =>
      rw [params, List.nodup_cons] at hnodup
      have hnone : texts param = none := by
        refine hothers param List.mem_cons_self fun entry hentry heq => hnodup.1 ?_
        rw [← heq]
        exact mem_params_of_captured hentry
      rw [valuesOf, hnone, ih hnodup.2 hcaptured fun other hother =>
        hothers other (List.mem_cons_of_mem _ hother)]

theorem Spells.valuesOf_find? {slots : List Slot} {values : List (Option (List Char))}
    {text : List Char} (h : Spells slots values text) (hnodup : (params slots).Nodup) :
    valuesOf (fun key => ((Pairs.ofList (captured slots values)).find? key).map String.toList) slots =
      values := by
  refine h.valuesOf_captured hnodup (fun entry hentry => ?_) fun param _ hnone => ?_
  · rw [Pairs.find?_ofList_of_mem (nodup_captured hnodup values) hentry, Option.map_some]
  · rw [Pairs.find?_ofList_eq_none hnone, Option.map_none]

theorem Spells.fill_captured {slots : List Slot} {values : List (Option (List Char))}
    {text : List Char} (h : Spells slots values text) (hnodup : (params slots).Nodup) :
    let p := Pairs.ofList (captured slots values)
    let texts := fun key => (p.find? key).map String.toList
    (∀ slot ∈ slots, slot.Admits texts) ∧ text = fill texts slots ∧
      ∀ entry ∈ p.entries, entry.1 ∈ params slots ∧ texts entry.1 = some entry.2.toList := by
  intro p texts
  have hvalues : valuesOf texts slots = values := h.valuesOf_find? hnodup
  rw [← hvalues] at h
  obtain ⟨hadmits, htext⟩ := spells_valuesOf_iff.mp h
  refine ⟨hadmits, htext, fun entry hentry => ?_⟩
  rw [Pairs.ofList_entries (nodup_captured hnodup values), ← hvalues] at hentry
  exact text_of_mem_captured hentry

end Slot

theorem givenText?_map_text (p : Pairs String) :
    givenText? (p.map .text) = fun key => (p.find? key).map String.toList := by
  funext key
  have hfind : (p.map Value.text).find? key = (p.find? key).map Value.text := Pairs.find?_map ..
  rw [givenText?, givenValue?, hfind]
  cases p.find? key <;> rfl

end HttpRouting.Engine
