import HttpRouting.Proofs.Engine.Answering
import HttpRouting.Proofs.Regex.Reading.Origin
import Mathlib.Data.List.Chain

/-!
# Entries that fail

An entry fails on a text when a group of its match ends before it begins, or
when a group that took part in the match belongs to no block.  The expression of
a pattern is the engine's own but for the expressions of its types, so both come
from one of these: it names a group, or a plus follows a mark of repetition in it.
-/

namespace HttpRouting

open Regex (HasPossessiveMark groupOpening quoteMeta repetitionMarks)
open Regex.Reader (namedGroup)

/-! ## Openings in longer texts -/

theorem Text.not_mem_of_isIdentifier {name : List Char} (h : isIdentifier name = true) {c : Char}
    (hc : c ∈ ['(', ')', '>', '+']) : c ∉ name := by
  have hnone : ['(', ')', '>', '+'].all (fun c => !isIdentifierStart c && !isIdentifierRest c) = true := by
    decide +kernel
  have hnot := List.all_eq_true.mp hnone c hc
  rw [Bool.and_eq_true, Bool.not_eq_true', Bool.not_eq_true'] at hnot
  obtain ⟨hstart, hrest⟩ := hnot
  cases name with
  | nil => simp
  | cons d name =>
      rw [isIdentifier, Bool.and_eq_true, List.all_eq_true] at h
      rintro hmem
      rcases List.mem_cons.mp hmem with rfl | hmem
      · simp [hstart] at h
      · simp [h.2 c hmem] at hrest

section

variable {word before after : List Char} {c : Char}

theorem infix_of_infix_append (hbefore : c ∉ before) (h : c :: word <:+: before ++ after) :
    c :: word <:+: after := by
  induction before with
  | nil => exact h
  | cons d before ih =>
      rw [List.mem_cons, not_or] at hbefore
      rcases List.infix_cons_iff.mp h with hfront | hfound
      · exact absurd (List.cons_prefix_cons.mp hfront).1 hbefore.1
      · exact ih hbefore.2 hfound

theorem infix_or_infix_of_not_mem (hc : c ∉ word) (h : word <:+: before ++ c :: after) :
    word <:+: before ∨ word <:+: after := by
  rcases List.infix_append_iff_ne_nil.mp h with hbefore | hafter | ⟨x, y, -, hy, rfl, -, hfront⟩
  · exact .inl hbefore
  · rcases List.infix_cons_iff.mp hafter with hfront | hafter
    · cases word with
      | nil => exact .inl List.nil_infix
      | cons d word =>
          obtain ⟨rfl, -⟩ := List.cons_prefix_cons.mp hfront
          exact absurd List.mem_cons_self hc
    · exact .inr hafter
  · cases y with
    | nil => exact absurd rfl hy
    | cons d y =>
        obtain ⟨rfl, -⟩ := List.cons_prefix_cons.mp hfront
        exact absurd (List.mem_append_right _ List.mem_cons_self) hc

end

namespace Regex

variable {name before more : List Char}

theorem groupOpening_append (hbefore : '(' ∉ before) (h : groupOpening name <:+: before ++ more) :
    groupOpening name <:+: more :=
  infix_of_infix_append hbefore h

theorem groupOpening_cons (h : groupOpening name <:+: '(' :: more) :
    '?' :: 'P' :: '<' :: (name ++ ['>']) <+: more ∨ groupOpening name <:+: more :=
  (List.infix_cons_iff.mp h).imp_left fun hfront => (List.cons_prefix_cons.mp hfront).2

section

variable (hname : Text.isIdentifier name = true)

include hname

theorem close_not_mem_groupOpening : ')' ∉ groupOpening name := by
  have := Text.not_mem_of_isIdentifier hname (c := ')') (by simp)
  simp [groupOpening, this]

theorem groupOpening_namedGroup {own regex : List Char} (hown : Text.isIdentifier own = true)
    (h : groupOpening name <:+: namedGroup own regex ++ more) :
    name = own ∨ groupOpening name <:+: regex ∨ groupOpening name <:+: more := by
  have hgroup : namedGroup own regex ++ more =
      '(' :: ('?' :: 'P' :: '<' :: (own ++ ['>']) ++ '(' :: (['?', ':'] ++
        (regex ++ ')' :: ([')'] ++ more)))) := by
    simp [namedGroup]
  have hopen : '(' ∉ '?' :: 'P' :: '<' :: (own ++ ['>']) := by
    simp [Text.not_mem_of_isIdentifier hown (c := '(') (by simp)]
  have hends {word : List Char} (hword : Text.isIdentifier word = true) (behind : List Char) :
      (word ++ '>' :: behind).takeWhile (· != '>') = word := by
    have hmember : ∀ c ∈ word, (c != '>') = true := by
      intro c hc
      rw [bne_iff_ne]
      rintro rfl
      exact Text.not_mem_of_isIdentifier hword (by simp) hc
    rw [List.takeWhile_append_of_pos hmember]
    simp
  rw [hgroup] at h
  rcases groupOpening_cons h with hfront | h
  · simp only [List.cons_append, List.cons_prefix_cons, true_and] at hfront
    obtain ⟨rest, hrest⟩ := hfront
    have hsame := congrArg (List.takeWhile (· != '>')) hrest
    simp only [List.append_assoc, List.singleton_append, hends hname, hends hown] at hsame
    exact .inl hsame
  · rcases groupOpening_cons (groupOpening_append hopen h) with hfront | h
    · simp at hfront
    · have hregex := groupOpening_append (by simp) h
      refine .inr ((infix_or_infix_of_not_mem (close_not_mem_groupOpening hname) hregex).imp_right ?_)
      exact groupOpening_append (by simp)

end

end Regex

open Regex (groupOpening_append groupOpening_cons)

namespace Engine.Slot

variable {name : List Char} {index : Nat} {slots : List Slot}

theorem groupOpening_quoteMeta {c : Char} {more : List Char} (hmore : more.head? ≠ some '?')
    (h : groupOpening name <:+: quoteMeta [c] ++ more) : groupOpening name <:+: more := by
  by_cases hc : c = '('
  · have hquoted : quoteMeta [c] ++ more = ['\\'] ++ '(' :: more := by
      rw [hc]
      rfl
    rw [hquoted] at h
    refine (groupOpening_cons (groupOpening_append (by simp) h)).resolve_left fun hfront => ?_
    cases more with
    | nil => simp at hfront
    | cons d more =>
        obtain ⟨rfl, -⟩ := List.cons_prefix_cons.mp hfront
        simp at hmore
  · refine groupOpening_append ?_ h
    cases hmeta : Regex.isMeta c <;> simp [quoteMeta, hmeta, Ne.symm hc]

theorem groupOpening_blockRegex (hname : Text.isIdentifier name = true) {block : Pattern.Block}
    {regex : String} {more : List Char}
    (h : groupOpening name <:+: blockRegex block index regex ++ more) :
    name = (groupName index).toList ∨ groupOpening name <:+: regex.toList ∨
      groupOpening name <:+: more := by
  obtain ⟨lead, type, param, optional⟩ := block
  have hgroup {behind : List Char} (h : groupOpening name <:+:
      quoteMeta lead.toList ++ (namedGroup (groupName index).toList regex.toList ++ behind)) :
      name = (groupName index).toList ∨ groupOpening name <:+: regex.toList ∨
        groupOpening name <:+: behind := by
    refine Regex.groupOpening_namedGroup hname (isIdentifier_groupName index) ?_
    cases lead with
    | none => exact h
    | some c => exact groupOpening_quoteMeta (by simp [namedGroup]) h
  rw [blockRegex_eq] at h
  split at h
  next =>
    have hoption : "(?:".toList ++ (quoteMeta lead.toList ++
        namedGroup (groupName index).toList regex.toList) ++ ")?".toList ++ more =
        '(' :: (['?', ':'] ++ (quoteMeta lead.toList ++
          (namedGroup (groupName index).toList regex.toList ++ ([')', '?'] ++ more)))) := by
      simp
    rw [hoption] at h
    have hinner := groupOpening_append (by simp) ((groupOpening_cons h).resolve_left (by simp))
    exact (hgroup hinner).imp_right (Or.imp_right (groupOpening_append (by simp)))
  next => exact hgroup (by simpa using h)

theorem groupOpening_regexFrom (hname : Text.isIdentifier name = true)
    (h : groupOpening name <:+: regexFrom index slots) :
    (∃ param, (String.ofList name, param) ∈ groupsFrom index slots) ∨
      ∃ regex ∈ regexes slots, groupOpening name <:+: regex.toList := by
  induction slots generalizing index with
  | nil => simp [regexFrom, groupOpening] at h
  | cons slot rest ih =>
      cases slot with
      | literal c => exact ih (groupOpening_quoteMeta (beginsWell_regexFrom index rest).2.1 h)
      | hole lead param regex optional =>
          rcases groupOpening_blockRegex hname h with rfl | hregex | hrest
          · exact .inl ⟨param, by rw [String.ofList_toList]; exact List.mem_cons_self⟩
          · exact .inr ⟨regex, List.mem_cons_self, hregex⟩
          · rcases ih hrest with ⟨other, hother⟩ | ⟨other, hother, hfound⟩
            · exact .inl ⟨other, List.mem_cons_of_mem _ hother⟩
            · exact .inr ⟨other, List.mem_cons_of_mem _ hother, hfound⟩

/-! ## Possessive marks in longer texts -/

def IsCalm (text : List Char) : Prop := text.IsChain fun c d => c ∈ repetitionMarks → d ≠ '+'

theorem isCalm_iff {text : List Char} : IsCalm text ↔ ¬ HasPossessiveMark text := by
  rw [IsCalm, List.isChain_iff_forall_rel_of_append_cons_cons]
  constructor
  · rintro h ⟨mark, hmark, before, after, rfl⟩
    exact @h mark '+' before after (by simp) hmark rfl
  · rintro h c d before after rfl hmark rfl
    exact h ⟨c, hmark, before, after, by simp⟩

theorem isCalm_of_not_mem {text : List Char} (h : '+' ∉ text) : IsCalm text := by
  rw [isCalm_iff]
  rintro ⟨mark, -, hfound⟩
  exact h (hfound.subset (by simp))

theorem IsCalm.append {first second : List Char} (hfirst : IsCalm first) (hsecond : IsCalm second)
    (hborder : second.head? ≠ some '+' ∨ ∀ c ∈ first.getLast?, c ∉ repetitionMarks) :
    IsCalm (first ++ second) := by
  refine List.isChain_append.mpr ⟨hfirst, hsecond, fun c hc d hd hmark => ?_⟩
  rcases hborder with hhead | hlast
  · rintro rfl
    exact hhead hd
  · exact absurd hmark (hlast c hc)

theorem isCalm_quoteMeta (c : Char) : IsCalm (quoteMeta [c]) := by
  cases hc : Regex.isMeta c with
  | false => simp [IsCalm, quoteMeta, hc]
  | true =>
      have hmark : '\\' ∉ repetitionMarks := by decide
      simp [IsCalm, quoteMeta, hc, hmark]

theorem isCalm_namedGroup (index : Nat) {regex : List Char} (h : IsCalm regex) :
    IsCalm (namedGroup (groupName index).toList regex) := by
  have hopening : IsCalm ("(?P<".toList ++ (groupName index).toList ++ ">(?:".toList) := by
    have hname := Text.not_mem_of_isIdentifier (isIdentifier_groupName index) (c := '+') (by simp)
    exact isCalm_of_not_mem (by simp [hname])
  have hclosing : IsCalm "))".toList := isCalm_of_not_mem (by simp)
  have hcolon : ("(?P<".toList ++ (groupName index).toList ++ ">(?:".toList).getLast? = some ':' := by
    rw [List.getLast?_append]
    rfl
  refine (hopening.append h (.inr ?_)).append hclosing (.inl (by simp))
  rw [hcolon]
  simp [repetitionMarks]

theorem isCalm_blockRegex (block : Pattern.Block) (index : Nat) {regex : String}
    (h : IsCalm regex.toList) : IsCalm (blockRegex block index regex) := by
  obtain ⟨lead, type, param, optional⟩ := block
  have hgroup : IsCalm (quoteMeta lead.toList ++
      namedGroup (groupName index).toList regex.toList) := by
    cases lead with
    | none => exact isCalm_namedGroup index h
    | some c =>
        exact (isCalm_quoteMeta c).append (isCalm_namedGroup index h) (.inl (by simp [namedGroup]))
  rw [blockRegex_eq]
  split
  next =>
    refine IsCalm.append (.append ?_ hgroup ?_) ?_ ?_
    · exact isCalm_of_not_mem (by simp)
    · exact .inr (by simp [repetitionMarks])
    · exact isCalm_of_not_mem (by simp)
    · exact .inl (by simp)
  next => exact hgroup

theorem isCalm_regexFrom (h : ∀ regex ∈ regexes slots, IsCalm regex.toList) :
    IsCalm (regexFrom index slots) := by
  induction slots generalizing index with
  | nil => simp [IsCalm, regexFrom]
  | cons slot rest ih =>
      cases slot with
      | literal c =>
          exact (isCalm_quoteMeta c).append (ih h) (.inl (beginsWell_regexFrom index rest).2.2)
      | hole lead param regex optional =>
          obtain ⟨hregex, hrest⟩ := List.forall_mem_cons.mp h
          exact (isCalm_blockRegex _ index hregex).append (ih hrest)
            (.inl (beginsWell_regexFrom (index + 1) rest).2.2)

theorem hasPossessiveMark_regexFrom (h : HasPossessiveMark (regexFrom index slots)) :
    ∃ regex ∈ regexes slots, HasPossessiveMark regex.toList := by
  by_contra hnone
  push Not at hnone
  exact isCalm_iff.mp (isCalm_regexFrom fun regex hregex => isCalm_iff.mpr (hnone regex hregex)) h

/-! ## Compiled patterns -/

variable {pattern : String} {compiled : CompiledPattern}

theorem exists_expression_of_compile (h : Slot.compile pattern slots = .ok compiled) :
    Regex.Expression.read (regexFrom 0 slots) = .ok compiled.expression ∧
      compiled.params = .ofList (groupsFrom 0 slots) := by
  unfold Slot.compile at h
  cases hread : Regex.Expression.read (regexFrom 0 slots) with
  | error error => simp [hread, Except.mapError, bind, Except.bind] at h
  | ok expression =>
      simp only [hread, Except.mapError, bind, Except.bind, pure, Except.pure, Except.ok.injEq] at h
      subst h
      exact ⟨rfl, rfl⟩

theorem groupOpening_of_compile (h : Slot.compile pattern slots = .ok compiled) {group : String}
    {index : Nat} (hgroup : (group, index) ∈ compiled.expression.names)
    (hforeign : compiled.params.find? group = none) :
    ∃ regex ∈ regexes slots, groupOpening group.toList <:+: regex.toList := by
  obtain ⟨hread, hparams⟩ := exists_expression_of_compile h
  obtain ⟨hname, hopening⟩ := Regex.Expression.groupOpening_of_read hread hgroup
  refine (groupOpening_regexFrom hname hopening).resolve_left ?_
  rintro ⟨param, hparam⟩
  rw [String.ofList_toList] at hparam
  rw [hparams, Pairs.find?_ofList_of_mem (nodup_groupsFrom 0 slots) hparam] at hforeign
  simp at hforeign

theorem hasPossessiveMark_of_compile (h : Slot.compile pattern slots = .ok compiled)
    (htrail : compiled.expression.node.needsTrail = true) :
    ∃ regex ∈ regexes slots, HasPossessiveMark regex.toList :=
  hasPossessiveMark_regexFrom
    (Regex.Expression.hasPossessiveMark_of_read (exists_expression_of_compile h).1 htrail)

end Engine.Slot

namespace Engine

/-! ## Entries that fail -/

def CompiledPattern.foreign? (compiled : CompiledPattern) (cursor : Regex.Cursor) : Option String :=
  ((compiled.expression.captures cursor).find? fun capture =>
    (compiled.params.find? capture.1).isNone).map Prod.fst

theorem mapM_paramOf_cases (params : Pairs String) (captures : List (String × List Char)) :
    (∃ bound, captures.mapM (paramOf params) = .ok bound ∧
      captures.find? (fun capture => (params.find? capture.1).isNone) = none) ∨
    ∃ capture, captures.mapM (paramOf params) = .error (.foreignGroup capture.1) ∧
      captures.find? (fun capture => (params.find? capture.1).isNone) = some capture := by
  induction captures with
  | nil => exact .inl ⟨[], rfl, rfl⟩
  | cons capture rest ih =>
      rw [List.mapM_cons, List.find?_cons]
      cases hparam : params.find? capture.1 with
      | none => exact .inr ⟨capture, by simp only [paramOf, hparam]; rfl, rfl⟩
      | some param =>
          rcases ih with ⟨bound, hbound, hnone⟩ | ⟨other, herror, hother⟩
          · exact .inl ⟨_, by simp only [paramOf, hparam, hbound]; rfl, hnone⟩
          · exact .inr ⟨other, by simp only [paramOf, hparam, herror]; rfl, hother⟩

namespace Entry

variable {α : Type} {entry : Entry α} {method : String} {rest : List Char} {error : EngineError}

/-- A group of the match ends before it begins, or one that took part in it belongs to no block. -/
inductive Fails (entry : Entry α) (method : String) (rest : List Char) : EngineError → Prop
  | crosses : entry.methods.contains method = true →
      entry.compiled.expression.fullMatch rest = .error .crossedGroup →
      Fails entry method rest (.regex .crossedGroup)
  | foreign {cursor : Regex.Cursor} {group : String} : entry.methods.contains method = true →
      entry.compiled.expression.fullMatch rest = .ok (some cursor) →
      entry.compiled.foreign? cursor = some group → Fails entry method rest (.foreignGroup group)

theorem fits?_cases (entry : Entry α) (method : String) (rest : List Char) :
    entry.fits? method rest = .ok none ∨
      (∃ cursor hit, entry.fits? method rest = .ok (some cursor) ∧ entry.hit cursor = .ok hit) ∨
      ∃ error, entry.Fails method rest error := by
  by_cases hmethod : entry.methods.contains method = true
  · rw [fits?, if_pos hmethod]
    cases hmatch : entry.compiled.expression.fullMatch rest with
    | error error =>
        obtain ⟨rfl, -⟩ := Regex.Expression.fullMatch_error hmatch
        exact .inr (.inr ⟨_, .crosses hmethod hmatch⟩)
    | ok answer =>
        cases answer with
        | none => exact .inl rfl
        | some cursor =>
            rcases mapM_paramOf_cases entry.compiled.params
              (entry.compiled.expression.captures cursor) with ⟨bound, hbound, -⟩ | ⟨capture, -, hforeign⟩
            · exact .inr (.inl ⟨cursor, _, rfl, by rw [hit, hbound]; rfl⟩)
            · refine .inr (.inr ⟨.foreignGroup capture.1, .foreign hmethod hmatch ?_⟩)
              rw [CompiledPattern.foreign?, hforeign, Option.map_some]
  · exact .inl (if_neg hmethod)

theorem Fails.firstHit_cons (h : entry.Fails method rest error) (entries : List (Entry α)) :
    firstHit method rest (entry :: entries) = .error error := by
  cases h with
  | crosses hmethod hmatch =>
      rw [firstHit, fits?, if_pos hmethod, hmatch]
      rfl
  | @foreign cursor group hmethod hmatch hforeign =>
      obtain ⟨capture, hcapture, rfl⟩ := Option.map_eq_some_iff.mp hforeign
      have hfits : entry.fits? method rest = .ok (some cursor) := by
        rw [fits?, if_pos hmethod, hmatch]
        rfl
      rw [firstHit_cons_of_fits hfits, hit]
      rcases mapM_paramOf_cases entry.compiled.params (entry.compiled.expression.captures cursor) with
        ⟨bound, -, hnone⟩ | ⟨other, hother, hfound⟩
      · rw [hnone] at hcapture
        simp at hcapture
      · obtain rfl := Option.some.inj (hfound.symm.trans hcapture)
        rw [hother]
        rfl

end Entry

/-! ## Lookups that fail -/

variable {α : Type} {method : String} {rest : List Char} {entries : List (Entry α)}
  {error : EngineError}

/-- The first entry that does not pass over a text fails on it. -/
inductive FirstFails (method : String) (rest : List Char) (error : EngineError) :
    List (Entry α) → Prop
  | here {entry : Entry α} {entries : List (Entry α)} : entry.Fails method rest error →
      FirstFails method rest error (entry :: entries)
  | later {entry : Entry α} {entries : List (Entry α)} : entry.fits? method rest = .ok none →
      FirstFails method rest error entries → FirstFails method rest error (entry :: entries)

theorem FirstFails.exists_entry (h : FirstFails method rest error entries) :
    ∃ entry ∈ entries, entry.Fails method rest error := by
  induction h with
  | here hfails => exact ⟨_, List.mem_cons_self, hfails⟩
  | later _ _ ih =>
      obtain ⟨entry, hentry, hfails⟩ := ih
      exact ⟨entry, List.mem_cons_of_mem _ hentry, hfails⟩

theorem firstHit_of_firstFails (h : FirstFails method rest error entries) :
    firstHit method rest entries = .error error := by
  induction h with
  | here hfails => exact hfails.firstHit_cons _
  | later hnone _ ih =>
      rw [firstHit, hnone]
      exact ih

theorem firstHit_cases (method : String) (rest : List Char) (entries : List (Entry α)) :
    (∃ answer, firstHit method rest entries = .ok answer) ∨
      ∃ error, FirstFails method rest error entries := by
  induction entries with
  | nil => exact .inl ⟨none, rfl⟩
  | cons entry entries ih =>
      rcases entry.fits?_cases method rest with hnone | ⟨cursor, hit, hfits, hhit⟩ | ⟨error, hfails⟩
      · rcases ih with ⟨answer, hanswer⟩ | ⟨error, hfails⟩
        · refine .inl ⟨answer, ?_⟩
          rw [firstHit, hnone]
          exact hanswer
        · exact .inr ⟨error, .later hnone hfails⟩
      · refine .inl ⟨some hit, ?_⟩
        rw [firstHit_cons_of_fits hfits, hhit]
        rfl
      · exact .inr ⟨error, .here hfails⟩

/-- What a failing entry of a sound engine fails for comes from the expression of a type. -/
theorem Entry.Fails.exists_regex {e : Engine α} (he : e.IsSound) {entry : Entry α}
    (hentry : entry ∈ e.entries) (h : entry.Fails method rest error) {P : String → Prop}
    (hP : ∀ type regex, e.types.find? type = some regex → P regex) :
    ∃ regex, P regex ∧ (error = .regex .crossedGroup ∧ HasPossessiveMark regex.toList ∨
      ∃ group, error = .foreignGroup group ∧ groupOpening group.toList <:+: regex.toList) := by
  obtain ⟨slots, hslots, hcompile⟩ := exists_slots_of_compileAfresh (he.registered entry hentry)
  have hregexes := forall_regexes_of_resolve? hP hslots
  cases h with
  | crosses _ hmatch =>
      obtain ⟨regex, hregex, hmark⟩ :=
        Slot.hasPossessiveMark_of_compile hcompile (Regex.Expression.fullMatch_error hmatch).2
      exact ⟨regex, hregexes regex hregex, .inl ⟨rfl, hmark⟩⟩
  | foreign _ _ hforeign =>
      obtain ⟨capture, hcapture, rfl⟩ := Option.map_eq_some_iff.mp hforeign
      obtain ⟨⟨name, index⟩, hname, hgroup⟩ :=
        List.mem_filterMap.mp (List.mem_of_find?_eq_some hcapture)
      obtain ⟨text, -, rfl⟩ := Option.map_eq_some_iff.mp hgroup
      obtain ⟨regex, hregex, hopening⟩ := Slot.groupOpening_of_compile hcompile hname
        (by simpa using List.find?_some hcapture)
      exact ⟨regex, hregexes regex hregex, .inr ⟨name, rfl, hopening⟩⟩

theorem not_marked_of_defaultTypes {type regex : String} (h : defaultTypes.find? type = some regex) :
    ¬ HasPossessiveMark regex.toList ∧ ∀ name, ¬ groupOpening name <:+: regex.toList := by
  have hdefaults : ∀ entry ∈ defaultTypes.entries,
      ¬ HasPossessiveMark entry.2.toList ∧ '(' ∉ entry.2.toList := by decide
  obtain ⟨hmark, hopen⟩ := hdefaults _ (Pairs.mem_of_find? h)
  exact ⟨hmark, fun name hfound => hopen (hfound.subset List.mem_cons_self)⟩

end Engine

end HttpRouting
