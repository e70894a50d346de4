import HttpRouting.Proofs.Engine.Reading

/-!
# What slots match

A path spells some slots with a value for each hole that is not left out.  The
compiled form of slots with plain expressions matches exactly the paths that
spell the slots, and what it captures are values with which the path does so.
-/

namespace HttpRouting.Engine

open Regex (Node Cursor Continuation Matcher)
open Regex.Matcher (IsSound IsComplete)

namespace Slot

/-! ## Spelling -/

/-- The texts that slots stand for, with the values of the holes; an optional hole may have none. -/
inductive Spells : List Slot → List (Option (List Char)) → List Char → Prop
  | nil : Spells [] [] []
  | literal {c : Char} {rest : List Slot} {values : List (Option (List Char))} {text : List Char} :
      Spells rest values text → Spells (.literal c :: rest) values (c :: text)
  | filled {lead : Option Char} {param regex : String} {optional : Bool} {rest : List Slot}
      {values : List (Option (List Char))} {word text : List Char} :
      word ∈ languageOf regex → Spells rest values text →
      Spells (.hole lead param regex optional :: rest) (some word :: values)
        (lead.toList ++ word ++ text)
  | left {lead : Option Char} {param regex : String} {rest : List Slot}
      {values : List (Option (List Char))} {text : List Char} :
      Spells rest values text → Spells (.hole lead param regex true :: rest) (none :: values) text

theorem Spells.exists_word {lead : Option Char} {param regex : String} {rest : List Slot}
    {values : List (Option (List Char))} {text : List Char}
    (h : Spells (.hole lead param regex false :: rest) values text) :
    ∃ word more tail, word ∈ languageOf regex ∧ Spells rest more tail ∧
      values = some word :: more ∧ text = lead.toList ++ word ++ tail := by
  cases h with
  | filled hword hrest => exact ⟨_, _, _, hword, hrest, rfl, rfl⟩

/-- The parameters with the values that they have been given. -/
def captured : List Slot → List (Option (List Char)) → List (String × String)
  | .literal _ :: rest, values => captured rest values
  | .hole _ param _ _ :: rest, some word :: values => (param, .ofList word) :: captured rest values
  | .hole _ _ _ _ :: rest, none :: values => captured rest values
  | _, _ => []

end Slot

open Slot

/-! ## Runs of sequences -/

theorem run_ofList_cons (n : Node) (nodes : List Node) (c : Cursor) (k : Continuation) :
    (Node.ofList (n :: nodes)).run {} c k = n.run {} c fun c => (Node.ofList nodes).run {} c k := by
  cases nodes <;> rfl

theorem run_ofList_append (first second : List Node) (c : Cursor) (k : Continuation) :
    (Node.ofList (first ++ second)).run {} c k =
      (Node.ofList first).run {} c fun c => (Node.ofList second).run {} c k := by
  induction first generalizing c with
  | nil => rfl
  | cons n first ih =>
      rw [List.cons_append, run_ofList_cons, run_ofList_cons]
      simp only [ih]

theorem run_optional (n : Node) (c : Cursor) (k : Continuation) :
    (Node.loop .greedy 0 (some 1) n).run {} c k = Matcher.orElse (n.run {} c k) fun _ => k c := by
  have hlast (fuel : Nat) (c : Cursor) :
      Matcher.greedyRounds (n.run {}) fuel (some 0) c k = k c := by
    cases fuel <;> rfl
  change Matcher.greedyRounds (n.run {}) (c.after.length + 1) (some 1) c k = _
  rw [Matcher.greedyRounds]
  simp only [Option.map_some, Nat.sub_self, hlast, ite_self]
  rfl

/-! ## Soundness -/

theorem group?_of_passes {c next : Cursor} {word : List Char} {touched : Nat → Prop}
    (h : c.Passes next word touched) {g : Nat} (hg : ¬ touched g) : next.group? g = c.group? g := by
  rw [Cursor.group?, Cursor.group?, h.starts g hg, h.stops g hg, h.subject]

theorem sound_literal {x : Char} {c last : Cursor} {k : Continuation}
    (hrun : (Node.literal x.toNat).run {} c k = some last) (touched : Nat → Prop) :
    ∃ next, c.Passes next [x] touched ∧ k next = some last := by
  obtain ⟨next, hnext, hk⟩ := Option.bind_eq_some_iff.mp hrun
  obtain ⟨y, hy, hpasses⟩ := Cursor.passes_of_advance? hnext touched
  obtain rfl : y = x := by
    simpa [Regex.accepts, Regex.isMember, Regex.ClassItem.contains, Char.toNat_inj] using hy
  exact ⟨next, hpasses, hk⟩

theorem sound_group {lead : Option Char} {index : Nat} {body : Node} (hplain : body.isPlain)
    (hfresh : ¬ body.Binds index) {c last : Cursor} {k : Continuation}
    (hrun : (Node.ofList (leadNodes lead ++ [.group index body])).run {} c k = some last) :
    ∃ word ∈ body.language, ∃ next,
      c.Passes next (lead.toList ++ word) (fun g => index = g ∨ body.Binds g) ∧
        next.group? index = some word ∧ k next = some last := by
  cases lead with
  | none => exact Node.group?_of_run hplain hfresh hrun
  | some x =>
      have hlead : (Node.literal x.toNat).run {} c
          (fun c => (Node.group index body).run {} c k) = some last := hrun
      obtain ⟨middle, hmiddle, hrest⟩ := sound_literal hlead _
      obtain ⟨word, hword, next, hnext, hgroup, hk⟩ := Node.group?_of_run hplain hfresh hrest
      exact ⟨word, hword, next, hmiddle.trans hnext, hgroup, hk⟩

theorem sound_hole {lead : Option Char} {optional : Bool} {index : Nat} {body : Node}
    (hplain : body.isPlain) (hfresh : ¬ body.Binds index) {c last : Cursor} {k : Continuation}
    (hunset : c.starts.lookup index = none)
    (hrun : (Node.ofList (holeNodes lead optional (.group index body))).run {} c k = some last) :
    ∃ text next, c.Passes next text (fun g => index = g ∨ body.Binds g) ∧ k next = some last ∧
      ((∃ word ∈ body.language, text = lead.toList ++ word ∧ next.group? index = some word) ∨
        optional = true ∧ text = [] ∧ next.group? index = none) := by
  cases optional with
  | false =>
      obtain ⟨word, hword, next, hnext, hgroup, hk⟩ := sound_group hplain hfresh hrun
      exact ⟨_, next, hnext, hk, .inl ⟨word, hword, rfl, hgroup⟩⟩
  | true =>
      have hloop : (Node.loop .greedy 0 (some 1)
          (.ofList (leadNodes lead ++ [.group index body]))).run {} c k = some last := hrun
      rw [run_optional] at hloop
      rcases Matcher.orElse_eq_some hloop with hround | ⟨-, hstop⟩
      · obtain ⟨word, hword, next, hnext, hgroup, hk⟩ := sound_group hplain hfresh hround
        exact ⟨_, next, hnext, hk, .inl ⟨word, hword, rfl, hgroup⟩⟩
      · refine ⟨[], c, .refl c _, hstop, .inr ⟨rfl, rfl, ?_⟩⟩
        rw [Cursor.group?, hunset]
        rfl

/--
What the nodes of slots step over spells the slots with the captured values.
The induction is on the slots: the holes behind a hole leave its group alone,
since their groups have higher numbers.
-/
theorem Slot.Composes.sound {count : Nat} {slots : List Slot} {nodes : List Node}
    {groups : List Nat} (h : Composes count slots nodes groups) {c last : Cursor} {k : Continuation}
    (hunset : ∀ g, count ≤ g → c.starts.lookup g = none)
    (hrun : (Node.ofList nodes).run {} c k = some last) :
    ∃ text next, Spells slots (groups.map next.group?) text ∧ c.Passes next text (count ≤ ·) ∧
      k next = some last ∧ ∀ g ∈ groups, count ≤ g := by
  induction h generalizing c with
  | nil => exact ⟨[], c, .nil, .refl c _, hrun, by simp⟩
  | literal _ ih =>
      rw [run_ofList_cons] at hrun
      obtain ⟨middle, hmiddle, hrest⟩ := sound_literal hrun fun _ => False
      obtain ⟨text, next, hspells, hnext, hk, hgroups⟩ :=
        ih (fun g hg => (hmiddle.starts g id).trans (hunset g hg)) hrest
      exact ⟨_, next, .literal hspells, (hmiddle.mono fun _ => False.elim).trans hnext, hk, hgroups⟩
  | @hole count later lead param regex optional body _ _ _ hbody hlanguage hcount hbinds _ _ ih =>
      have hfresh : ¬ body.Binds count := fun hmem => Nat.lt_irrefl _ (hbinds count hmem).1
      rw [run_ofList_append] at hrun
      obtain ⟨text, middle, hmiddle, hrest, hvalue⟩ :=
        sound_hole hbody hfresh (hunset count (Nat.le_refl _)) hrun
      have huntouched (g : Nat) (hg : later ≤ g) : ¬ (count = g ∨ body.Binds g) := by
        rintro (rfl | hmem)
        · omega
        · have := (hbinds g hmem).2
          omega
      obtain ⟨more, next, hspells, hnext, hk, hgroups⟩ := ih (fun g hg =>
        (hmiddle.starts g (huntouched g hg)).trans (hunset g (by omega))) hrest
      have hkept : next.group? count = middle.group? count := group?_of_passes hnext (by omega)
      refine ⟨text ++ more, next, ?_, (hmiddle.mono ?_).trans (hnext.mono fun g hg => ?_), hk, ?_⟩
      · rw [List.map_cons, hkept]
        rcases hvalue with ⟨word, hword, rfl, hgroup⟩ | ⟨rfl, rfl, hgroup⟩
        · rw [hgroup]
          exact .filled (hlanguage ▸ hword) hspells
        · rw [hgroup]
          exact .left hspells
      · rintro g (rfl | hmem)
        · exact Nat.le_refl _
        · exact Nat.le_of_lt (hbinds g hmem).1
      · exact Nat.le_trans (Nat.le_of_lt hcount) hg
      · intro g hg
        rcases List.mem_cons.mp hg with rfl | hg
        · exact Nat.le_refl _
        · exact Nat.le_trans (Nat.le_of_lt hcount) (hgroups g hg)

/-! ## Completeness -/

theorem mem_language_group (lead : Option Char) (index : Nat) {body : Node} {word : List Char}
    (h : word ∈ body.language) :
    lead.toList ++ word ∈ (Node.ofList (leadNodes lead ++ [.group index body])).language := by
  cases lead with
  | none => exact h
  | some x =>
      refine Language.append_mem_mul ⟨x, ?_, rfl⟩ h
      simp [Regex.accepts, Regex.isMember, Regex.ClassItem.contains]

theorem mem_language_hole (lead : Option Char) (optional : Bool) (index : Nat) {body : Node}
    {word : List Char} (h : word ∈ body.language) :
    lead.toList ++ word ∈ (Node.ofList (holeNodes lead optional (.group index body))).language := by
  have hgroup := mem_language_group lead index h
  cases optional with
  | false => exact hgroup
  | true =>
      have hone : (some 1 : Option Nat) ≠ some 0 := by simp
      have hround := Language.append_mem_mul Language.nil_mem_one (Matcher.mem_upTo_of_mem hone hgroup)
      exact hround

theorem nil_mem_language_hole (lead : Option Char) (group : Node) :
    [] ∈ (Node.ofList (holeNodes lead true group)).language :=
  Language.append_mem_mul Language.nil_mem_one (Matcher.nil_mem_upTo _ _)

theorem Slot.Composes.complete {count : Nat} {slots : List Slot} {nodes : List Node}
    {groups : List Nat} (h : Composes count slots nodes groups)
    {values : List (Option (List Char))} {text rest : List Char} (hspells : Spells slots values text)
    {c : Cursor} {k : Continuation} (hafter : c.after = text ++ rest)
    (hk : ∀ next : Cursor, next.after = rest → (k next).isSome) :
    ((Node.ofList nodes).run {} c k).isSome := by
  induction h generalizing values text c with
  | nil =>
      cases hspells
      exact hk c hafter
  | @literal _ x _ _ _ _ ih =>
      cases hspells with
      | @literal _ _ _ text hspells =>
          rw [run_ofList_cons]
          refine Node.isComplete_run rfl c _ [x] (text ++ rest) ⟨x, ?_, rfl⟩ hafter fun next hnext => ?_
          · simp [Regex.accepts, Regex.isMember, Regex.ClassItem.contains]
          · exact ih hspells hnext
  | @hole count later lead param regex optional body _ _ _ hbody hlanguage _ _ _ _ ih =>
      have hplain : (Node.ofList (holeNodes lead optional (.group count body))).isPlain :=
        Regex.Reader.isPlain_ofList.mpr (isPlain_holeNodes lead optional hbody)
      rw [run_ofList_append]
      cases hspells with
      | @filled _ _ _ _ _ _ word text hword hspells =>
          rw [← hlanguage] at hword
          refine Node.isComplete_run hplain c _ (lead.toList ++ word) (text ++ rest)
            (mem_language_hole lead optional count hword) (by rw [hafter, List.append_assoc])
            fun next hnext => ?_
          exact ih hspells hnext
      | left hspells =>
          refine Node.isComplete_run hplain c _ [] (text ++ rest) (nil_mem_language_hole _ _) hafter
            fun next hnext => ?_
          exact ih hspells hnext

/-! ## Compiled slots -/

/-- What a compiled pattern does when it stands for slots with plain expressions. -/
structure Decides (compiled : CompiledPattern) (slots : List Slot) : Prop where
  total : ∀ subject, ∃ answer, compiled.expression.fullMatch subject = .ok answer
  sound : ∀ subject cursor, compiled.expression.fullMatch subject = .ok (some cursor) →
    ∃ values, Spells slots values subject ∧
      (compiled.expression.captures cursor).mapM (paramOf compiled.params) =
        .ok (captured slots values)
  complete : ∀ subject values, Spells slots values subject →
    ∃ cursor, compiled.expression.fullMatch subject = .ok (some cursor)

theorem mem_groupsFrom {index : Nat} {slots : List Slot} {entry : String × String}
    (h : entry ∈ groupsFrom index slots) : ∃ i, index ≤ i ∧ entry.1 = groupName i := by
  induction slots generalizing index with
  | nil => simp [groupsFrom] at h
  | cons slot rest ih =>
      cases slot with
      | literal c => exact ih h
      | hole lead param regex optional =>
          rcases List.mem_cons.mp h with rfl | h
          · exact ⟨index, Nat.le_refl _, rfl⟩
          · obtain ⟨i, hi, hname⟩ := ih h
            exact ⟨i, by omega, hname⟩

theorem nodup_groupsFrom (index : Nat) (slots : List Slot) :
    ((groupsFrom index slots).map Prod.fst).Nodup := by
  induction slots generalizing index with
  | nil => simp [groupsFrom]
  | cons slot rest ih =>
      cases slot with
      | literal c => exact ih index
      | hole lead param regex optional =>
          rw [groupsFrom, List.map_cons, List.nodup_cons]
          refine ⟨fun hmem => ?_, ih (index + 1)⟩
          obtain ⟨entry, hentry, heq⟩ := List.mem_map.mp hmem
          obtain ⟨i, hi, hname⟩ := mem_groupsFrom hentry
          have := groupName_injective (congrArg String.toList (hname.symm.trans heq))
          omega

theorem captures_of_composes {count index : Nat} {slots : List Slot} {nodes : List Node}
    {groups : List Nat} (h : Composes count slots nodes groups) {params : Pairs String}
    (hparams : ∀ entry ∈ groupsFrom index slots, params.find? entry.1 = some entry.2) (c : Cursor) :
    ((nameGroups index groups).filterMap fun (name, group) =>
        (c.group? group).map (name, ·)).mapM (paramOf params) =
      .ok (captured slots (groups.map c.group?)) := by
  induction h generalizing index with
  | nil => rfl
  | literal _ ih => exact ih hparams
  | @hole count _ _ _ _ _ _ _ _ _ _ _ _ _ _ _ ih =>
      have hrest := @ih (index + 1) fun entry hentry => hparams entry (List.mem_cons_of_mem _ hentry)
      have hfirst := hparams _ List.mem_cons_self
      simp only [nameGroups, List.filterMap_cons, List.map_cons]
      cases c.group? count with
      | none => exact hrest
      | some word =>
          simp only [Option.map_some, List.mapM_cons, paramOf, hfirst, bind, Except.bind, hrest]
          rfl

theorem Slot.Composes.fullMatch {count : Nat} {slots : List Slot} {nodes : List Node} {groups : List Nat}
    (h : Composes count slots nodes groups) {e : Regex.Expression} (hnode : e.node = .ofList nodes)
    (hflags : e.flags = {}) (subject : List Char) :
    e.fullMatch subject =
      .ok ((Node.ofList nodes).run {} (.atStart subject) Regex.Expression.atEnd) := by
  rw [Regex.Expression.fullMatch, hnode, hflags, Node.needsTrail_of_isPlain
    (Regex.Reader.isPlain_ofList.mpr h.isPlain)]
  rfl

theorem decides_of_compile {slots : List Slot}
    (hplain : ∀ regex ∈ regexes slots, Regex.Expression.IsPlainText regex) {pattern : String}
    {compiled : CompiledPattern} (h : Slot.compile pattern slots = .ok compiled) :
    Decides compiled slots := by
  obtain ⟨e, nodes, groups, hcompile, hnode, hflags, hnames, hcomposes⟩ :=
    exists_compiled hplain pattern
  obtain rfl := Except.ok.inj (hcompile.symm.trans h)
  have hmatch := hcomposes.fullMatch hnode hflags
  refine ⟨fun subject => ⟨_, hmatch subject⟩, fun subject cursor hfull => ?_,
    fun subject values hspells => ?_⟩
  · rw [hmatch, Except.ok.injEq] at hfull
    obtain ⟨text, next, hspells, hpasses, hend, -⟩ := hcomposes.sound (fun _ _ => rfl) hfull
    have hatEnd : next.after = [] ∧ next = cursor := by
      unfold Regex.Expression.atEnd at hend
      split at hend
      next hempty => exact ⟨by simpa using hempty, Option.some.inj hend⟩
      next => simp at hend
    obtain ⟨hempty, rfl⟩ := hatEnd
    have hsubject : subject = text := by
      have hafter := hpasses.after
      rwa [hempty, List.append_nil] at hafter
    subst hsubject
    refine ⟨_, hspells, ?_⟩
    rw [Regex.Expression.captures, hnames]
    exact captures_of_composes hcomposes
      (fun entry hentry => Pairs.find?_ofList_of_mem (nodup_groupsFrom 0 slots) hentry) next
  · have hsome := hcomposes.complete hspells (List.append_nil subject).symm
      (c := .atStart subject) (k := Regex.Expression.atEnd)
      fun next hnext => by simp [Regex.Expression.atEnd, hnext]
    obtain ⟨cursor, hcursor⟩ := Option.isSome_iff_exists.mp hsome
    exact ⟨cursor, by rw [hmatch, hcursor]⟩

end HttpRouting.Engine
