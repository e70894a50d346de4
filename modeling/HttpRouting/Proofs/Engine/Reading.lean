import HttpRouting.Proofs.Engine.Slot
import HttpRouting.Proofs.Regex.Reading.Blocks
import HttpRouting.Proofs.Template.Tags

/-!
# Reading the expressions of slots

The expression of slots with plain expressions is read as a sequence with one
node for each literal and one named group for each hole.  The group of a hole
has the next free number, and the groups inside it come between that number and
the next hole's.
-/

namespace HttpRouting.Engine

open Regex (Node Part Source quoteMeta)
open Regex.Reader (GroupRead namedGroup nodesOf)

/-! ## Names of groups -/

theorem toList_groupName (index : Nat) : (groupName index).toList = 'p' :: Nat.toDigits 10 index := by
  simp only [groupName, String.toList_append, Nat.toString_eq_repr, Nat.toList_repr]
  rfl

theorem groupName_injective {i j : Nat} (h : (groupName i).toList = (groupName j).toList) : i = j :=
  Template.Compiler.tagNumbered_injective (String.toList_inj.mp h)

theorem isIdentifierRest_of_isDigit {c : Char} (h : c.isDigit = true) :
    Text.isIdentifierRest c = true := by
  have hdigits : ∀ n < 10, Text.isIdentifierRest (Char.ofNat (48 + n)) = true := by decide +kernel
  simp only [Char.isDigit, Bool.and_eq_true, decide_eq_true_eq, UInt32.le_iff_toNat_le] at h
  have hc : c = Char.ofNat (48 + (c.toNat - 48)) := by
    rw [show 48 + (c.toNat - 48) = c.toNat from Nat.add_sub_of_le h.1, Char.ofNat_toNat]
  have hsmall : c.toNat - 48 < 10 := by
    have : c.toNat ≤ 57 := h.2
    omega
  rw [hc]
  exact hdigits _ hsmall

theorem isDigit_of_mem_digits {c : Char} {index : Nat} (h : c ∈ Nat.toDigits 10 index) :
    c.isDigit = true :=
  Nat.isDigit_of_mem_toDigits (by omega) (by omega) h

theorem isIdentifier_groupName (index : Nat) : Text.isIdentifier (groupName index).toList = true := by
  rw [toList_groupName, Text.isIdentifier, Bool.and_eq_true, List.all_eq_true]
  exact ⟨by decide +kernel, fun c hc => isIdentifierRest_of_isDigit (isDigit_of_mem_digits hc)⟩

theorem ne_of_mem_groupName {c : Char} {index : Nat} (h : c ∈ (groupName index).toList) :
    c ≠ '\\' ∧ c ≠ '>' := by
  rw [toList_groupName] at h
  rcases List.mem_cons.mp h with rfl | hdigit
  · decide
  · constructor <;> rintro rfl <;> simpa using isDigit_of_mem_digits hdigit

/-! ## What comes first in an expression -/

namespace Slot

theorem blockRegex_eq (lead : Option Char) (type param : String) (optional : Bool) (index : Nat)
    (regex : String) :
    blockRegex ⟨lead, type, param, optional⟩ index regex =
      if optional then
        "(?:".toList ++ (quoteMeta lead.toList ++ namedGroup (groupName index).toList regex.toList) ++
          ")?".toList
      else quoteMeta lead.toList ++ namedGroup (groupName index).toList regex.toList := by
  simp [blockRegex, namedGroup]

def BeginsWell (s : List Char) : Prop :=
  s ≠ ['\\'] ∧ s.head? ≠ some '?' ∧ s.head? ≠ some '+'

theorem beginsWell_quoteMeta (c : Char) (rest : List Char) : BeginsWell (quoteMeta [c] ++ rest) := by
  cases hc : Regex.isMeta c with
  | true => simp [BeginsWell, quoteMeta, hc]
  | false =>
      have hne (d : Char) (hd : Regex.isMeta d = true) : c ≠ d := fun heq => by simp [heq, hd] at hc
      simp [BeginsWell, quoteMeta, hc, hne '\\' (by decide), hne '?' (by decide), hne '+' (by decide)]

theorem beginsWell_group (lead : Option Char) (name regex rest : List Char) :
    BeginsWell (quoteMeta lead.toList ++ namedGroup name regex ++ rest) := by
  cases lead with
  | none => simp [BeginsWell, quoteMeta, namedGroup]
  | some c =>
      rw [List.append_assoc]
      exact beginsWell_quoteMeta c _

theorem beginsWell_regexFrom (index : Nat) (slots : List Slot) : BeginsWell (regexFrom index slots) := by
  cases slots with
  | nil => simp [BeginsWell, regexFrom]
  | cons slot rest =>
      cases slot with
      | literal c => exact beginsWell_quoteMeta c _
      | hole lead param regex optional =>
          rw [regexFrom, blockRegex_eq]
          split
          next => simp [BeginsWell]
          next => exact beginsWell_group lead _ _ _

theorem BeginsWell.peek_ne {s : Source} (h : BeginsWell s.rest) {c : Char} (hc : c = '?' ∨ c = '+') :
    s.peek ≠ some [c] := by
  rcases Regex.Reader.token_cases s.rest with hrest | hrest | ⟨d, more, hrest⟩ | ⟨d, more, hd, hrest⟩
  · rw [Regex.Reader.peek_nil hrest]
    simp
  · exact absurd hrest h.1
  · rw [Regex.Reader.peek_escape hrest]
    simp
  · rw [Regex.Reader.peek_char hd hrest]
    rw [BeginsWell, hrest] at h
    rintro heq
    obtain rfl : d = c := by simpa using heq
    rcases hc with rfl | rfl
    · exact h.2.1 rfl
    · exact h.2.2 rfl

/-! ## Nodes of slots -/

def leadNodes (lead : Option Char) : List Node := lead.toList.map fun c => .literal c.toNat

def holeNodes (lead : Option Char) (optional : Bool) (group : Node) : List Node :=
  if optional then [.loop .greedy 0 (some 1) (.ofList (leadNodes lead ++ [group]))]
  else leadNodes lead ++ [group]

/-- The words of a plain expression; other texts are given none. -/
def languageOf (regex : String) : Language Char :=
  match Regex.Expression.readPlain? regex.toList with
  | some e => e.node.language
  | none => 0

theorem exists_plain_expression {regex : String} (h : Regex.Expression.IsPlainText regex) :
    ∃ e, Regex.Expression.read regex.toList = .ok e ∧ e.isPlain ∧
      languageOf regex = e.node.language := by
  rw [Regex.Expression.IsPlainText] at h
  rw [languageOf]
  cases hplain : Regex.Expression.readPlain? regex.toList with
  | none => simp [hplain] at h
  | some e =>
      refine ⟨e, ?_, ?_, rfl⟩
      all_goals
        unfold Regex.Expression.readPlain? at hplain
        split at hplain
        next found hread =>
          split at hplain
          next hfound =>
            obtain rfl := Option.some.inj hplain
            assumption
          next => simp at hplain
        next => simp at hplain

-- Reading an expression is never worth the while of a unifier.
attribute [irreducible] languageOf

/--
The nodes that slots are read as when so many groups have been counted, with the
numbers of the holes' groups.
-/
inductive Composes : Nat → List Slot → List Node → List Nat → Prop
  | nil {count : Nat} : Composes count [] [] []
  | literal {count : Nat} {c : Char} {rest : List Slot} {nodes : List Node} {groups : List Nat} :
      Composes count rest nodes groups →
      Composes count (.literal c :: rest) (.literal c.toNat :: nodes) groups
  | hole {count next : Nat} {lead : Option Char} {param regex : String} {optional : Bool}
      {body : Node} {rest : List Slot} {nodes : List Node} {groups : List Nat} :
      body.isPlain → body.language = languageOf regex → count < next →
      (∀ g, body.Binds g → count < g ∧ g < next) →
      Regex.Expression.placed count regex.toList = (body, next) → Composes next rest nodes groups →
      Composes count (.hole lead param regex optional :: rest)
        (holeNodes lead optional (.group count body) ++ nodes) (count :: groups)

def nameGroups : Nat → List Nat → List (String × Nat)
  | _, [] => []
  | index, group :: groups => (groupName index, group) :: nameGroups (index + 1) groups

theorem isPlain_leadNodes (lead : Option Char) : Regex.Reader.IsPlainSequence (leadNodes lead) := by
  cases lead with
  | none => simp [leadNodes, Regex.Reader.IsPlainSequence]
  | some c => simp [leadNodes, Regex.Reader.IsPlainSequence, Node.literal, Node.isPlain]

theorem isPlain_holeNodes (lead : Option Char) (optional : Bool) {group : Node}
    (h : group.isPlain) : Regex.Reader.IsPlainSequence (holeNodes lead optional group) := by
  have hsequence : Regex.Reader.IsPlainSequence (leadNodes lead ++ [group]) :=
    Regex.Reader.isPlainSequence_append.mpr
      ⟨isPlain_leadNodes lead, List.forall_mem_singleton.mpr h⟩
  unfold holeNodes
  split
  next =>
    refine List.forall_mem_singleton.mpr ?_
    rw [Node.isPlain, Regex.Reader.isPlain_ofList.mpr hsequence]
    rfl
  next => exact hsequence

theorem Composes.isPlain {count : Nat} {slots : List Slot} {nodes : List Node} {groups : List Nat}
    (h : Composes count slots nodes groups) : Regex.Reader.IsPlainSequence nodes := by
  induction h with
  | nil => simp [Regex.Reader.IsPlainSequence]
  | literal _ ih => exact List.forall_mem_cons.mpr ⟨rfl, ih⟩
  | hole hbody _ _ _ _ _ ih =>
      exact Regex.Reader.isPlainSequence_append.mpr ⟨isPlain_holeNodes _ _ hbody, ih⟩

/-! ## Reading -/

section

variable {s : Source} {more name : List Char} {names : List (List Char × Nat)} {regex : String}

theorem run_sequence_group {e : Regex.Expression}
    (hread : Regex.Expression.read regex.toList = .ok e) (hplain : e.isPlain) (index : Nat)
    (hfresh : names.lookup (groupName index).toList = none) {lead : Option Char}
    (hs : s.IsAt (quoteMeta lead.toList ++ namedGroup (groupName index).toList regex.toList ++ more)
      names)
    (hmore : more ≠ ['\\']) {fuel : Nat} (hfuel : 3 * regex.toList.length + 12 ≤ fuel) (first : Bool)
    (parts : List Part) :
    ∃ body last fuel' parts', fuel ≤ fuel' + 2 ∧
      (Regex.Reader.sequence fuel false first parts).run s =
        (Regex.Reader.sequence fuel' false first parts').run last ∧
      nodesOf parts' = nodesOf parts ++ (leadNodes lead ++ [.group s.groupCount body]) ∧
      last.IsAt more (names ++ [((groupName index).toList, s.groupCount)]) ∧
      GroupRead regex.toList e s last body := by
  have hname : ∀ c ∈ (groupName index).toList, c ≠ '\\' ∧ c ≠ '>' := fun _ => ne_of_mem_groupName
  have hidentifier := isIdentifier_groupName index
  cases lead with
  | none =>
      obtain ⟨fuel, rfl⟩ : ∃ n, fuel = n + 1 := ⟨fuel - 1, by omega⟩
      obtain ⟨body, last, hrun, hlast, hgroup⟩ := Regex.Reader.run_sequence_namedGroup hread hplain
        hname hidentifier hfresh hs hmore (show 3 * regex.toList.length + 10 ≤ fuel by omega) first parts
      refine ⟨body, last, fuel, _, by omega, hrun, ?_, hlast, hgroup⟩
      simp [Regex.Reader.nodesOf_cons, Part.nodes, leadNodes]
  | some c =>
      obtain ⟨fuel, rfl⟩ : ∃ n, fuel = n + 2 := ⟨fuel - 2, by omega⟩
      have hrest : namedGroup (groupName index).toList regex.toList ++ more ≠ ['\\'] := by
        simp [namedGroup]
      obtain ⟨i, hliteral⟩ := Regex.Reader.run_sequence_literal (hs.rest.trans (List.append_assoc ..))
        hrest
      obtain ⟨body, last, hrun, hlast, hgroup⟩ := Regex.Reader.run_sequence_namedGroup hread hplain
        hname hidentifier hfresh (Regex.Reader.isAt_at hs _ i) hmore
        (show 3 * regex.toList.length + 10 ≤ fuel by omega) first (.one (.literal c.toNat) :: parts)
      refine ⟨body, last, fuel, _, by omega, hliteral.trans hrun, ?_, hlast,
        hgroup.isPlain, hgroup.language, hgroup.count, hgroup.binds, hgroup.placed⟩
      simp [Regex.Reader.nodesOf_cons, Part.nodes, leadNodes, Regex.Reader.groupCount_at]

theorem run_sequence_hole {e : Regex.Expression}
    (hread : Regex.Expression.read regex.toList = .ok e) (hplain : e.isPlain) (index : Nat)
    (hfresh : names.lookup (groupName index).toList = none) {lead : Option Char} {param : String}
    {optional : Bool}
    (hs : s.IsAt (blockRegex ⟨lead, "", param, optional⟩ index regex ++ more) names)
    (hmore : BeginsWell more) {fuel : Nat} (hfuel : 3 * regex.toList.length + 20 ≤ fuel)
    (first : Bool) (parts : List Part) :
    ∃ body last fuel' parts', fuel ≤ fuel' + 2 ∧
      (Regex.Reader.sequence fuel false first parts).run s =
        (Regex.Reader.sequence fuel' false first parts').run last ∧
      nodesOf parts' = nodesOf parts ++ holeNodes lead optional (.group s.groupCount body) ∧
      last.IsAt more (names ++ [((groupName index).toList, s.groupCount)]) ∧
      GroupRead regex.toList e s last body := by
  rw [blockRegex_eq] at hs
  cases optional with
  | false => exact run_sequence_group hread hplain index hfresh hs hmore.1 (by omega) first parts
  | true =>
      obtain ⟨fuel, rfl⟩ : ∃ n, fuel = n + 4 := ⟨fuel - 4, by omega⟩
      let inner := quoteMeta lead.toList ++ namedGroup (groupName index).toList regex.toList
      have hrest : s.rest = '(' :: '?' :: ':' :: (inner ++ ')' :: '?' :: more) := by
        simpa [inner] using hs.rest
      obtain ⟨body, after, fuel', parts', hle, hrun, hparts, hafter, hgroup⟩ :=
        run_sequence_group hread hplain index hfresh
          (Regex.Reader.isAt_at hs (inner ++ ')' :: '?' :: more) (s.index + 1 + 2)) (by simp)
          (show 3 * regex.toList.length + 12 ≤ fuel + 1 by omega) false []
      obtain ⟨fuel', rfl⟩ : ∃ n, fuel' = n + 1 := ⟨fuel' - 1, by omega⟩
      rw [Regex.Reader.run_sequence_end (.inr (.inr (Regex.Reader.peek_char (by decide) hafter.rest)))]
        at hrun
      have hbody := Regex.Reader.run_alternatives hrun
        (by rw [Regex.Reader.peek_char (by decide) hafter.rest]; simp)
      have hopened (start : Nat) := Regex.Reader.run_group_plain hbody
        (Regex.Reader.run_closeParenthesis hafter.rest (by simp) start)
      have hwhole := @Regex.Reader.run_sequence_group s ('?' :: ':' :: (inner ++ ')' :: '?' :: more))
        (fuel + 3) first parts _ _ _ _ hrest (by simp) (.inr rfl)
        (fun start => Regex.Reader.run_opening_plain rfl Regex.Reader.append_close_ne start) hopened
      have hpeek (i : Nat) {c : Char} (hc : c = '?' ∨ c = '+') :
          ((after.at ('?' :: more) (after.index + 1)).at more i).peek ≠ some [c] :=
        BeginsWell.peek_ne hmore hc
      obtain ⟨i, hoptional⟩ := @Regex.Reader.run_sequence_optional
        (after.at ('?' :: more) (after.index + 1)) more (fuel + 2) first (nodesOf parts') parts rfl
        hmore.1 (fun i => hpeek i (.inl rfl)) (fun i => hpeek i (.inr rfl))
      refine ⟨body, _, fuel + 2, _, by omega, hwhole.trans hoptional, ?_,
        Regex.Reader.isAt_at hafter more i, hgroup.isPlain, hgroup.language, hgroup.count,
        hgroup.binds, hgroup.placed⟩
      rw [Regex.Reader.nodesOf_cons, hparts]
      simp [Part.nodes, holeNodes, nodesOf, Regex.Reader.groupCount_at]

theorem length_regexFrom_literal (index : Nat) (c : Char) (rest : List Slot) :
    (regexFrom index rest).length < (regexFrom index (.literal c :: rest)).length := by
  have hquoted : 0 < (quoteMeta [c]).length := by
    cases hc : Regex.isMeta c <;> simp [quoteMeta, hc]
  rw [regexFrom, List.length_append]
  omega

theorem length_regexFrom_hole (index : Nat) (lead : Option Char) (param regex : String)
    (optional : Bool) (rest : List Slot) :
    (regexFrom (index + 1) rest).length + regex.toList.length + 7 <
      (regexFrom index (.hole lead param regex optional :: rest)).length := by
  rw [regexFrom, blockRegex_eq]
  split <;> simp [namedGroup] <;> omega

theorem lookup_groupName_append {names : List (List Char × Nat)} {index i g : Nat}
    (h : names.lookup (groupName i).toList = none) (hi : index < i) :
    (names ++ [((groupName index).toList, g)]).lookup (groupName i).toList = none := by
  have hne : (groupName i).toList ≠ (groupName index).toList := fun heq =>
    absurd (groupName_injective heq) (Nat.ne_of_gt hi)
  rw [List.lookup_append, h]
  simp [List.lookup_cons, beq_eq_false_iff_ne.mpr hne]

theorem run_sequence_slots {slots : List Slot}
    (hplain : ∀ regex ∈ regexes slots, Regex.Expression.IsPlainText regex) {index : Nat}
    (hs : s.IsAt (regexFrom index slots) names)
    (hfresh : ∀ i, index ≤ i → names.lookup (groupName i).toList = none) {fuel : Nat}
    (hfuel : 3 * (regexFrom index slots).length < fuel) (first : Bool) (parts : List Part) :
    ∃ nodes groups last,
      (Regex.Reader.sequence fuel false first parts).run s = .ok (nodesOf parts ++ nodes, last) ∧
      last.IsAt [] (names ++ (nameGroups index groups).map fun (name, g) => (name.toList, g)) ∧
      Composes s.groupCount slots nodes groups := by
  induction slots generalizing index s names fuel parts with
  | nil =>
      obtain ⟨fuel, rfl⟩ : ∃ n, fuel = n + 1 := ⟨fuel - 1, by omega⟩
      refine ⟨[], [], s, ?_, by simpa [nameGroups, regexFrom] using hs, .nil⟩
      rw [Regex.Reader.run_sequence_end (.inl (Regex.Reader.peek_nil hs.rest)), List.append_nil]
  | cons slot rest ih =>
      cases slot with
      | literal c =>
          obtain ⟨fuel, rfl⟩ : ∃ n, fuel = n + 1 := ⟨fuel - 1, by omega⟩
          obtain ⟨i, hliteral⟩ :=
            Regex.Reader.run_sequence_literal hs.rest (beginsWell_regexFrom index rest).1
          have hlength := length_regexFrom_literal index c rest
          obtain ⟨nodes, groups, last, hrun, hlast, hcomposes⟩ := ih
            (fun regex hregex => hplain regex hregex) (Regex.Reader.isAt_at hs _ i) hfresh
            (show 3 * (regexFrom index rest).length < fuel by omega) (.one (.literal c.toNat) :: parts)
          refine ⟨.literal c.toNat :: nodes, groups, last, ?_, hlast, .literal hcomposes⟩
          rw [hliteral, hrun]
          simp [Regex.Reader.nodesOf_cons, Part.nodes]
      | hole lead param regex optional =>
          obtain ⟨e, hread, he, hlanguage⟩ :=
            exists_plain_expression (hplain regex (by simp [regexes]))
          have hlength := length_regexFrom_hole index lead param regex optional rest
          obtain ⟨body, middle, fuel', parts', hle, hhole, hparts, hmiddle, hgroup⟩ :=
            run_sequence_hole hread he index (hfresh index (Nat.le_refl _)) hs
              (beginsWell_regexFrom (index + 1) rest) (show 3 * regex.toList.length + 20 ≤ fuel by omega)
              first parts
          have hfresh' (i : Nat) (hi : index + 1 ≤ i) : (names ++
              [((groupName index).toList, s.groupCount)]).lookup (groupName i).toList = none :=
            lookup_groupName_append (hfresh i (by omega)) hi
          obtain ⟨nodes, groups, last, hrun, hlast, hcomposes⟩ := ih
            (fun other hother => hplain other (by
              simp only [regexes, List.filterMap_cons, List.mem_cons] at hother ⊢
              exact .inr hother))
            hmiddle hfresh' (show 3 * (regexFrom (index + 1) rest).length < fuel' by omega) parts'
          refine ⟨_, _, last, hhole.trans (hrun.trans ?_), ?_, .hole hgroup.isPlain
            (hgroup.language.trans hlanguage.symm) hgroup.count hgroup.binds hgroup.placed hcomposes⟩
          · rw [hparts, List.append_assoc]
          · simpa [nameGroups] using hlast

end

theorem exists_compiled {slots : List Slot}
    (hplain : ∀ regex ∈ regexes slots, Regex.Expression.IsPlainText regex) (pattern : String) :
    ∃ e nodes groups, Slot.compile pattern slots = .ok ⟨e, .ofList (groupsFrom 0 slots)⟩ ∧
      e.node = .ofList nodes ∧ e.flags = {} ∧ e.names = nameGroups 0 groups ∧
      Composes 1 slots nodes groups := by
  have hstart : ({ rest := regexFrom 0 slots } : Source).IsAt (regexFrom 0 slots) [] :=
    ⟨rfl, rfl, rfl, rfl, Nat.one_pos⟩
  obtain ⟨nodes, groups, last, hrun, hlast, hcomposes⟩ := run_sequence_slots hplain hstart
    (fun _ _ => rfl) (show 3 * (regexFrom 0 slots).length < 3 * (regexFrom 0 slots).length + 3 by omega)
    true []
  have halternatives := Regex.Reader.run_alternatives hrun
    (by rw [Regex.Reader.peek_nil hlast.rest]; simp)
  obtain ⟨e, hread, hnode, hflags, hnames⟩ :=
    Regex.Expression.read_of_run (beginsWell_regexFrom 0 slots).1 halternatives hlast.rest hlast.flags
      hlast.conditions (Regex.Reader.isPlain_ofList.mpr hcomposes.isPlain)
  refine ⟨e, nodes, groups, ?_, hnode, hflags, ?_, hcomposes⟩
  · rw [Slot.compile, hread]
    rfl
  · rw [hnames, hlast.names, List.nil_append, List.map_map]
    exact (List.map_congr_left fun entry _ => by simp).trans (List.map_id _)

end Slot

end HttpRouting.Engine
