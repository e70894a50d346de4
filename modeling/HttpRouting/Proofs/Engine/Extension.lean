import HttpRouting.Proofs.Engine.Capturing
import HttpRouting.Proofs.Regex.Extension

/-!
# Slots with a literal behind them

Slots with one more literal at their end are read as the same nodes with one
more character, and their holes have the same groups.  So an entry for them
finds in a text with this character at its end what an entry for the slots alone
finds in the text without it.
-/

namespace HttpRouting.Engine

open Regex (Node Cursor)

namespace Slot

/-! ## Nodes -/

variable {count : Nat} {slots : List Slot} {nodes : List Node} {groups : List Nat}

theorem Composes.append_literal (h : Composes count slots nodes groups) (c : Char) :
    Composes count (slots ++ [.literal c]) (nodes ++ [.literal c.toNat]) groups := by
  induction h with
  | nil => exact .literal .nil
  | literal _ ih => exact .literal ih
  | hole hbody hlanguage hcount hbinds hplaced _ ih =>
      rw [List.cons_append, List.append_assoc]
      exact .hole hbody hlanguage hcount hbinds hplaced ih

theorem Composes.unique (h : Composes count slots nodes groups) {others : List Node}
    {otherGroups : List Nat} (hother : Composes count slots others otherGroups) :
    nodes = others ∧ groups = otherGroups := by
  induction h generalizing others otherGroups with
  | nil =>
      cases hother
      exact ⟨rfl, rfl⟩
  | literal _ ih =>
      cases hother with
      | literal hother =>
          obtain ⟨rfl, rfl⟩ := ih hother
          exact ⟨rfl, rfl⟩
  | hole _ _ _ _ hplaced _ ih =>
      cases hother with
      | hole _ _ _ _ hplaced' hother =>
          obtain ⟨rfl, rfl⟩ := Prod.mk.inj (hplaced.symm.trans hplaced')
          obtain ⟨rfl, rfl⟩ := ih hother
          exact ⟨rfl, rfl⟩

end Slot

open Slot

/-! ## Compiled slots -/

/--
An entry for slots with a literal behind them finds in a text with this
character behind it what an entry for the slots finds in the text alone.
-/
theorem firstHit_append_literal {α : Type} {slots : List Slot}
    (hplain : ∀ regex ∈ regexes slots, Regex.Expression.IsPlainText regex) {c : Char}
    {pattern other : String} {compiled longer : CompiledPattern}
    (hcompiled : Slot.compile pattern slots = .ok compiled)
    (hlonger : Slot.compile other (slots ++ [.literal c]) = .ok longer) (methods : List String)
    (target : α) (name : Option String) (method : String) (rest : List Char) :
    firstHit method (rest ++ [c]) [⟨methods, other, longer, target, name⟩] =
      firstHit method rest [⟨methods, pattern, compiled, target, name⟩] := by
  obtain ⟨e, nodes, groups, hcompile, hnode, hflags, hnames, hcomposes⟩ :=
    exists_compiled hplain pattern
  obtain ⟨e', nodes', groups', hcompile', hnode', hflags', hnames', hcomposes'⟩ :=
    exists_compiled (by rwa [regexes_append_literal slots c]) other
  obtain ⟨rfl, rfl⟩ := hcomposes'.unique (hcomposes.append_literal c)
  obtain rfl := Except.ok.inj (hcompile.symm.trans hcompiled)
  obtain rfl := Except.ok.inj (hcompile'.symm.trans hlonger)
  have hrel := Node.rel_run_atStart (Regex.Reader.isPlain_ofList.mpr hcomposes.isPlain) c rest
  have hmatch := hcomposes.fullMatch hnode hflags rest
  have hmatch' := hcomposes'.fullMatch hnode' hflags' (rest ++ [c])
  rw [run_ofList_append,
    show Node.ofList [Node.literal c.toNat] = Node.literal c.toNat from rfl] at hmatch'
  have hcaptures {cursor longerCursor : Cursor}
      (hgroups : ∀ group, longerCursor.group? group = cursor.group? group) :
      e'.captures longerCursor = e.captures cursor := by
    rw [Regex.Expression.captures, Regex.Expression.captures, hnames, hnames']
    simp only [hgroups]
  generalize (Node.ofList nodes).run {} (.atStart rest) Regex.Expression.atEnd = answer at hrel hmatch
  generalize (Node.ofList nodes).run {} (.atStart (rest ++ [c])) _ = longerAnswer at hrel hmatch'
  simp only [firstHit, Entry.fits?, hmatch, hmatch']
  split
  next =>
    cases hrel with
    | none => rfl
    | some hgroups =>
        simp only [Except.mapError, bind, Except.bind, Entry.hit, hcaptures hgroups,
          groupsFrom_append_literal]
  next => rfl

end HttpRouting.Engine
