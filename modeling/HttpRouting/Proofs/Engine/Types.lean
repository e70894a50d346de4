import HttpRouting.Proofs.Engine.Permanence

/-!
# Types that are bound once

Of all calls on an engine only those that are for it bind types.  If the names
that come are all different, and different from those that an engine knows, the
types stand in it behind each other in the order in which they have come, and
none of them is ever bound anew.
-/

namespace HttpRouting.Engine

variable {α : Type} {e : Engine α}

/-! ## New names -/

/-- The names of the types that calls bind are all different, and new to the engine. -/
def BindsOnlyNew (e : Engine α) (calls : List (Call α)) : Prop :=
  (e.types.keys ++ (calls.filterMap Call.types?).flatMap Pairs.keys).Nodup

theorem types_perform (h : e.IsSettled) (call : Call α) :
    (call.perform e).2.types = (call.types?.map e.types.merge).getD e.types := by
  cases call with
  | addTypes types => rfl
  | map methods pattern target name =>
      cases hmap : e.map methods pattern target name with
      | error error => simp [Call.perform, Call.types?, hmap]
      | ok next => simp [Call.perform, Call.types?, hmap, types_of_map hmap]
  | search path method => simp [Call.perform, Call.types?, h.search]
  | generate name params => rfl

theorem types_after (h : e.IsSettled) {calls : List (Call α)} (hnew : e.BindsOnlyNew calls) :
    (e.after calls).types.entries =
      e.types.entries ++ (calls.filterMap Call.types?).flatMap Pairs.entries := by
  induction calls generalizing e with
  | nil => exact (List.append_nil _).symm
  | cons call rest ih =>
      have hstep : e.after (call :: rest) = (call.perform e).2.after rest := rfl
      have htypes := types_perform h call
      rw [BindsOnlyNew] at hnew
      cases hcall : call.types? with
      | none =>
          rw [List.filterMap_cons_none hcall] at hnew ⊢
          rw [hcall] at htypes
          rw [hstep, ih (h.perform call) (by rwa [BindsOnlyNew, htypes]), htypes]
          rfl
      | some types =>
          rw [List.filterMap_cons_some hcall, List.flatMap_cons, ← List.append_assoc] at hnew ⊢
          rw [hcall] at htypes
          have hentries : (call.perform e).2.types.entries = e.types.entries ++ types.entries := by
            rw [htypes]
            refine Pairs.insertAll_entries ?_
            rw [List.map_append]
            exact (List.nodup_append.mp hnew).1
          -- What the call binds moves to the engine, so the rest is new to the next one.
          rw [hstep, ih (h.perform call) ?_, hentries]
          rwa [BindsOnlyNew, Pairs.keys, hentries, List.map_append]

theorem BindsOnlyNew.split (h : e.IsSettled) {before after : List (Call α)}
    (hnew : e.BindsOnlyNew (before ++ after)) :
    e.BindsOnlyNew before ∧ (e.after before).BindsOnlyNew after := by
  rw [BindsOnlyNew, List.filterMap_append, List.flatMap_append, ← List.append_assoc] at hnew
  have hbefore : e.BindsOnlyNew before := (List.nodup_append.mp hnew).1
  refine ⟨hbefore, ?_⟩
  rwa [BindsOnlyNew, Pairs.keys, types_after h hbefore, List.map_append, List.map_flatMap]

/-! ## Calls that bind anew -/

/-- No call binds a type that is bound already, so all that is bound stays as it is. -/
structure NeverRebinds (e : Engine α) (calls : List (Call α)) : Prop where
  unbound : ∀ before types after, calls = before ++ .addTypes types :: after →
    ∀ key ∈ types.keys, (e.after before).types.find? key = none
  kept : ∀ before after, calls = before ++ after →
    (e.after before).types.Extends (e.after calls).types

theorem after_append (e : Engine α) (before after : List (Call α)) :
    e.after (before ++ after) = (e.after before).after after :=
  List.foldl_append

theorem BindsOnlyNew.neverRebinds (h : e.Reachable) {calls : List (Call α)}
    (hnew : e.BindsOnlyNew calls) : e.NeverRebinds calls where
  unbound := by
    rintro before types after rfl key hkey
    obtain ⟨-, hlater⟩ := hnew.split h.isSettled
    obtain ⟨-, -, hdisjoint⟩ := List.nodup_append.mp hlater
    rw [Pairs.find?_eq_none_iff]
    intro hbound
    exact hdisjoint key hbound key (by simp [Call.types?, hkey]) rfl
  kept := by
    rintro before after rfl
    obtain ⟨-, hlater⟩ := hnew.split h.isSettled
    rw [after_append]
    exact Pairs.extends_of_entries (types_after (h.after before).isSettled hlater)

end HttpRouting.Engine
