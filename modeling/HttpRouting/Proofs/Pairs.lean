import HttpRouting.Pairs
import Mathlib.Data.List.Nodup

/-!
# Lookups in ordered maps

Binding a list of entries makes its last binding of each key win.  A map that
extends another keeps all of its bindings, which is what happens to a map when
only new keys are bound.
-/

namespace HttpRouting.Pairs

variable {α : Type}

/-! ## Entries -/

@[simp] theorem find?_empty (key : String) : (∅ : Pairs α).find? key = none := rfl

theorem valueOf?_append (key : String) (first second : List (String × α)) :
    valueOf? key (first ++ second) =
      (valueOf? key first).or (valueOf? key second) := by
  induction first with
  | nil => rfl
  | cons entry rest ih =>
      by_cases hkey : entry.1 = key <;> simp [valueOf?, hkey, ih]

theorem valueOf?_eq_none {key : String} {entries : List (String × α)}
    (h : ∀ entry ∈ entries, entry.1 ≠ key) : valueOf? key entries = none := by
  induction entries with
  | nil => rfl
  | cons entry rest ih =>
      rw [valueOf?, if_neg (h entry (by simp))]
      exact ih fun other hother => h other (by simp [hother])

theorem mem_of_valueOf? {key : String} {value : α} {entries : List (String × α)}
    (h : valueOf? key entries = some value) : (key, value) ∈ entries := by
  induction entries with
  | nil => simp [valueOf?] at h
  | cons entry rest ih =>
      by_cases hkey : entry.1 = key
      · rw [valueOf?, if_pos hkey, Option.some.injEq] at h
        subst hkey h
        exact List.mem_cons_self
      · rw [valueOf?, if_neg hkey] at h
        exact List.mem_cons_of_mem _ (ih h)

theorem valueOf?_ne_none_of_mem {key : String} {value : α} {entries : List (String × α)}
    (h : (key, value) ∈ entries) : valueOf? key entries ≠ none := by
  induction entries with
  | nil => simp at h
  | cons entry rest ih =>
      by_cases hkey : entry.1 = key
      · simp [valueOf?, hkey]
      · rw [valueOf?, if_neg hkey]
        refine ih ((List.mem_cons.mp h).resolve_left ?_)
        rintro rfl
        exact hkey rfl

theorem valueOf?_of_mem {key : String} {value : α} {entries : List (String × α)}
    (hnodup : (entries.map Prod.fst).Nodup) (h : (key, value) ∈ entries) :
    valueOf? key entries = some value := by
  induction entries with
  | nil => simp at h
  | cons entry rest ih =>
      rw [List.map_cons, List.nodup_cons] at hnodup
      rcases List.mem_cons.mp h with rfl | hrest
      · simp [valueOf?]
      · have hne : entry.1 ≠ key := by
          rintro rfl
          exact hnodup.1 (List.mem_map.mpr ⟨_, hrest, rfl⟩)
        rw [valueOf?, if_neg hne]
        exact ih hnodup.2 hrest

theorem find?_eq_none_iff {p : Pairs α} {key : String} : p.find? key = none ↔ key ∉ p.keys := by
  constructor
  · intro h hkey
    obtain ⟨entry, hentry, rfl⟩ := List.mem_map.mp hkey
    exact valueOf?_ne_none_of_mem hentry h
  · intro h
    exact valueOf?_eq_none fun entry hentry heq => h (heq ▸ List.mem_map_of_mem hentry)

theorem mem_of_find? {p : Pairs α} {key : String} {value : α}
    (h : p.find? key = some value) : (key, value) ∈ p.entries :=
  mem_of_valueOf? h

theorem find?_map {β : Type} (f : α → β) (p : Pairs α) (key : String) :
    (p.map f).find? key = (p.find? key).map f := by
  obtain ⟨entries⟩ := p
  change valueOf? key (entries.map fun entry => (entry.1, f entry.2)) =
    (valueOf? key entries).map f
  induction entries with
  | nil => rfl
  | cons entry rest ih => by_cases hkey : entry.1 = key <;> simp [valueOf?, hkey, ih]

/-! ## Binding lists of entries -/

theorem find?_insertAll (p : Pairs α) (entries : List (String × α)) (key : String) :
    (p.insertAll entries).find? key =
      (valueOf? key entries.reverse).or (p.find? key) := by
  induction entries generalizing p with
  | nil => simp [insertAll, valueOf?]
  | cons entry rest ih =>
      have hstep : p.insertAll (entry :: rest) = (p.insert entry.1 entry.2).insertAll rest := rfl
      rw [hstep, ih, List.reverse_cons, valueOf?_append, Option.or_assoc, find?_insert]
      by_cases hkey : key = entry.1
      · simp [valueOf?, hkey]
      · simp [valueOf?, hkey, Ne.symm hkey]

theorem find?_ofList (entries : List (String × α)) (key : String) :
    (ofList entries).find? key = valueOf? key entries.reverse := by
  rw [ofList, find?_insertAll, find?_empty, Option.or_none]

theorem mem_of_find?_ofList {key : String} {value : α} {entries : List (String × α)}
    (h : (ofList entries).find? key = some value) : (key, value) ∈ entries := by
  rw [find?_ofList] at h
  have hmem := mem_of_valueOf? h
  exact List.mem_reverse.mp hmem

theorem find?_ofList_of_mem {key : String} {value : α} {entries : List (String × α)}
    (hnodup : (entries.map Prod.fst).Nodup) (h : (key, value) ∈ entries) :
    (ofList entries).find? key = some value := by
  rw [find?_ofList]
  refine valueOf?_of_mem ?_ (by simpa using h)
  rwa [List.map_reverse, List.nodup_reverse]

theorem find?_ofList_eq_none {key : String} {entries : List (String × α)}
    (h : ∀ entry ∈ entries, entry.1 ≠ key) : (ofList entries).find? key = none := by
  rw [find?_ofList]
  exact valueOf?_eq_none fun entry hentry => h entry (by simpa using hentry)

theorem insertEntry_of_forall_ne {key : String} {value : α} {entries : List (String × α)}
    (h : ∀ entry ∈ entries, entry.1 ≠ key) :
    insertEntry key value entries = entries ++ [(key, value)] := by
  induction entries with
  | nil => rfl
  | cons entry rest ih =>
      rw [List.forall_mem_cons] at h
      rw [insertEntry, if_neg h.1, ih h.2, List.cons_append]

theorem insertAll_entries {p : Pairs α} {entries : List (String × α)}
    (hnodup : ((p.entries ++ entries).map Prod.fst).Nodup) :
    (p.insertAll entries).entries = p.entries ++ entries := by
  induction entries generalizing p with
  | nil => simp [insertAll]
  | cons entry rest ih =>
      have hinsert : (p.insert entry.1 entry.2).entries = p.entries ++ [entry] := by
        refine insertEntry_of_forall_ne fun other hother heq => ?_
        simp only [List.map_append, List.map_cons, List.nodup_append, List.mem_map,
          List.mem_cons] at hnodup
        exact hnodup.2.2 _ ⟨other, hother, rfl⟩ _ (.inl rfl) heq
      have hstep : p.insertAll (entry :: rest) = (p.insert entry.1 entry.2).insertAll rest := rfl
      rw [hstep, ih (by simpa [hinsert] using hnodup), hinsert]
      simp

theorem ofList_entries {entries : List (String × α)}
    (hnodup : (entries.map Prod.fst).Nodup) : (ofList entries).entries = entries := by
  rw [ofList, insertAll_entries (by simpa [EmptyCollection.emptyCollection] using hnodup)]
  rfl

theorem find?_merge_of_mem {p q : Pairs α} {key : String} {value : α}
    (hnodup : q.keys.Nodup) (h : (key, value) ∈ q.entries) :
    (p.merge q).find? key = some value := by
  have hfound : valueOf? key q.entries.reverse = some value := by
    refine valueOf?_of_mem ?_ (by simpa using h)
    rwa [List.map_reverse, List.nodup_reverse]
  rw [merge, find?_insertAll, hfound, Option.some_or]

/-! ## Extensions -/

/-- All bindings of the first map are bindings of the second. -/
def Extends (p q : Pairs α) : Prop :=
  ∀ key value, p.find? key = some value → q.find? key = some value

theorem Extends.refl (p : Pairs α) : p.Extends p := fun _ _ h => h

theorem Extends.trans {p q r : Pairs α} (hpq : p.Extends q) (hqr : q.Extends r) :
    p.Extends r :=
  fun key value h => hqr key value (hpq key value h)

theorem extends_merge {p q : Pairs α} (h : ∀ entry ∈ q.entries, p.find? entry.1 = none) :
    p.Extends (p.merge q) := by
  intro key value hkey
  have hfree : valueOf? key q.entries.reverse = none := by
    refine valueOf?_eq_none fun entry hentry heq => ?_
    have := h entry (by simpa using hentry)
    simp_all
  rw [merge, find?_insertAll, hfree, Option.none_or, hkey]

theorem extends_of_entries {p q : Pairs α} {more : List (String × α)}
    (h : q.entries = p.entries ++ more) : p.Extends q := by
  intro key value hkey
  rw [find?] at hkey
  rw [find?, h, valueOf?_append, hkey, Option.some_or]

end HttpRouting.Pairs
