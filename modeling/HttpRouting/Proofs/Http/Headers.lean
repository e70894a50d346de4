import HttpRouting.Http.Headers

/-!
# Headers by name

A lookup finds nothing just if no header has the name in any spelling.  The
order of the headers counts only where several have it.
-/

namespace HttpRouting.Http

variable {α : Type} {name : String} {entries : List (String × α)} {headers : Pairs α}

theorem headerOf?_eq_none_iff :
    headerOf? name entries = none ↔
      ∀ entry ∈ entries, Text.lower entry.1 ≠ Text.lower name := by
  induction entries with
  | nil => simp [headerOf?]
  | cons entry rest ih =>
      rw [headerOf?, List.forall_mem_cons, ← ih]
      split <;> simp_all

theorem headerOf?_of_mem {entry : String × α} (hmem : entry ∈ entries)
    (hname : Text.lower entry.1 = Text.lower name)
    (hunique : ∀ other ∈ entries, Text.lower other.1 = Text.lower name → other.2 = entry.2) :
    headerOf? name entries = some entry.2 := by
  induction entries with
  | nil => simp at hmem
  | cons first rest ih =>
      rw [List.forall_mem_cons] at hunique
      rw [headerOf?]
      split
      next hfirst => rw [hunique.1 hfirst]
      next hfirst =>
        refine ih ((List.mem_cons.mp hmem).resolve_left ?_) hunique.2
        rintro rfl
        exact hfirst hname

theorem findHeader?_eq_none_iff :
    findHeader? headers name = none ↔
      ∀ header ∈ headers.entries, Text.lower header.1 ≠ Text.lower name :=
  headerOf?_eq_none_iff

theorem findHeader?_of_mem {key : String} {value : α} (hmem : (key, value) ∈ headers.entries)
    (hname : Text.lower key = Text.lower name)
    (hunique : ∀ other ∈ headers.entries, Text.lower other.1 = Text.lower name → other.2 = value) :
    findHeader? headers name = some value :=
  headerOf?_of_mem hmem hname hunique

end HttpRouting.Http
