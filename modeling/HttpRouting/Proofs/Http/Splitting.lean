import HttpRouting.Http.Query

/-!
# Splitting at a separator

The parts of a text are free of the separator, and putting the separator
between them writes the text again.  A text is split into two parts exactly if
it has the separator once.  If only its first separator counts, it is split at
the end of the longest beginning without one.
-/

namespace HttpRouting.Http

theorem splitOn_eq_cons {separator : Char} {s part : List Char} {parts : List (List Char)}
    (h : splitOn separator s = part :: parts) :
    (parts = [] ∧ s = part) ∨
      ∃ rest, s = part ++ separator :: rest ∧ splitOn separator rest = parts := by
  induction s generalizing part with
  | nil =>
      simp only [splitOn, List.cons.injEq] at h
      exact .inl ⟨h.2.symm, h.1⟩
  | cons c s ih =>
      rw [splitOn] at h
      split at h
      next hc =>
        simp only [List.cons.injEq] at h
        obtain ⟨rfl, rfl⟩ := h
        exact .inr ⟨s, by rw [hc]; rfl, rfl⟩
      next =>
        split at h
        next hnil =>
          simp only [List.cons.injEq] at h
          obtain ⟨rfl, rfl⟩ := h
          cases s with
          | nil => exact .inl ⟨rfl, rfl⟩
          | cons d s =>
              simp only [splitOn] at hnil
              split at hnil
              next => simp at hnil
              next => split at hnil <;> simp at hnil
        next first others hsplit =>
          simp only [List.cons.injEq] at h
          obtain ⟨rfl, rfl⟩ := h
          rcases ih hsplit with ⟨rfl, rfl⟩ | ⟨rest, rfl, hrest⟩
          · exact .inl ⟨rfl, rfl⟩
          · exact .inr ⟨rest, rfl, hrest⟩

theorem splitOn_ne_nil (separator : Char) (s : List Char) : splitOn separator s ≠ [] := by
  cases s with
  | nil => simp [splitOn]
  | cons c s =>
      rw [splitOn]
      split
      next => simp
      next => split <;> simp

theorem not_mem_of_mem_splitOn {separator : Char} {s part : List Char} (h : part ∈ splitOn separator s) :
    separator ∉ part := by
  induction s generalizing part with
  | nil => simp_all [splitOn]
  | cons c s ih =>
      rw [splitOn] at h
      split at h
      next =>
        rcases List.mem_cons.mp h with rfl | h
        · simp
        · exact ih h
      next hc =>
        cases hsplit : splitOn separator s with
        | nil => exact absurd hsplit (splitOn_ne_nil separator s)
        | cons first parts =>
            simp only [hsplit] at h ih
            rcases List.mem_cons.mp h with rfl | h
            · simp [Ne.symm hc, ih List.mem_cons_self]
            · exact ih (List.mem_cons_of_mem _ h)

theorem splitOn_of_not_mem {separator : Char} {s : List Char} (h : separator ∉ s) :
    splitOn separator s = [s] := by
  cases hsplit : splitOn separator s with
  | nil => exact absurd hsplit (splitOn_ne_nil separator s)
  | cons part parts =>
      rcases splitOn_eq_cons hsplit with ⟨rfl, rfl⟩ | ⟨rest, rfl, -⟩
      · rfl
      · simp at h

theorem splitOn_append {separator : Char} {part : List Char} (h : separator ∉ part)
    (rest : List Char) : splitOn separator (part ++ separator :: rest) = part :: splitOn separator rest := by
  induction part with
  | nil => simp [splitOn]
  | cons c part ih =>
      rw [List.mem_cons, not_or] at h
      rw [List.cons_append, splitOn, if_neg (Ne.symm h.1), ih h.2]

theorem splitOn_eq_pair_iff {separator : Char} {s left right : List Char} :
    splitOn separator s = [left, right] ↔
      s = left ++ separator :: right ∧ separator ∉ left ∧ separator ∉ right := by
  constructor
  · intro h
    have hfree : ∀ part ∈ [left, right], separator ∉ part := fun part hpart =>
      not_mem_of_mem_splitOn (h ▸ hpart)
    rcases splitOn_eq_cons h with ⟨hnil, -⟩ | ⟨rest, rfl, hrest⟩
    · simp at hnil
    rcases splitOn_eq_cons hrest with ⟨-, rfl⟩ | ⟨more, -, hmore⟩
    · exact ⟨rfl, hfree left (by simp), hfree rest (by simp)⟩
    · exact absurd hmore (splitOn_ne_nil separator more)
  · rintro ⟨rfl, hleft, hright⟩
    rw [splitOn_append hleft, splitOn_of_not_mem hright]

/-! ## The first separator -/

theorem splitFirst_eq (separator : Char) (s : List Char) :
    (splitFirst separator s).1 = s.takeWhile (· != separator) ∧
      ((splitFirst separator s).2 = none → s.takeWhile (· != separator) = s) := by
  induction s with
  | nil => exact ⟨rfl, fun _ => rfl⟩
  | cons c rest ih =>
      rw [splitFirst]
      by_cases hc : c = separator
      · rw [if_pos hc, List.takeWhile_cons_of_neg (by simpa using hc)]
        simp
      · rw [if_neg hc, List.takeWhile_cons_of_pos (by simpa using hc)]
        exact ⟨congrArg (c :: ·) ih.1, fun hnone => congrArg (c :: ·) (ih.2 hnone)⟩

theorem splitFirst_append {separator : Char} {s : List Char} (h : separator ∉ s)
    (rest : List Char) : splitFirst separator (s ++ separator :: rest) = (s, some rest) := by
  induction s with
  | nil => simp [splitFirst]
  | cons c s ih =>
      rw [List.mem_cons, not_or] at h
      rw [List.cons_append, splitFirst, if_neg (Ne.symm h.1), ih h.2]

theorem splitQuery_append {path : String} (h : '?' ∉ path.toList) (query : String) :
    splitQuery (path ++ "?" ++ query) = (path, parseQuery query) := by
  have hchars : (path ++ "?" ++ query).toList = path.toList ++ '?' :: query.toList := by simp
  rw [splitQuery, hchars, splitFirst_append h]
  dsimp only
  rw [String.ofList_toList]
  rfl

end HttpRouting.Http
