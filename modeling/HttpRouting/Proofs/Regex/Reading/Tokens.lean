import HttpRouting.Regex.Source

/-!
# Reading token by token

What a successful reader has gone through: the readers that it is made of have
succeeded one after the other, and every token that it has stepped over was at
the front of the text.  Behind a token there is never a lone backslash.
-/

namespace HttpRouting.Regex

/-- The source at another place. -/
def Source.at (s : Source) (rest : List Char) (index : Nat) : Source :=
  { s with rest := rest, index := index }

namespace Reader

variable {α β : Type}

/-! ## Success and failure -/

theorem run_bind_eq_ok {m : Reader α} {f : α → Reader β} {s last : Source} {y : β}
    (h : (m >>= f).run s = .ok (y, last)) :
    ∃ x middle, m.run s = .ok (x, middle) ∧ (f x).run middle = .ok (y, last) := by
  rw [StateT.run_bind] at h
  cases hm : m.run s with
  | error stop => simp [hm, bind, Except.bind] at h
  | ok first => exact ⟨first.1, first.2, rfl, by simpa [hm, bind, Except.bind] using h⟩

theorem run_bind_of_ok {m : Reader α} {s middle : Source} {x : α} (h : m.run s = .ok (x, middle))
    (f : α → Reader β) : (m >>= f).run s = (f x).run middle := by
  rw [StateT.run_bind, h]
  rfl

theorem run_pure_eq_ok {x y : α} {s last : Source} (h : (pure x : Reader α).run s = .ok (y, last)) :
    y = x ∧ last = s := by
  cases h
  exact ⟨rfl, rfl⟩

def Fails (m : Reader α) : Prop := ∀ s x last, m.run s ≠ .ok (x, last)

theorem fails_throw (stop : Stop) : Fails (throw stop : Reader α) := by
  intro s x last h
  simp [StateT.run, throw, throwThe, MonadExceptOf.throw, StateT.lift, bind, Except.bind] at h

theorem Fails.bind {m : Reader α} (h : Fails m) (f : α → Reader β) : Fails (m >>= f) := by
  intro s y last hrun
  obtain ⟨x, middle, hm, -⟩ := run_bind_eq_ok hrun
  exact h s x middle hm

theorem fails_bind (m : Reader α) {f : α → Reader β} (h : ∀ x, Fails (f x)) : Fails (m >>= f) := by
  intro s y last hrun
  obtain ⟨x, middle, -, hf⟩ := run_bind_eq_ok hrun
  exact h x middle y last hf

theorem fails_fail (fault : Fault) (back : Nat) : Fails (fail fault back : Reader α) :=
  fails_bind _ fun _ => fails_throw _

/-! ## Tokens -/

theorem run_peek (s : Source) : peek.run s = .ok (s.peek, s) := rfl

theorem run_next (s : Source) : next.run s = s.advance.map fun last => (s.peek, last) := by
  have hrun : next.run s = s.advance >>= fun last => pure (s.peek, last) := by
    simp only [next, StateT.run_bind, StateT.run_get, StateT.run_monadLift, StateT.run_set,
      StateT.run_pure, pure_bind, bind_assoc, monadLift_self]
  rw [hrun]
  cases s.advance <;> rfl

section

variable {s : Source} {c : Char} {rest : List Char}

theorem peek_nil (h : s.rest = []) : s.peek = none := by
  rw [Source.peek, h]

theorem peek_escape (h : s.rest = '\\' :: c :: rest) : s.peek = some ['\\', c] := by
  simp [Source.peek, h]

theorem peek_char (hc : c ≠ '\\') (h : s.rest = c :: rest) : s.peek = some [c] := by
  unfold Source.peek
  rw [h]
  split <;> simp_all

theorem run_next_nil (h : s.rest = []) : next.run s = .ok (none, s) := by
  rw [run_next, peek_nil h, Source.advance, h]
  rfl

theorem run_moveTo (hrest : rest ≠ ['\\']) (count : Nat) :
    s.moveTo rest count = .ok (s.at rest (s.index + count)) := by
  rw [Source.moveTo, if_neg hrest]
  rfl

theorem run_next_escape (h : s.rest = '\\' :: c :: rest) (hrest : rest ≠ ['\\']) :
    next.run s = .ok (some ['\\', c], s.at rest (s.index + 2)) := by
  rw [run_next, peek_escape h, Source.advance, h]
  simp only [run_moveTo hrest]
  rfl

theorem run_next_char (hc : c ≠ '\\') (h : s.rest = c :: rest) (hrest : rest ≠ ['\\']) :
    next.run s = .ok (some [c], s.at rest (s.index + 1)) := by
  rw [run_next, peek_char hc h]
  unfold Source.advance
  rw [h]
  split
  next heq => simp at heq
  next heq => simp_all
  next heq =>
    obtain ⟨-, rfl⟩ := List.cons.inj heq
    rw [run_moveTo hrest]
    rfl

end

theorem token_cases (rest : List Char) :
    rest = [] ∨ rest = ['\\'] ∨ (∃ c more, rest = '\\' :: c :: more) ∨
      ∃ c more, c ≠ '\\' ∧ rest = c :: more := by
  rcases rest with _ | ⟨c, _ | ⟨d, more⟩⟩
  · simp
  · by_cases hc : c = '\\' <;> simp [hc]
  · by_cases hc : c = '\\' <;> simp [hc]

theorem rest_of_peek_none {s : Source} (hs : s.rest ≠ ['\\']) (h : s.peek = none) : s.rest = [] := by
  rcases token_cases s.rest with hrest | hrest | ⟨c, more, hrest⟩ | ⟨c, more, hc, hrest⟩
  · exact hrest
  · exact absurd hrest hs
  · simp [peek_escape hrest] at h
  · simp [peek_char hc hrest] at h

theorem next_eq_ok {s last : Source} {token? : Option Token} (hs : s.rest ≠ ['\\'])
    (h : next.run s = .ok (token?, last)) :
    s.rest = [] ∧ token? = none ∧ last = s ∨
      ∃ token rest i, token? = some token ∧ s.peek = some token ∧ token ≠ [] ∧
        s.rest = token ++ rest ∧ rest ≠ ['\\'] ∧ last = s.at rest i := by
  have hmove {token rest : List Char} {count : Nat}
      (h : (s.moveTo rest count).map (fun last => (some token, last)) = .ok (token?, last)) :
      token? = some token ∧ rest ≠ ['\\'] ∧ last = s.at rest (s.index + count) := by
    by_cases hrest : rest = ['\\']
    · simp [Source.moveTo, hrest, Except.map] at h
    · rw [run_moveTo hrest] at h
      cases h
      exact ⟨rfl, hrest, rfl⟩
  rw [run_next] at h
  rcases token_cases s.rest with hrest | hrest | ⟨c, rest, hrest⟩ | ⟨c, rest, hc, hrest⟩
  · rw [← run_next, run_next_nil hrest] at h
    cases h
    exact .inl ⟨hrest, rfl, rfl⟩
  · exact absurd hrest hs
  · rw [peek_escape hrest, Source.advance, hrest] at h
    obtain ⟨htoken, hmore, hlast⟩ := hmove h
    exact .inr ⟨_, rest, _, htoken, peek_escape hrest, by simp, by simp [hrest], hmore, hlast⟩
  · have hadvance : s.advance = s.moveTo rest 1 := by
      unfold Source.advance
      rw [hrest]
      split <;> simp_all
    rw [peek_char hc hrest, hadvance] at h
    obtain ⟨htoken, hmore, hlast⟩ := hmove h
    exact .inr ⟨_, rest, _, htoken, peek_char hc hrest, by simp, by simp [hrest], hmore, hlast⟩

theorem next_append {s s' : Source} {token tail : List Char} (hs : s.rest ≠ ['\\'])
    (h : s.peek = some token) (hrest : s'.rest = s.rest ++ tail) :
    s'.peek = some token ∧ ∀ rest, s.rest = token ++ rest → rest ++ tail ≠ ['\\'] →
      ∃ j, next.run s' = .ok (some token, s'.at (rest ++ tail) j) := by
  rcases token_cases s.rest with heq | heq | ⟨c, more, heq⟩ | ⟨c, more, hc, heq⟩
  · rw [peek_nil heq] at h
    simp at h
  · exact absurd heq hs
  · rw [peek_escape heq, Option.some.injEq] at h
    subst h
    rw [heq] at hrest
    refine ⟨peek_escape hrest, fun rest hsplit hnext => ?_⟩
    obtain rfl : more = rest := by simpa [heq] using hsplit
    exact ⟨_, run_next_escape hrest hnext⟩
  · rw [peek_char hc heq, Option.some.injEq] at h
    subst h
    rw [heq] at hrest
    refine ⟨peek_char hc hrest, fun rest hsplit hnext => ?_⟩
    obtain rfl : more = rest := by simpa [heq] using hsplit
    exact ⟨_, run_next_char hc hrest hnext⟩

end Reader

end HttpRouting.Regex
