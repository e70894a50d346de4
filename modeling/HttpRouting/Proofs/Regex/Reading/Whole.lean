import HttpRouting.Proofs.Regex.Reading.Simulation

/-!
# Whole expressions

Reading a text as an expression succeeds when its alternatives have been read to
the end and the whole tree passes the checks, which plain trees always do.  The
text of a plain expression can be put in parentheses inside another expression,
where it matches the same words.
-/

namespace HttpRouting.Regex

/-! ## Checks on plain trees -/

namespace Node

variable {n : Node} (h : n.isPlain)

include h

theorem fault?_of_isPlain : n.fault? false = none := by
  induction n with
  | seq first second ihfirst ihsecond | alt first second ihfirst ihsecond =>
      rw [isPlain, Bool.and_eq_true] at h
      rw [fault?, ihfirst h.1, ihsecond h.2]
      rfl
  | loop greed least most body ih =>
      rw [isPlain, Bool.and_eq_true] at h
      exact ih h.2
  | group index body ih => exact ih h
  | empty | chars _ _ | any => rfl
  | _ => simp [isPlain] at h

theorem looksTooFar_of_isPlain : n.looksTooFar = false := by
  induction n with
  | seq first second ihfirst ihsecond | alt first second ihfirst ihsecond =>
      rw [isPlain, Bool.and_eq_true] at h
      rw [looksTooFar, ihfirst h.1, ihsecond h.2]
      rfl
  | loop greed least most body ih =>
      rw [isPlain, Bool.and_eq_true] at h
      exact ih h.2
  | group index body ih => exact ih h
  | empty | chars _ _ | any => rfl
  | _ => simp [isPlain] at h

theorem needsTrail_of_isPlain : n.needsTrail = false := by
  induction n with
  | seq first second ihfirst ihsecond | alt first second ihfirst ihsecond =>
      rw [isPlain, Bool.and_eq_true] at h
      rw [needsTrail, ihfirst h.1, ihsecond h.2]
      rfl
  | loop greed least most body ih =>
      rw [isPlain, Bool.and_eq_true, bne_iff_ne] at h
      rw [needsTrail, ih h.2, beq_eq_false_iff_ne.mpr h.1]
      rfl
  | group index body ih => exact ih h
  | empty | chars _ _ | any => rfl
  | _ => simp [isPlain] at h

end Node

/-! ## Reading to the end -/

namespace Expression

variable {text : List Char} {nodes : List Node} {last : Source}

theorem read_eq_ok {e : Expression} (h : read text = .ok e) :
    ∃ nodes last, text ≠ ['\\'] ∧
      (Reader.alternatives (3 * text.length + 4) false true).run { rest := text } =
        .ok (nodes, last) ∧
      last.rest = [] ∧ e.node = .ofList nodes ∧ e.flags = last.flags ∧
      e.names = last.names.map fun (name, index) => (.ofList name, index) := by
  unfold read Reader.start at h
  by_cases htext : text = ['\\']
  · simp [htext, Source.moveTo, bind, Except.bind, Except.mapError] at h
  · rw [Source.moveTo, if_neg htext] at h
    cases hrun : (Reader.alternatives (3 * text.length + 4) false true).run { rest := text } with
    | error stop => simp [bind, Except.bind, hrun, Except.mapError] at h
    | ok answer =>
        obtain ⟨nodes, last⟩ := answer
        refine ⟨nodes, last, htext, rfl, ?_⟩
        simp only [bind, Except.bind, hrun, Except.mapError] at h
        split at h
        next => simp [throw, throwThe, MonadExceptOf.throw] at h
        next =>
          split at h
          next => simp [throw, throwThe, MonadExceptOf.throw] at h
          next hrest =>
            split at h
            next => simp [throw, throwThe, MonadExceptOf.throw] at h
            next =>
              split at h
              next => simp [throw, throwThe, MonadExceptOf.throw] at h
              next =>
                split at h
                next => simp [throw, throwThe, MonadExceptOf.throw] at h
                next =>
                  cases h
                  exact ⟨by simpa using hrest, rfl, rfl, rfl⟩

theorem read_of_run (htext : text ≠ ['\\'])
    (hrun : (Reader.alternatives (3 * text.length + 4) false true).run { rest := text } =
      .ok (nodes, last))
    (hrest : last.rest = []) (hflags : last.flags = {}) (hconditions : last.conditions = [])
    (hplain : (Node.ofList nodes).isPlain) :
    ∃ e, read text = .ok e ∧ e.node = .ofList nodes ∧ e.flags = {} ∧
      e.names = last.names.map fun (name, index) => (.ofList name, index) := by
  unfold read Reader.start
  rw [Source.moveTo, if_neg htext]
  simp only [bind, Except.bind, hrun, Except.mapError, hrest, hflags, hconditions,
    Node.fault?_of_isPlain hplain, Node.looksTooFar_of_isPlain hplain]
  exact ⟨_, rfl, rfl, rfl, rfl⟩

end Expression

/-! ## Reading in parentheses -/

/-- The node of an expression whose groups are counted on from a number, with the next number. -/
def Expression.placed (count : Nat) (text : List Char) : Node × Nat :=
  match Reader.start text with
  | .ok (nodes, last) => ((Node.ofList nodes).renumber (· + count), last.groupCount + count)
  | .error _ => (.empty, count)

theorem Expression.placed_of_run {text : List Char} {nodes : List Node} {last : Source}
    (htext : text ≠ ['\\'])
    (hrun : (Reader.alternatives (3 * text.length + 4) false true).run { rest := text } =
      .ok (nodes, last)) (count : Nat) :
    placed count text = ((Node.ofList nodes).renumber (· + count), last.groupCount + count) := by
  have hstart : Reader.start text = .ok (nodes, last) := by
    rw [Reader.start, Source.moveTo, if_neg htext]
    exact hrun
  rw [placed, hstart]

-- Reading an expression is never worth the while of a unifier.
attribute [irreducible] Expression.placed

/-- A source at some text, with some names and with neither flags nor conditions. -/
structure Source.IsAt (s : Source) (rest : List Char) (names : List (List Char × Nat)) : Prop where
  rest : s.rest = rest
  flags : s.flags = {}
  conditions : s.conditions = []
  names : s.names = names
  counted : 0 < s.groupCount

/--
A plain expression in parentheses matches the same words, and only makes groups
of its own, which are counted on from those before it.
-/
theorem Reader.run_in_parentheses {regex : List Char} {e : Expression}
    (hread : Expression.read regex = .ok e) (hplain : e.isPlain) {fuel : Nat}
    (hfuel : 3 * regex.length + 4 ≤ fuel) {s : Source} {tail : List Char}
    {names : List (List Char × Nat)} (hs : s.IsAt (regex ++ ')' :: tail) names) (outermost : Bool) :
    ∃ nodes last, (alternatives fuel false outermost).run s = .ok (nodes, last) ∧
      last.IsAt (')' :: tail) names ∧ s.groupCount ≤ last.groupCount ∧
      (Node.ofList nodes).isPlain ∧ (Node.ofList nodes).language = e.node.language ∧
      (∀ g, (Node.ofList nodes).Binds g → s.groupCount ≤ g ∧ g < last.groupCount) ∧
      Expression.placed (s.groupCount - 1) regex = (.ofList nodes, last.groupCount) := by
  obtain ⟨nodes, last, htext, hrun, hrest, hnode, hflags, hnames⟩ := Expression.read_eq_ok hread
  rw [Expression.isPlain, Bool.and_eq_true, Bool.and_eq_true, beq_iff_eq, List.isEmpty_iff] at hplain
  obtain ⟨⟨hnone, hunnamed⟩, hnodes⟩ := hplain
  have hbare : last.IsBare := by
    refine ⟨hflags.symm.trans hnone, ?_⟩
    rw [hnames, List.map_eq_nil_iff] at hunnamed
    exact hunnamed
  rw [hnode] at hnodes
  have hcounted := hs.counted
  have hembeds : Embeds (s.groupCount - 1) names tail { rest := regex } s := by
    refine ⟨⟨htext, hs.rest⟩, Nat.one_pos, ?_, hs.flags, hs.names, hs.conditions⟩
    simp only [Source.groupCount, List.length_singleton] at hcounted ⊢
    omega
  obtain ⟨last', hrun', hlast, hle, hnumbered⟩ :=
    (simulates (s.groupCount - 1) hfuel).alternatives true outermost names tail _ s nodes last
      hembeds (by simp [AreNumbered]) hrun hbare (isPlain_ofList.mp hnodes)
  have hcount := hlast.groups
  refine ⟨_, last', hrun', ⟨by rw [hlast.continues.rest, hrest]; rfl, hlast.flags, hlast.conditions,
    hlast.names, ?_⟩, ?_, ?_, ?_, ?_, ?_⟩
  · have := hlast.counted
    omega
  · have : (Source.groupCount { rest := regex }) = 1 := rfl
    omega
  · rw [Node.renumber_ofList, Node.isPlain_renumber]
    exact hnodes
  · rw [Node.renumber_ofList, Node.language_renumber, hnode]
  · intro g hg
    rw [Node.renumber_ofList] at hg
    obtain ⟨i, hi, rfl⟩ := Node.binds_renumber _ hg
    obtain ⟨n, hn, hni⟩ := Node.binds_ofList.mp hi
    have := hnumbered n hn i hni
    omega
  · rw [Expression.placed_of_run htext hrun, Node.renumber_ofList, hcount]

end HttpRouting.Regex
