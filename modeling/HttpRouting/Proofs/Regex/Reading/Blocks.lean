import HttpRouting.Proofs.Regex.Reading.Whole

/-!
# Literal text and named groups

How a sequence goes on over text that stands for itself, over a named group
around a plain expression, and over a group that may be left out.  None of them
depends on what the sequence has read before.
-/

namespace HttpRouting.Regex.Reader

section

variable {s : Source} {rest more : List Char} {names : List (List Char × Nat)}

theorem isAt_at (h : s.IsAt rest names) (more : List Char) (i : Nat) :
    (s.at more i).IsAt more names :=
  ⟨rfl, h.flags, h.conditions, h.names, h.counted⟩

theorem groupCount_at (s : Source) (rest : List Char) (i : Nat) :
    (s.at rest i).groupCount = s.groupCount := rfl

/-! ## Single characters -/

theorem run_accept_self {c : Char} (hc : c ≠ '\\') (h : s.rest = c :: more) (hmore : more ≠ ['\\']) :
    (accept c).run s = .ok (true, s.at more (s.index + 1)) := by
  unfold accept
  rw [run_bind_of_ok (run_peek s), peek_char hc h, if_pos rfl, run_bind_of_ok (run_next_char hc h hmore)]
  rfl

theorem run_accept_other {c : Char} (h : s.peek ≠ some [c]) : (accept c).run s = .ok (false, s) := by
  unfold accept
  rw [run_bind_of_ok (run_peek s), if_neg h]
  rfl

theorem run_closeParenthesis (h : s.rest = ')' :: more) (hmore : more ≠ ['\\']) (start : Nat) :
    (closeParenthesis start).run s = .ok ((), s.at more (s.index + 1)) := by
  unfold closeParenthesis
  rw [run_bind_of_ok (run_accept_self (by decide) h hmore)]
  rfl

theorem run_moreBranches_close {fuel : Nat} {verbose outermost : Bool} {branches : List (List Node)}
    (h : s.peek ≠ some ['|']) :
    (moreBranches (fuel + 1) verbose outermost branches).run s = .ok (branches, s) := by
  rw [Reader.moreBranches, run_bind_of_ok (run_accept_other h)]
  rfl

theorem run_alternatives {fuel : Nat} {verbose outermost : Bool} {nodes : List Node} {last : Source}
    (hrun : (sequence (fuel + 1) verbose outermost []).run s = .ok (nodes, last))
    (h : last.peek ≠ some ['|']) :
    (alternatives (fuel + 2) verbose outermost).run s = .ok (nodes, last) := by
  rw [Reader.alternatives, run_bind_of_ok hrun, run_bind_of_ok (run_moreBranches_close h)]
  rfl

/-! ## Literal text -/

theorem run_escapeOutside_meta {c : Char} (hc : isMeta c = true) (s : Source) :
    (escapeOutside c).run s = .ok (.literal c.toNat, s) := by
  simp only [isMeta, List.contains_eq_mem, decide_eq_true_eq] at hc
  have hmem : c ∈ ['(', ')', '[', ']', '\x7b', '\x7d', '?', '*', '+', '-', '|', '^', '$', '\\', '.',
      '&', '~', '#', ' ', '\t', '\n', '\r', '\x0b', '\x0c'] := hc
  simp only [List.mem_cons, List.not_mem_nil, or_false] at hmem
  rcases hmem with rfl | rfl | rfl | rfl | rfl | rfl | rfl | rfl | rfl | rfl | rfl | rfl | rfl | rfl |
    rfl | rfl | rfl | rfl | rfl | rfl | rfl | rfl | rfl | rfl <;> rfl

theorem ofChar_of_not_isMeta {c : Char} (hc : isMeta c = false) :
    Item.ofChar c = .node (.literal c.toNat) := by
  have hne (d : Char) (hd : isMeta d = true) : c ≠ d := fun heq => by simp [heq, hd] at hc
  unfold Item.ofChar
  split
  next => exact absurd rfl (hne '[' (by decide))
  next => exact absurd rfl (hne '(' (by decide))
  next => exact absurd rfl (hne '.' (by decide))
  next => exact absurd rfl (hne '^' (by decide))
  next => exact absurd rfl (hne '$' (by decide))
  next =>
    rw [if_neg]
    simp [hne '?' (by decide), hne '*' (by decide), hne '+' (by decide), hne '{' (by decide)]

theorem run_sequence_literal {fuel : Nat} {first : Bool} {parts : List Part} {c : Char}
    (h : s.rest = quoteMeta [c] ++ more) (hmore : more ≠ ['\\']) :
    ∃ i, (sequence (fuel + 1) false first parts).run s =
      (sequence fuel false first (.one (.literal c.toNat) :: parts)).run (s.at more i) := by
  cases hc : isMeta c with
  | true =>
      have hrest : s.rest = '\\' :: c :: more := by simpa [quoteMeta, hc] using h
      refine ⟨s.index + 2, ?_⟩
      rw [run_sequence (peek_escape hrest) (by simp) (by simp) (run_next_escape hrest hmore)]
      exact run_bind_of_ok (run_escapeOutside_meta hc _) _
  | false =>
      have hne (d : Char) (hd : isMeta d = true) : c ≠ d := fun heq => by simp [heq, hd] at hc
      have hrest : s.rest = c :: more := by simpa [quoteMeta, hc] using h
      refine ⟨s.index + 1, ?_⟩
      rw [run_sequence (peek_char (hne '\\' (by decide)) hrest) (by simp [hne '|' (by decide)])
        (by simp [hne ')' (by decide)]) (run_next_char (hne '\\' (by decide)) hrest hmore),
        Item.ofToken, ofChar_of_not_isMeta hc]

/-! ## Openings -/

theorem run_collectUntil {close : Char} (hclose : close ≠ '\\') (what : String) {name : List Char}
    (hname : ∀ c ∈ name, c ≠ '\\' ∧ c ≠ close) (hmore : more ≠ ['\\']) {fuel : Nat}
    (hfuel : name.length < fuel) (before : List Char) (hnonempty : before ++ name ≠ [])
    (h : s.rest = name ++ close :: more) :
    ∃ i, (collectUntil close what fuel before).run s = .ok (before ++ name, s.at more i) := by
  induction name generalizing s fuel before with
  | nil =>
      obtain ⟨fuel, rfl⟩ : ∃ n, fuel = n + 1 := ⟨fuel - 1, by simp at hfuel; omega⟩
      rw [List.append_nil] at hnonempty ⊢
      refine ⟨s.index + 1, ?_⟩
      rw [collectUntil, run_bind_of_ok (run_next_char hclose h hmore)]
      simp only [if_true, List.isEmpty_iff, hnonempty, if_false]
      rfl
  | cons c name ih =>
      obtain ⟨fuel, rfl⟩ : ∃ n, fuel = n + 1 := ⟨fuel - 1, by simp at hfuel; omega⟩
      obtain ⟨hc, hne⟩ := hname c (by simp)
      have hrest : name ++ close :: more ≠ ['\\'] := by
        cases name with
        | nil => simp [hclose]
        | cons d name => simp
      obtain ⟨i, hi⟩ := ih (s := s.at (name ++ close :: more) (s.index + 1))
        (fun d hd => hname d (by simp [hd])) (Nat.lt_of_succ_lt_succ hfuel) (before ++ [c])
        (by simp) rfl
      refine ⟨i, ?_⟩
      rw [collectUntil, run_bind_of_ok (run_next_char hc h hrest)]
      simp only [List.cons.injEq, hne, and_true, if_false]
      rw [List.append_assoc] at hi
      exact hi

theorem run_nameUntil {close : Char} (hclose : close ≠ '\\') (what : String) {name : List Char}
    (hname : ∀ c ∈ name, c ≠ '\\' ∧ c ≠ close) (hnonempty : name ≠ []) (hmore : more ≠ ['\\'])
    (h : s.rest = name ++ close :: more) :
    ∃ i, (nameUntil close what).run s = .ok (name, s.at more i) := by
  have hfuel : name.length < s.rest.length + 1 := by
    rw [h, List.length_append]
    omega
  obtain ⟨i, hi⟩ := run_collectUntil hclose what hname hmore hfuel [] hnonempty h
  exact ⟨i, (run_bind_of_ok (x := s.rest.length) rfl _).trans hi⟩

theorem run_opening_plain (h : s.rest = '?' :: ':' :: more) (hmore : more ≠ ['\\']) (start : Nat) :
    (opening start).run s = .ok (.flagged {} {}, s.at more (s.index + 2)) := by
  unfold opening
  rw [run_bind_of_ok (run_accept_self (c := '?') (by decide) h (by simp))]
  exact run_bind_of_ok (run_next_char (c := ':') (by decide) rfl hmore) _

theorem run_opening_named {name : List Char} (hname : ∀ c ∈ name, c ≠ '\\' ∧ c ≠ '>')
    (hidentifier : Text.isIdentifier name = true) (hmore : more ≠ ['\\'])
    (h : s.rest = "?P<".toList ++ name ++ '>' :: more) :
    ∃ i, ∀ start, (opening start).run s = .ok (.capture (some name), s.at more i) := by
  have hnonempty : name ≠ [] := fun hempty => by simp [hempty, Text.isIdentifier] at hidentifier
  have hrest : name ++ '>' :: more ≠ ['\\'] := by
    cases name with
    | nil => exact absurd rfl hnonempty
    | cons c name => cases name <;> simp
  obtain ⟨i, hi⟩ := run_nameUntil (s := s.at (name ++ '>' :: more) (s.index + 1 + 1 + 1))
    (show '>' ≠ '\\' by decide) "group name" hname hnonempty hmore rfl
  refine ⟨i, fun start => ?_⟩
  have hafterP : openingAfterP.run (s.at ('<' :: (name ++ '>' :: more)) (s.index + 1 + 1)) =
      .ok (.capture (some name), s.at more i) := by
    unfold openingAfterP
    rw [run_bind_of_ok (run_accept_self (c := '<') (by decide) rfl hrest)]
    refine (run_bind_of_ok hi _).trans ?_
    rw [checkGroupName, hidentifier]
    rfl
  have hmark : s.rest = '?' :: 'P' :: '<' :: (name ++ '>' :: more) := by simpa using h
  unfold opening
  rw [run_bind_of_ok (run_accept_self (c := '?') (by decide) hmark (by simp))]
  exact (run_bind_of_ok (run_next_char (c := 'P') (by decide) rfl (by simp)) _).trans hafterP

theorem run_sequence_group {fuel : Nat} {first : Bool} {parts : List Part} {opened : Opening}
    {part : Part} {middle after : Source} (h : s.rest = '(' :: more) (hmore : more ≠ ['\\'])
    (hkind : (∃ name, opened = .capture name) ∨ opened = .flagged {} {})
    (hopening : ∀ start, (opening start).run (s.at more (s.index + 1)) = .ok (opened, middle))
    (hgroup : ∀ start, (group fuel false start opened).run middle = .ok (part, after)) :
    (sequence (fuel + 1) false first parts).run s =
      (sequence fuel false first (part :: parts)).run after := by
  rw [run_sequence (peek_char (by decide) h) (by simp) (by simp) (run_next_char (by decide) h hmore)]
  refine (run_bind_of_ok (x := s.index + 1) rfl _).trans ((run_bind_of_ok (hopening _) _).trans ?_)
  rcases hkind with ⟨name, rfl⟩ | rfl
  · exact run_bind_of_ok (hgroup _) _
  · exact run_bind_of_ok (hgroup _) _

/-! ## Named groups -/

/-- A named group around a plain expression, as an engine writes it. -/
def namedGroup (name regex : List Char) : List Char :=
  "(?P<".toList ++ name ++ ">(?:".toList ++ regex ++ "))".toList

/-- What reading such a group leaves: a node of the words of the expression, with groups of its own. -/
structure GroupRead (regex : List Char) (e : Expression) (s last : Source) (body : Node) : Prop where
  isPlain : body.isPlain
  language : body.language = e.node.language
  count : s.groupCount < last.groupCount
  binds : ∀ g, body.Binds g → s.groupCount < g ∧ g < last.groupCount
  placed : Expression.placed s.groupCount regex = (body, last.groupCount)

theorem isAt_closed (h : s.IsAt rest names) (index : Nat) (body : Node) :
    (closed s index body).IsAt rest names :=
  ⟨h.rest, h.flags, h.conditions, h.names, by simpa [closed, Source.groupCount] using h.counted⟩

theorem groupCount_closed (s : Source) (index : Nat) (body : Node) :
    (closed s index body).groupCount = s.groupCount := by
  simp [closed, Source.groupCount]

theorem run_openGroup_some {name : List Char} (hs : s.IsAt rest names)
    (hfresh : names.lookup name = none) :
    ∃ last, (openGroup (some name)).run s = .ok (s.groupCount, last) ∧
      last.IsAt rest (names ++ [(name, s.groupCount)]) ∧ last.groupCount = s.groupCount + 1 := by
  refine ⟨{ s with widths := s.widths ++ [none], names := s.names ++ [(name, s.groupCount)] }, ?_,
    ⟨hs.rest, hs.flags, hs.conditions, by rw [← hs.names], by simp [Source.groupCount]⟩,
    by simp [Source.groupCount]⟩
  unfold openGroup
  refine (run_bind_of_ok (m := get) (s := s) rfl _).trans ?_
  dsimp only
  rw [hs.names, hfresh]
  rfl

theorem run_sequence_inner {regex : List Char} {e : Expression}
    (hread : Expression.read regex = .ok e) (hplain : e.isPlain)
    (hs : s.IsAt ("(?:".toList ++ regex ++ "))".toList ++ more) names) {fuel : Nat}
    (hfuel : 3 * regex.length + 6 ≤ fuel) (first : Bool) :
    ∃ nodes last, (sequence (fuel + 1) false first []).run s = .ok (nodes, last) ∧
      last.IsAt (')' :: more) names ∧ s.groupCount ≤ last.groupCount ∧
      (Node.ofList nodes).isPlain ∧ (Node.ofList nodes).language = e.node.language ∧
      (∀ g, (Node.ofList nodes).Binds g → s.groupCount ≤ g ∧ g < last.groupCount) ∧
      Expression.placed (s.groupCount - 1) regex = (.ofList nodes, last.groupCount) := by
  obtain ⟨fuel, rfl⟩ : ∃ n, fuel = n + 1 := ⟨fuel - 1, by omega⟩
  have hrest : s.rest = '(' :: '?' :: ':' :: (regex ++ ')' :: ')' :: more) := by
    simpa using hs.rest
  obtain ⟨nodes, after, hbody, hafter, hle, hnodes, hlanguage, hbinds, hplaced⟩ :=
    run_in_parentheses hread hplain (show 3 * regex.length + 4 ≤ fuel by omega)
      (isAt_at hs (regex ++ ')' :: ')' :: more) (s.index + 1 + 2)) false
  have hclose := run_closeParenthesis hafter.rest (by simp)
  refine ⟨nodes, _, ?_, isAt_at hafter (')' :: more) (after.index + 1), hle, hnodes, hlanguage, hbinds,
    hplaced⟩
  have hgroup (start : Nat) : (group (fuel + 1) false start (.flagged {} {})).run
      (s.at (regex ++ ')' :: ')' :: more) (s.index + 1 + 2)) =
        .ok (.plain nodes, after.at (')' :: more) (after.index + 1)) :=
    run_group_plain hbody (hclose start)
  rw [run_sequence_group hrest (by simp) (.inr rfl)
    (fun start => run_opening_plain rfl append_close_ne start) hgroup,
    run_sequence_end (.inr (.inr (peek_char (by decide) rfl)))]
  simp [nodesOf, Part.nodes]

theorem run_sequence_namedGroup {name regex : List Char} {e : Expression}
    (hread : Expression.read regex = .ok e) (hplain : e.isPlain)
    (hname : ∀ c ∈ name, c ≠ '\\' ∧ c ≠ '>') (hidentifier : Text.isIdentifier name = true)
    (hfresh : names.lookup name = none) (hs : s.IsAt (namedGroup name regex ++ more) names)
    (hmore : more ≠ ['\\']) {fuel : Nat} (hfuel : 3 * regex.length + 10 ≤ fuel) (first : Bool)
    (parts : List Part) :
    ∃ body last, (sequence (fuel + 1) false first parts).run s =
        (sequence fuel false first (.one (.group s.groupCount body) :: parts)).run last ∧
      last.IsAt more (names ++ [(name, s.groupCount)]) ∧ GroupRead regex e s last body := by
  obtain ⟨fuel, rfl⟩ : ∃ n, fuel = n + 3 := ⟨fuel - 3, by omega⟩
  have hrest : s.rest = '(' :: ("?P<".toList ++ name ++ '>' ::
      ("(?:".toList ++ regex ++ "))".toList ++ more)) := by
    simpa [namedGroup] using hs.rest
  obtain ⟨i, hopening⟩ := run_opening_named (s := s.at _ (s.index + 1)) hname hidentifier
    (show "(?:".toList ++ regex ++ "))".toList ++ more ≠ ['\\'] by simp) rfl
  obtain ⟨opened, hopened, hinside, hcount⟩ :=
    run_openGroup_some (isAt_at hs ("(?:".toList ++ regex ++ "))".toList ++ more) i) hfresh
  obtain ⟨nodes, after, hbody, hafter, hle, hnodes, hlanguage, hbinds, hplaced⟩ :=
    run_sequence_inner hread hplain hinside (show 3 * regex.length + 6 ≤ fuel by omega) false
  have hclose := run_closeParenthesis hafter.rest hmore
  have halternatives : (alternatives (fuel + 2) false false).run opened = .ok (nodes, after) :=
    run_alternatives hbody (by rw [peek_char (by decide) hafter.rest]; simp)
  have hgroup (start : Nat) : (group (fuel + 3) false start (.capture (some name))).run
      (s.at ("(?:".toList ++ regex ++ "))".toList ++ more) i) =
        .ok (.one (.group s.groupCount (.ofList nodes)),
          closed (after.at more (after.index + 1)) s.groupCount (.ofList nodes)) :=
    run_group_capture hopened halternatives (hclose start)
  refine ⟨.ofList nodes, _, run_sequence_group hrest (by simp) (.inl ⟨name, rfl⟩) hopening hgroup,
    isAt_closed (isAt_at hafter more _) _ _, hnodes, hlanguage, ?_, ?_, ?_⟩
  · rw [groupCount_closed, groupCount_at]
    rw [groupCount_at] at hcount
    omega
  · intro g hg
    have := hbinds g hg
    rw [groupCount_closed, groupCount_at]
    rw [groupCount_at] at hcount
    omega
  · rw [groupCount_closed, groupCount_at, ← hplaced, hcount, groupCount_at, Nat.add_sub_cancel]

/-! ## Optional groups -/

theorem run_greed (h : s.peek ≠ some ['?']) (h' : s.peek ≠ some ['+']) :
    greed.run s = .ok (.greedy, s) := by
  unfold greed
  rw [run_bind_of_ok (run_accept_other h)]
  refine (run_bind_of_ok (run_accept_other h') _).trans ?_
  rfl

theorem run_sequence_optional {fuel : Nat} {first : Bool} {nodes : List Node} {parts : List Part}
    (h : s.rest = '?' :: more) (hmore : more ≠ ['\\'])
    (hlazy : ∀ i, (s.at more i).peek ≠ some ['?']) (hpossessive : ∀ i, (s.at more i).peek ≠ some ['+']) :
    ∃ i, (sequence (fuel + 1) false first (.plain nodes :: parts)).run s =
      (sequence fuel false first (.one (.loop .greedy 0 (some 1) (.ofList nodes)) :: parts)).run
        (s.at more i) := by
  refine ⟨s.index + 1, ?_⟩
  rw [run_sequence (peek_char (by decide) h) (by simp) (by simp) (run_next_char (by decide) h hmore)]
  have hrepeat := run_repeatLast (s.index + 1) 0 (some 1) parts
    (show (Part.plain nodes).IsRepeatable from trivial) (run_greed (hlazy (s.index + 1)) (hpossessive (s.index + 1)))
  exact (run_bind_of_ok (x := s.index + 1) rfl _).trans
    ((run_bind_of_ok (x := some (0, some 1)) rfl _).trans (run_bind_of_ok hrepeat _))

end

end HttpRouting.Regex.Reader
