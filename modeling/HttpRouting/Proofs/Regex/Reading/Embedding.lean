import HttpRouting.Proofs.Regex.Reading.Renumbering

/-!
# Embedded expressions

A plain expression is read in the same way when it stands in parentheses inside
a longer one, only its groups have other numbers.  The invariant is that the
longer source has read as many more groups as it had at the start, and has
neither flags nor conditions.  That the result is plain is known at the end
only, so it is carried back to each step by what reading leaves behind.
-/

namespace HttpRouting.Regex

/-! ## Parts -/

namespace Part

/-- Whether a part may be repeated: anchors and repetitions may not, unless they are grouped. -/
def IsRepeatable : Part → Prop
  | .one n => Reader.isAnchor n = false ∧ Reader.isLoop n = false
  | .plain _ => True

def renumber (f : Nat → Nat) : Part → Part
  | .one n => .one (n.renumber f)
  | .plain nodes => .plain (nodes.map (Node.renumber f))

theorem nodes_renumber (f : Nat → Nat) (part : Part) :
    (part.renumber f).nodes = part.nodes.map (Node.renumber f) := by
  cases part <;> rfl

theorem node_renumber (f : Nat → Nat) (part : Part) :
    (part.renumber f).node = part.node.renumber f := by
  cases part with
  | one n => rfl
  | plain nodes => exact Node.renumber_ofList f nodes

theorem binds_node {part : Part} {g : Nat} :
    part.node.Binds g ↔ ∃ n ∈ part.nodes, n.Binds g := by
  cases part with
  | one n => simp [node, nodes]
  | plain nodes => exact Node.binds_ofList

theorem isRepeatable_renumber {part : Part} (h : part.IsRepeatable) (f : Nat → Nat) :
    (part.renumber f).IsRepeatable := by
  cases part with
  | one n =>
      cases n <;>
        simp_all [IsRepeatable, renumber, Node.renumber, Reader.isAnchor, Reader.isLoop]
  | plain nodes => trivial

end Part

namespace Reader

section

variable {s s' middle middle' last last' : Source} {tail : List Char}

theorem Continues.next {token : Token} (hs : Continues s s' tail)
    (hnext : next.run s = .ok (some token, middle)) :
    s'.peek = some token ∧
      ∃ middle', next.run s' = .ok (some token, middle') ∧ Move s s' tail middle middle' := by
  rcases next_eq_ok hs.backslash hnext with ⟨-, habsurd, -⟩ |
    ⟨found, rest, i, hfound, htoken, -, hsplit, hrest, rfl⟩
  · simp at habsurd
  · obtain rfl := Option.some.inj hfound
    obtain ⟨hpeek, hmore⟩ := next_append hs.backslash htoken hs.rest
    obtain ⟨j, hj⟩ := hmore rest hsplit append_close_ne
    exact ⟨hpeek, _, hj, rest, i, j, hrest, hsplit ▸ List.suffix_append token rest, rfl, rfl⟩

/-! ## Readers whose plain results agree -/

theorem agreesOn_groupReference (group back : Nat) (m' : Reader Node) :
    AgreesOn (fun n _ => n.isPlain) s s' tail (groupReference group back) m' :=
  agreesOn_of_not fun x last hs hrun hplain => by
    obtain ⟨-, rfl⟩ := keeps_groupReference group back s x last hs hrun
    simp [Node.isPlain] at hplain

theorem agreesOn_digitEscape (c : Char) :
    AgreesOn (fun n _ => n.isPlain) s s' tail (digitEscape c) (digitEscape c) := by
  unfold digitEscape
  split
  next =>
    refine (agreesOn_takeWhile (by decide) (.inl rfl)).bind fun digits _ _ _ => ?_
    exact agreesOn_pure _
  next =>
    refine agreesOn_peek_bind (fun token htoken => ?_) fun _ => ?_
    · split
      next d heq =>
        split
        next =>
          refine agreesOn_next_bind (fun _ rest i j _ _ => ?_) fun hempty => by
            simp [peek_nil hempty] at htoken
          refine agreesOn_peek_bind (fun token htoken => ?_) fun _ => ?_
          · split
            next e _ =>
              split
              next =>
                refine agreesOn_next_bind (fun _ rest i j _ _ => ?_) fun hempty => by
                  simp [peek_nil hempty] at htoken
                refine (agrees_octalEscape _ _ _ _).bind fun _ _ _ _ => ?_
                exact agreesOn_pure _
              next => exact agreesOn_groupReference _ _ _
            next => exact agreesOn_groupReference _ _ _
          · exact agreesOn_groupReference _ _ _
        next => exact agreesOn_groupReference _ _ _
      next => exact agreesOn_groupReference _ _ _
    · exact agreesOn_groupReference _ _ _

theorem agreesOn_escapeOutside (c : Char) :
    AgreesOn (fun n _ => n.isPlain) s s' tail (escapeOutside c) (escapeOutside c) := by
  unfold escapeOutside
  split
  next => exact agreesOn_pure _
  next =>
    split
    next => exact agreesOn_pure _
    next =>
      split
      next => exact agreesOn_pure _
      next =>
        split
        next => exact agreesOn_digitEscape c
        next => exact (agrees_commonEscape c _ _ _).bind fun _ _ _ _ => agreesOn_pure _

theorem agreesOn_opening (start start' : Nat) :
    AgreesOn (fun opened last => opened.IsPlain ∧ last.IsBare) s s' tail (opening start)
      (opening start') := by
  have hnot {s s' : Source} {m m' : Reader Opening} {known : Opening → Prop} (hm : Keeps m known)
      (hknown : ∀ opened, known opened → ¬ opened.IsPlain) :
      AgreesOn (fun opened last => opened.IsPlain ∧ last.IsBare) s s' tail m m' :=
    agreesOn_of_not fun opened last hs hrun hplain =>
      hknown opened (hm s opened last hs hrun).2 hplain.1
  unfold opening
  refine (agrees_accept (by decide) _ _ _).bind fun marked _ _ _ => ?_
  split
  next => exact agreesOn_pure _
  next =>
    refine agreesOn_next_bind (fun token rest i j _ _ => ?_) fun _ => fails_fail _ _
    dsimp only
    split
    next => exact hnot keeps_openingAfterP fun _ => And.left
    next => exact agreesOn_pure _
    next =>
      refine agreesOn_remaining_bind fun n hn => ?_
      refine (agrees_skipComment start start' (by omega) _ _ _).bind fun _ _ _ _ => ?_
      exact agreesOn_pure _
    next => exact agreesOn_pure _
    next => exact agreesOn_pure _
    next => exact hnot keeps_openingAfterLess fun _ ⟨_, h⟩ => h ▸ id
    next =>
      have hcondition : Keeps (conditionGroup >>= fun group => pure (Opening.condition group))
          fun opened => ¬ opened.IsPlain :=
        keeps_conditionGroup.bind fun _ _ => keeps_pure id
      exact hnot hcondition fun _ => id
    next => exact agreesOn_pure _
    next c _ _ _ _ _ _ _ _ =>
      split
      next hflag =>
        refine agreesOn_of_not fun opened last hs hrun hknown => ?_
        obtain ⟨change, end', hchange, hrun⟩ := run_bind_eq_ok hrun
        obtain ⟨-, hproper⟩ := advances_flagChange (by simpa using hflag) hs hchange
        split at hrun
        next =>
          obtain ⟨rfl, rfl⟩ := run_pure_eq_ok hrun
          exact hknown.1
        next on off =>
          obtain ⟨rfl, rfl⟩ := run_pure_eq_ok hrun
          rcases hproper hknown.2 with hon | hoff
          · exact hon hknown.1.1
          · exact hoff hknown.1.2
      next => exact (fails_fail _ _).agreesOn
    next => exact (fails_fail _ _).agreesOn

end

/-! ## Steps of sequences -/

section

variable {s middle : Source} {token : Token}

theorem run_sequence_end {fuel : Nat} {verbose first : Bool} {parts : List Part}
    (h : s.peek = none ∨ s.peek = some ['|'] ∨ s.peek = some [')']) :
    (sequence (fuel + 1) verbose first parts).run s = .ok (nodesOf parts, s) := by
  rw [Reader.sequence, run_bind_of_ok (run_peek s)]
  rcases h with h | h | h <;> rw [h] <;> rfl

theorem exists_next_of_sequence {fuel : Nat} {verbose first : Bool} {parts : List Part}
    {nodes : List Node} {last : Source} (htoken : s.peek = some token) (hbar : token ≠ ['|'])
    (hclose : token ≠ [')'])
    (hrun : (sequence (fuel + 1) verbose first parts).run s = .ok (nodes, last)) :
    ∃ middle, next.run s = .ok (some token, middle) := by
  rw [Reader.sequence, run_bind_of_ok (run_peek s), htoken] at hrun
  dsimp only at hrun
  rw [if_neg (by simp [hbar, hclose])] at hrun
  obtain ⟨found, middle, hnext, -⟩ := run_bind_eq_ok hrun
  refine ⟨middle, ?_⟩
  rw [run_next, htoken] at hnext ⊢
  cases hadvance : s.advance with
  | error stop => simp [hadvance, Except.map] at hnext
  | ok next =>
      simp only [hadvance, Except.map, Except.ok.injEq, Prod.mk.injEq] at hnext ⊢
      exact ⟨trivial, hnext.2⟩

theorem isShareable_of_ofChar {c : Char} {n : Node} (h : Item.ofChar c = .node n) :
    isShareable n := by
  unfold Item.ofChar at h
  split at h <;> simp_all
  all_goals grind [isShareable, Node.literal]

theorem isShareable_of_ofToken {n : Node} (h : Item.ofToken token = .node n) : isShareable n := by
  unfold Item.ofToken at h
  split at h
  · exact isShareable_of_ofChar h
  · cases h
  · cases h

theorem run_sequence {fuel : Nat} {first : Bool} {parts : List Part}
    (htoken : s.peek = some token) (hbar : token ≠ ['|']) (hclose : token ≠ [')'])
    (hnext : next.run s = .ok (some token, middle)) :
    (sequence (fuel + 1) false first parts).run s =
      StateT.run (match Item.ofToken token with
        | .escape c => do sequence fuel false first (.one (← escapeOutside c) :: parts)
        | .characterClass => do
          sequence fuel false first (.one (← characterClass ((← index) - 1)) :: parts)
        | .parenthesis => do
          let start := (← index) - 1
          match ← opening start with
          | .comment => sequence fuel false first parts
          | .overallFlags =>
            if !first || !parts.isEmpty then fail .lateFlags ((← index) - start)
            let s ← get
            sequence fuel s.flags.verbose first parts
          | .done part => sequence fuel false first (part :: parts)
          | other =>
            let part ← group fuel false start other
            sequence fuel false first (part :: parts)
        | .repetition mark => do
          let here ← index
          match ← bounds? mark with
          | none => sequence fuel false first (.one (.literal mark.toNat) :: parts)
          | some (least, most) => sequence fuel false first (← repeatLast here least most parts)
        | .node n => sequence fuel false first (.one n :: parts)
        | .nothing => sequence fuel false first parts) middle := by
  rw [Reader.sequence, run_bind_of_ok (run_peek s), htoken]
  dsimp only
  rw [if_neg (by simp [hbar, hclose]), run_bind_of_ok hnext]
  rfl

theorem run_repeatLast (here least : Nat) (most : Option Nat) {part : Part} (rest : List Part)
    {g : Greed} (hpart : part.IsRepeatable) (hgreed : greed.run s = .ok (g, middle)) :
    (repeatLast here least most (part :: rest)).run s =
      .ok (.one (.loop g least most part.node) :: rest, middle) := by
  have hloop : (greed >>= fun g => pure (Part.one (.loop g least most part.node) :: rest)).run s =
      .ok (.one (.loop g least most part.node) :: rest, middle) := by
    rw [run_bind_of_ok hgreed]
    rfl
  cases part with
  | plain nodes => exact hloop
  | one n =>
      unfold repeatLast
      simp only [hpart.1, hpart.2, Bool.false_eq_true, if_false]
      exact hloop

theorem repeatLast_eq_ok {here least : Nat} {most : Option Nat} {parts repeated : List Part}
    (hrun : (repeatLast here least most parts).run s = .ok (repeated, middle)) :
    ∃ part rest g, parts = part :: rest ∧ part.IsRepeatable ∧ greed.run s = .ok (g, middle) ∧
      repeated = .one (.loop g least most part.node) :: rest := by
  cases parts with
  | nil => exact absurd hrun (fails_bind _ (fun _ => fails_fail _ _) _ _ _)
  | cons part rest =>
      have hloop (hpart : part.IsRepeatable)
          (hrun : (greed >>= fun g => pure (Part.one (.loop g least most part.node) :: rest)).run s =
            .ok (repeated, middle)) :
          ∃ part' rest' g, part :: rest = part' :: rest' ∧ part'.IsRepeatable ∧
            greed.run s = .ok (g, middle) ∧
            repeated = .one (.loop g least most part'.node) :: rest' := by
        obtain ⟨g, after, hgreed, hrun⟩ := run_bind_eq_ok hrun
        obtain ⟨rfl, rfl⟩ := run_pure_eq_ok hrun
        exact ⟨part, rest, g, rfl, hpart, hgreed, rfl⟩
      cases part with
      | plain nodes => exact hloop trivial hrun
      | one n =>
          unfold repeatLast at hrun
          dsimp only at hrun
          split at hrun
          next => exact absurd hrun (fails_bind _ (fun _ => (fails_fail _ _).bind _) _ _ _)
          next hanchor =>
            split at hrun
            next => exact absurd hrun (fails_bind _ (fun _ => (fails_fail _ _).bind _) _ _ _)
            next hloop' =>
              exact hloop ⟨by simpa using hanchor, by simpa using hloop'⟩ hrun

end

/-! ## Steps of groups -/

section

variable {s middle after last : Source} {fuel start index : Nat} {verbose : Bool}
  {name : Option (List Char)} {nodes : List Node} {part : Part}

def closed (s : Source) (index : Nat) (body : Node) : Source :=
  { s with widths := s.widths.set index (some (body.width s.widths)) }

theorem run_openGroup_none (s : Source) :
    (openGroup none).run s = .ok (s.groupCount, { s with widths := s.widths ++ [none] }) := rfl

theorem run_group_capture (hopen : (openGroup name).run s = .ok (index, middle))
    (hbody : (alternatives fuel verbose false).run middle = .ok (nodes, after))
    (hclose : (closeParenthesis start).run after = .ok ((), last)) :
    (group (fuel + 1) verbose start (.capture name)).run s =
      .ok (.one (.group index (.ofList nodes)), closed last index (.ofList nodes)) := by
  rw [Reader.group.eq_def]
  dsimp only
  rw [run_bind_of_ok hopen, run_bind_of_ok hbody, run_bind_of_ok hclose]
  rfl

theorem group_capture_eq_ok
    (hrun : (group (fuel + 1) verbose start (.capture name)).run s = .ok (part, last)) :
    ∃ index middle nodes after end', (openGroup name).run s = .ok (index, middle) ∧
      (alternatives fuel verbose false).run middle = .ok (nodes, after) ∧
      (closeParenthesis start).run after = .ok ((), end') ∧
      part = .one (.group index (.ofList nodes)) ∧ last = closed end' index (.ofList nodes) := by
  rw [Reader.group.eq_def] at hrun
  dsimp only at hrun
  obtain ⟨index, middle, hopen, hrun⟩ := run_bind_eq_ok hrun
  obtain ⟨nodes, after, hbody, hrun⟩ := run_bind_eq_ok hrun
  obtain ⟨_, end', hclose, hrun⟩ := run_bind_eq_ok hrun
  obtain ⟨_, _, hwidth, hrun⟩ := run_bind_eq_ok hrun
  cases hwidth
  obtain ⟨rfl, rfl⟩ := run_pure_eq_ok hrun
  exact ⟨index, middle, nodes, after, end', hopen, hbody, hclose, rfl, rfl⟩

theorem run_group_plain
    (hbody : (alternatives fuel false false).run s = .ok (nodes, after))
    (hclose : (closeParenthesis start).run after = .ok ((), last)) :
    (group (fuel + 1) false start (.flagged {} {})).run s = .ok (.plain nodes, last) := by
  rw [Reader.group.eq_def]
  refine (run_bind_of_ok hbody _).trans ((run_bind_of_ok hclose _).trans ?_)
  rfl

theorem group_plain_eq_ok
    (hrun : (group (fuel + 1) false start (.flagged {} {})).run s = .ok (part, last)) :
    ∃ nodes after, (alternatives fuel false false).run s = .ok (nodes, after) ∧
      (closeParenthesis start).run after = .ok ((), last) ∧ part = .plain nodes := by
  rw [Reader.group.eq_def] at hrun
  dsimp only at hrun
  obtain ⟨nodes, after, hbody, hrun⟩ := run_bind_eq_ok hrun
  obtain ⟨_, end', hclose, hrun⟩ := run_bind_eq_ok hrun
  obtain ⟨rfl, rfl⟩ := run_pure_eq_ok hrun
  exact ⟨nodes, after, hbody, hclose, rfl⟩

end

/-! ## Embedded sources -/

theorem nodesOf_renumber (f : Nat → Nat) (parts : List Part) :
    nodesOf (parts.map (Part.renumber f)) = (nodesOf parts).map (Node.renumber f) := by
  induction parts with
  | nil => rfl
  | cons part parts ih =>
      rw [List.map_cons, nodesOf_cons, ih, nodesOf_cons, List.map_append, Part.nodes_renumber]

def AreNumbered (count : Nat) (nodes : List Node) : Prop :=
  ∀ n ∈ nodes, ∀ g, n.Binds g → 0 < g ∧ g < count

theorem AreNumbered.mono {count more : Nat} {nodes : List Node} (h : AreNumbered count nodes)
    (hle : count ≤ more) : AreNumbered more nodes := fun n hn g hg => by
  have := h n hn g hg
  omega

theorem areNumbered_append {count : Nat} {first second : List Node} :
    AreNumbered count (first ++ second) ↔ AreNumbered count first ∧ AreNumbered count second :=
  List.forall_mem_append

theorem AreNumbered.of_binds {count : Nat} {nodes others : List Node} (h : AreNumbered count nodes)
    (hbinds : ∀ n ∈ others, ∀ g, n.Binds g → ∃ m ∈ nodes, m.Binds g) : AreNumbered count others :=
  fun n hn g hg => by
    obtain ⟨m, hm, hmg⟩ := hbinds n hn g hg
    exact h m hm g hmg

/-- A source inside a longer one, in which groups have higher numbers. -/
structure Embeds (offset : Nat) (names : List (List Char × Nat)) (tail : List Char)
    (s s' : Source) : Prop where
  continues : Continues s s' tail
  counted : 0 < s.groupCount
  groups : s'.groupCount = s.groupCount + offset
  flags : s'.flags = {}
  names : s'.names = names
  conditions : s'.conditions = []

section

variable {offset : Nat} {names : List (List Char × Nat)} {tail : List Char}
  {s s' last last' : Source} (h : Embeds offset names tail s s')

include h

theorem Embeds.move (hmove : Move s s' tail last last') :
    Embeds offset names tail last last' ∧ last.groupCount = s.groupCount := by
  obtain ⟨rest, i, j, hrest, -, rfl, rfl⟩ := hmove
  exact ⟨⟨⟨hrest, rfl⟩, h.counted, h.groups, h.flags, h.names, h.conditions⟩, rfl⟩

theorem Embeds.openGroup :
    Embeds offset names tail { s with widths := s.widths ++ [none] }
      { s' with widths := s'.widths ++ [none] } where
  continues := ⟨h.continues.backslash, h.continues.rest⟩
  counted := by simp [Source.groupCount]
  groups := by
    have := h.groups
    simp only [Source.groupCount, List.length_append, List.length_singleton] at this ⊢
    omega
  flags := h.flags
  names := h.names
  conditions := h.conditions

theorem Embeds.closed (index index' : Nat) (body body' : Node) :
    Embeds offset names tail (closed s index body) (closed s' index' body') where
  continues := ⟨h.continues.backslash, h.continues.rest⟩
  counted := by simpa [Reader.closed, Source.groupCount] using h.counted
  groups := by simpa [Reader.closed, Source.groupCount] using h.groups
  flags := h.flags
  names := h.names
  conditions := h.conditions

end

end Reader

end HttpRouting.Regex
