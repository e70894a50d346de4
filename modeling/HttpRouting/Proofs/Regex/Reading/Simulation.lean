import HttpRouting.Proofs.Regex.Reading.Embedding

/-!
# Reading inside a longer text

Step by step, the reader of a longer expression does on a plain one in
parentheses what the reader of that one does alone.  The longer reader may have
more fuel left, and which of the two is outermost only matters for flags.
-/

namespace HttpRouting.Regex.Reader

/--
Whenever the first reader has a plain result, the second has it in any longer
source, with the numbers of groups moved up.  The groups before are those of
what has been read already.
-/
def Follows {α : Type} (offset : Nat) (nodes : α → List Node) (renumber : (Nat → Nat) → α → α)
    (before : List Node) (m m' : Reader α) : Prop :=
  ∀ names tail s s' x last, Embeds offset names tail s s' → AreNumbered s.groupCount before →
    m.run s = .ok (x, last) → last.IsBare → IsPlainSequence (nodes x) →
      ∃ last', m'.run s' = .ok (renumber (· + offset) x, last') ∧
        Embeds offset names tail last last' ∧ s.groupCount ≤ last.groupCount ∧
        AreNumbered last.groupCount (nodes x)

/-- The readers with less fuel are followed by those with more. -/
structure Simulates (offset fuel fuel' : Nat) : Prop where
  alternatives : ∀ outermost outermost',
    Follows offset id (fun f => List.map (Node.renumber f)) []
      (alternatives fuel false outermost) (alternatives fuel' false outermost')
  moreBranches : ∀ outermost outermost' branches,
    Follows offset List.flatten (fun f => List.map (List.map (Node.renumber f))) branches.flatten
      (moreBranches fuel false outermost branches)
      (moreBranches fuel' false outermost' (branches.map (List.map (Node.renumber (· + offset)))))
  sequence : ∀ first first' parts,
    Follows offset id (fun f => List.map (Node.renumber f)) (nodesOf parts)
      (sequence fuel false first parts)
      (sequence fuel' false first' (parts.map (Part.renumber (· + offset))))
  group : ∀ start start' (opened : Opening), opened.IsPlain →
    Follows offset Part.nodes Part.renumber []
      (group fuel false start opened) (group fuel' false start' opened)

/-! ## Steps in a row -/

section

variable {α β : Type} {offset : Nat} {nodes : β → List Node} {renumber : (Nat → Nat) → β → β}
  {before : List Node} {m m' : Reader α} {f f' : α → Reader β}

/-- A step on which the readers agree moves both sources alike and reads no groups. -/
theorem Follows.of_agreesOn {known : α → Source → Prop}
    (hm : ∀ s s' tail, AgreesOn known s s' tail m m')
    (hf : ∀ s x middle y last, s.rest ≠ ['\\'] → m.run s = .ok (x, middle) →
      (f x).run middle = .ok (y, last) → last.IsBare → IsPlainSequence (nodes y) →
        known x middle ∧ Follows offset nodes renumber before (f x) (f' x)) :
    Follows offset nodes renumber before (m >>= f) (m' >>= f') := by
  intro names tail s s' y last hs hbefore hrun hbare hplain
  obtain ⟨x, middle, hfirst, hrest⟩ := run_bind_eq_ok hrun
  obtain ⟨hknown, hfollows⟩ :=
    hf s x middle y last hs.continues.backslash hfirst hrest hbare hplain
  obtain ⟨middle', hfirst', hmove⟩ := hm s s' tail hs.continues x middle hfirst hknown
  obtain ⟨hmiddle, hsame⟩ := hs.move hmove
  obtain ⟨last', hrest', hlast⟩ :=
    hfollows names tail middle middle' y last hmiddle (hsame ▸ hbefore) hrest hbare hplain
  exact ⟨last', (run_bind_of_ok hfirst' _).trans hrest', hsame ▸ hlast⟩

theorem Follows.of_agrees (hm : Agrees m m')
    (hf : ∀ s x middle, s.rest ≠ ['\\'] → m.run s = .ok (x, middle) →
      Follows offset nodes renumber before (f x) (f' x)) :
    Follows offset nodes renumber before (m >>= f) (m' >>= f') :=
  Follows.of_agreesOn hm fun s x middle _ _ hs hfirst _ _ _ => ⟨trivial, hf s x middle hs hfirst⟩

/-- The places differ, so what follows must not depend on them. -/
theorem Follows.of_index {f f' : Nat → Reader β}
    (hf : ∀ i j, Follows offset nodes renumber before (f i) (f' j)) :
    Follows offset nodes renumber before (index >>= f) (index >>= f') :=
  fun names tail s s' => hf s.index s'.index names tail s s'

theorem Follows.bind {nodes' : α → List Node} {renumber' : (Nat → Nat) → α → α}
    (hm : Follows offset nodes' renumber' [] m m')
    (hplain : ∀ s x middle y last, s.rest ≠ ['\\'] → m.run s = .ok (x, middle) →
      (f x).run middle = .ok (y, last) → last.IsBare → IsPlainSequence (nodes y) →
        middle.IsBare ∧ IsPlainSequence (nodes' x))
    (hf : ∀ x, Follows offset nodes renumber (before ++ nodes' x) (f x)
      (f' (renumber' (· + offset) x))) :
    Follows offset nodes renumber before (m >>= f) (m' >>= f') := by
  intro names tail s s' y last hs hbefore hrun hbare hnodes
  obtain ⟨x, middle, hfirst, hrest⟩ := run_bind_eq_ok hrun
  obtain ⟨hmiddleBare, hfirstPlain⟩ :=
    hplain s x middle y last hs.continues.backslash hfirst hrest hbare hnodes
  obtain ⟨middle', hfirst', hmiddle, hle, hnumbered⟩ := hm names tail s s' x middle hs
    (List.forall_mem_nil _) hfirst hmiddleBare hfirstPlain
  have hall : AreNumbered middle.groupCount (before ++ nodes' x) :=
    areNumbered_append.mpr ⟨hbefore.mono hle, hnumbered⟩
  obtain ⟨last', hrest', hlast, hle', hnumbered'⟩ :=
    hf x names tail middle middle' y last hmiddle hall hrest hbare hnodes
  exact ⟨last', (run_bind_of_ok hfirst' _).trans hrest', hlast, Nat.le_trans hle hle', hnumbered'⟩

end

/-! ## Branches and groups -/

section

variable {offset fuel fuel' : Nat} (ih : Simulates offset fuel fuel')

include ih

omit ih in
theorem plain_of_branch {verbose verbose' first outermost : Bool} {branches result : List (List Node)}
    {branch : List Node} {s middle last : Source} (hs : s.rest ≠ ['\\'])
    (hbranch : (Reader.sequence fuel verbose first []).run s = .ok (branch, middle))
    (hrun : (Reader.moreBranches fuel verbose' outermost (branches ++ [branch])).run middle =
      .ok (result, last))
    (hbare : last.IsBare) (hplain : IsPlainSequence result.flatten) :
    s.IsBare ∧ middle.IsBare ∧ IsPlainSequence branch := by
  have hfirst := ((progresses fuel).sequence _ _ _ _ _ _ hs hbranch).1
  obtain ⟨hrest, hresult⟩ := (progresses fuel).moreBranches _ _ _ _ _ _ hfirst.backslash hrun
  have hmem : branch ∈ result := hresult branch (List.mem_append_right _ (List.mem_singleton_self _))
  exact ⟨(hfirst.trans hrest).bare hbare, hrest.bare hbare, List.forall_mem_flatten.mp hplain branch hmem⟩

theorem Simulates.alternatives_succ (outermost outermost' : Bool) :
    Follows offset id (fun f => List.map (Node.renumber f)) []
      (Reader.alternatives (fuel + 1) false outermost)
      (Reader.alternatives (fuel' + 1) false outermost') := by
  intro names tail s s' nodes last hs hbefore hrun hbare hplain
  rw [Reader.alternatives] at hrun
  obtain ⟨first, middle, hfirst, hrun⟩ := run_bind_eq_ok hrun
  obtain ⟨branches, after, hmore, hrun⟩ := run_bind_eq_ok hrun
  obtain ⟨rfl, rfl⟩ := run_pure_eq_ok hrun
  have hall : IsPlainSequence branches.flatten :=
    List.forall_mem_flatten.mpr (isPlainSequence_of_joinBranches hplain)
  have hsecond : (Reader.moreBranches fuel false outermost ([] ++ [first])).run middle =
      .ok (branches, last) := hmore
  obtain ⟨-, hmiddle, hfirstPlain⟩ :=
    plain_of_branch hs.continues.backslash hfirst hsecond hbare hall
  obtain ⟨middle', hfirst', hembeds, hle, hnumbered⟩ := ih.sequence outermost outermost' []
    names tail s s' first middle hs hbefore hfirst hmiddle hfirstPlain
  obtain ⟨last', hmore', hembeds', hle', hnumbered'⟩ := ih.moreBranches outermost outermost' [first]
    names tail middle middle' branches last hembeds (by simpa using hnumbered) hmore hbare hall
  refine ⟨last', ?_, hembeds', Nat.le_trans hle hle', hnumbered'.of_binds fun n hn g hg => ?_⟩
  · rw [Reader.alternatives]
    refine (run_bind_of_ok hfirst' _).trans ((run_bind_of_ok hmore' _).trans ?_)
    rw [joinBranches_renumber (add_left_injective offset)]
    rfl
  · obtain ⟨branch, hbranch, m, hm, hmg⟩ := exists_binds_of_joinBranches hn hg
    exact ⟨m, List.mem_flatten.mpr ⟨branch, hbranch, hm⟩, hmg⟩

theorem Simulates.branch (outermost outermost' : Bool) (branches : List (List Node)) :
    Follows offset List.flatten (fun f => List.map (List.map (Node.renumber f))) branches.flatten
      (do
        let s ← get
        let verbose := if outermost then s.flags.verbose else false
        let branch ← Reader.sequence fuel verbose false []
        Reader.moreBranches fuel verbose outermost (branches ++ [branch]))
      (do
        let s ← get
        let verbose := if outermost' then s.flags.verbose else false
        let branch ← Reader.sequence fuel' verbose false []
        Reader.moreBranches fuel' verbose outermost'
          (branches.map (List.map (Node.renumber (· + offset))) ++ [branch])) := by
  have hfollows : Follows offset List.flatten (fun f => List.map (List.map (Node.renumber f)))
      branches.flatten
      (do
        let branch ← Reader.sequence fuel false false []
        Reader.moreBranches fuel false outermost (branches ++ [branch]))
      (do
        let branch ← Reader.sequence fuel' false false []
        Reader.moreBranches fuel' false outermost'
          (branches.map (List.map (Node.renumber (· + offset))) ++ [branch])) := by
    refine (ih.sequence false false []).bind (fun _ _ _ _ _ hs hbranch hrun hbare hplain =>
      (plain_of_branch hs hbranch hrun hbare hplain).2) fun branch => ?_
    simpa using ih.moreBranches outermost outermost' (branches ++ [branch])
  intro names tail s s' result last hs hbefore hrun hbare hplain
  obtain ⟨_, _, hget, hrun⟩ := run_bind_eq_ok hrun
  cases hget
  obtain ⟨branch, middle, hbranch, hmore⟩ := run_bind_eq_ok hrun
  -- nothing has set a flag, or the last source would have one
  have hflags := (plain_of_branch hs.continues.backslash hbranch hmore hbare hplain).1.1
  have hverbose : (if outermost then s.flags.verbose else false) = false := by
    rw [hflags]
    exact ite_self _
  have hverbose' : (if outermost' then s'.flags.verbose else false) = false := by
    rw [hs.flags]
    exact ite_self _
  rw [hverbose] at hrun
  rw [run_bind_of_ok (m := get) (s := s') rfl, hverbose']
  exact hfollows names tail s s' result last hs hbefore hrun hbare hplain

theorem Simulates.moreBranches_succ (outermost outermost' : Bool) (branches : List (List Node)) :
    Follows offset List.flatten (fun f => List.map (List.map (Node.renumber f))) branches.flatten
      (Reader.moreBranches (fuel + 1) false outermost branches)
      (Reader.moreBranches (fuel' + 1) false outermost'
        (branches.map (List.map (Node.renumber (· + offset))))) := by
  rw [Reader.moreBranches, Reader.moreBranches]
  refine Follows.of_agrees (agrees_accept (by decide)) fun _ more _ _ _ => ?_
  cases more with
  | false =>
      intro names tail s s' result last hs hbefore hrun _ _
      obtain ⟨rfl, rfl⟩ := run_pure_eq_ok hrun
      exact ⟨s', rfl, hs, Nat.le_refl _, hbefore⟩
  | true => exact ih.branch outermost outermost' branches

theorem Simulates.body {names : List (List Char × Nat)} {tail : List Char}
    {s s' after last : Source} {start : Nat} {nodes : List Node} (start' : Nat)
    (hs : Embeds offset names tail s s')
    (hrun : (Reader.alternatives fuel false false).run s = .ok (nodes, after))
    (hparen : (closeParenthesis start).run after = .ok ((), last)) (hbare : last.IsBare)
    (hplain : IsPlainSequence nodes) :
    ∃ after' last', (Reader.alternatives fuel' false false).run s' =
        .ok (nodes.map (Node.renumber (· + offset)), after') ∧
      (closeParenthesis start').run after' = .ok ((), last') ∧
      Embeds offset names tail last last' ∧ s.groupCount ≤ last.groupCount ∧
      AreNumbered last.groupCount nodes := by
  have hadvances := (progresses fuel).alternatives _ _ _ _ _ hs.continues.backslash hrun
  have hafterBare : after.IsBare :=
    ((agrees_closeParenthesis start start).keeps.advances hadvances.backslash hparen).bare hbare
  obtain ⟨after', hrun', hafter, hle, hnumbered⟩ := ih.alternatives false false names tail s s' nodes
    after hs (List.forall_mem_nil _) hrun hafterBare hplain
  obtain ⟨last', hparen', hmove⟩ := agrees_closeParenthesis start start' after after' tail
    hafter.continues () last hparen trivial
  obtain ⟨hlast, hsame⟩ := hafter.move hmove
  exact ⟨after', last', hrun', hparen', hlast, hsame ▸ hle, hsame ▸ hnumbered⟩

theorem Simulates.group_succ (start start' : Nat) (opened : Opening) (hopened : opened.IsPlain) :
    Follows offset Part.nodes Part.renumber [] (Reader.group (fuel + 1) false start opened)
      (Reader.group (fuel' + 1) false start' opened) := by
  intro names tail s s' part last hs _ hrun hbare hplain
  match opened, hopened with
  | .comment, _ =>
      rw [Reader.group.eq_def] at hrun
      obtain ⟨rfl, rfl⟩ := run_pure_eq_ok hrun
      exact ⟨s', by rw [Reader.group.eq_def]; rfl, hs, Nat.le_refl _, List.forall_mem_nil _⟩
  | .capture none, _ =>
      obtain ⟨index, middle, nodes, after, end', hopen, halternatives, hparen, rfl, rfl⟩ :=
        group_capture_eq_ok hrun
      cases hopen
      have hnodes : IsPlainSequence nodes :=
        isPlain_ofList.mp (hplain (.group _ (.ofList nodes)) (List.mem_singleton_self _))
      obtain ⟨after', last', halternatives', hparen', hend, hle, hnumbered⟩ :=
        ih.body start' hs.openGroup halternatives hparen hbare hnodes
      have hgroup : s.groupCount < end'.groupCount := by
        simp only [Source.groupCount, List.length_append, List.length_singleton] at hle ⊢
        omega
      have hlast : (closed end' s.groupCount (.ofList nodes)).groupCount = end'.groupCount := by
        simp [closed, Source.groupCount]
      have hgroup' := run_group_capture (run_openGroup_none s') halternatives' hparen'
      rw [hs.groups, Node.renumber_ofList] at hgroup'
      refine ⟨_, hgroup', hend.closed _ _ _ _, by omega, ?_⟩
      intro n hn g hg
      rw [List.mem_singleton.mp hn] at hg
      rw [hlast]
      rcases hg with rfl | hg
      · exact ⟨hs.counted, hgroup⟩
      · obtain ⟨m, hm, hmg⟩ := Node.binds_ofList.mp hg
        exact hnumbered m hm g hmg
  | .flagged _ _, ⟨rfl, rfl⟩ =>
      obtain ⟨nodes, after, halternatives, hparen, rfl⟩ := group_plain_eq_ok hrun
      obtain ⟨after', last', halternatives', hparen', hend, hle, hnumbered⟩ :=
        ih.body start' hs halternatives hparen hbare hplain
      exact ⟨last', run_group_plain halternatives' hparen', hend, hle, hnumbered⟩

/-! ## Items of sequences -/

omit ih in
theorem plain_of_sequence {verbose first : Bool} {parts : List Part} {s last : Source}
    {nodes : List Node} (hs : s.rest ≠ ['\\'])
    (hrun : (Reader.sequence fuel verbose first parts).run s = .ok (nodes, last))
    (hbare : last.IsBare) (hplain : IsPlainSequence nodes) :
    s.IsBare ∧ IsPlainSequence (nodesOf parts) := by
  obtain ⟨hadvances, hparts⟩ := (progresses fuel).sequence _ _ _ _ _ _ hs hrun
  exact ⟨hadvances.bare hbare, hparts hplain⟩

omit ih in
theorem plain_of_part {verbose first : Bool} {start : Nat} {opened : Opening} {part : Part}
    {parts : List Part} {s middle last : Source} {nodes : List Node} (hs : s.rest ≠ ['\\'])
    (hpart : (Reader.group fuel verbose start opened).run s = .ok (part, middle))
    (hrun : (Reader.sequence fuel verbose first (part :: parts)).run middle = .ok (nodes, last))
    (hbare : last.IsBare) (hplain : IsPlainSequence nodes) :
    middle.IsBare ∧ IsPlainSequence part.nodes := by
  have hmiddle := ((progresses fuel).group _ _ _ _ _ _ hs hpart).1.backslash
  obtain ⟨hmiddleBare, hparts⟩ := plain_of_sequence hmiddle hrun hbare hplain
  rw [nodesOf_cons, isPlainSequence_append] at hparts
  exact ⟨hmiddleBare, hparts.2⟩

variable (first first' : Bool) (parts : List Part)

theorem Simulates.add {n : Node} (hn : isShareable n) :
    Follows offset id (fun f => List.map (Node.renumber f)) (nodesOf parts)
      (Reader.sequence fuel false first (.one n :: parts))
      (Reader.sequence fuel' false first' (.one n :: parts.map (Part.renumber (· + offset)))) := by
  intro names tail s s' nodes last hs hbefore hrun hbare hplain
  have hparts := (plain_of_sequence hs.continues.backslash hrun hbare hplain).2
  have hnumbered : AreNumbered s.groupCount (nodesOf (.one n :: parts)) := by
    rw [nodesOf_cons, areNumbered_append]
    refine ⟨hbefore, fun m hm g hg => absurd hg ?_⟩
    rw [List.mem_singleton.mp hm]
    exact not_binds_of_isShareable hn g
  have hrest := ih.sequence first first' _ names tail s s' nodes last hs hnumbered hrun hbare hplain
  rwa [List.map_cons, Part.renumber, Node.renumber_of_isShareable hn
    (hparts n (by simp [nodesOf_cons, Part.nodes]))] at hrest

theorem Simulates.escape (c : Char) :
    Follows offset id (fun f => List.map (Node.renumber f)) (nodesOf parts)
      (do Reader.sequence fuel false first (.one (← escapeOutside c) :: parts))
      (do
        let n ← escapeOutside c
        Reader.sequence fuel' false first' (.one n :: parts.map (Part.renumber (· + offset)))) := by
  refine Follows.of_agreesOn (fun _ _ _ => agreesOn_escapeOutside c)
    fun s n middle nodes last hs hescape hrun hbare hplain => ?_
  obtain ⟨hadvances, hn⟩ := keeps_escapeOutside c s n middle hs hescape
  have hparts := (plain_of_sequence hadvances.backslash hrun hbare hplain).2
  exact ⟨hparts n (by simp [nodesOf_cons, Part.nodes]), ih.add first first' parts hn⟩

theorem Simulates.characterClass :
    Follows offset id (fun f => List.map (Node.renumber f)) (nodesOf parts)
      (do Reader.sequence fuel false first (.one (← characterClass ((← index) - 1)) :: parts))
      (do
        let n ← characterClass ((← index) - 1)
        Reader.sequence fuel' false first' (.one n :: parts.map (Part.renumber (· + offset)))) := by
  refine Follows.of_index fun i j => ?_
  refine Follows.of_agrees (agrees_characterClass _ _) fun s n middle hs hclass => ?_
  exact ih.add first first' parts (keeps_characterClass _ s n middle hs hclass).2

theorem Simulates.loop (here here' least : Nat) (most : Option Nat) :
    Follows offset id (fun f => List.map (Node.renumber f)) (nodesOf parts)
      (do Reader.sequence fuel false first (← repeatLast here least most parts))
      (do
        Reader.sequence fuel' false first'
          (← repeatLast here' least most (parts.map (Part.renumber (· + offset))))) := by
  intro names tail s s' nodes last hs hbefore hrun hbare hplain
  obtain ⟨repeated, middle, hrepeat, hrun⟩ := run_bind_eq_ok hrun
  obtain ⟨part, rest, g, rfl, hpart, hgreed, rfl⟩ := repeatLast_eq_ok hrepeat
  obtain ⟨middle', hgreed', hmove⟩ := agrees_greed s s' tail hs.continues g middle hgreed trivial
  obtain ⟨hmiddle, hsame⟩ := hs.move hmove
  -- a loop has the groups of its body
  have hloop : AreNumbered middle.groupCount
      (nodesOf (.one (.loop g least most part.node) :: rest)) := by
    rw [hsame]
    refine hbefore.of_binds fun n hn k hk => ?_
    rw [nodesOf_cons] at hn ⊢
    rcases List.mem_append.mp hn with hn | hn
    · exact ⟨n, List.mem_append_left _ hn, hk⟩
    · rw [List.mem_singleton.mp hn] at hk
      obtain ⟨m, hm, hmk⟩ := Part.binds_node.mp hk
      exact ⟨m, List.mem_append_right _ hm, hmk⟩
  obtain ⟨last', hrest, hlast⟩ := ih.sequence first first' _ names tail middle middle' nodes last
    hmiddle hloop hrun hbare hplain
  have hrepeat' := run_repeatLast here' least most (rest.map (Part.renumber (· + offset)))
    (Part.isRepeatable_renumber hpart (· + offset)) hgreed'
  rw [Part.node_renumber] at hrepeat'
  exact ⟨last', (run_bind_of_ok hrepeat' _).trans hrest, hsame ▸ hlast⟩

theorem Simulates.repetition (mark : Char) :
    Follows offset id (fun f => List.map (Node.renumber f)) (nodesOf parts)
      (do
        let here ← index
        match ← bounds? mark with
        | none => Reader.sequence fuel false first (.one (.literal mark.toNat) :: parts)
        | some (least, most) =>
          Reader.sequence fuel false first (← repeatLast here least most parts))
      (do
        let here ← index
        match ← bounds? mark with
        | none =>
          Reader.sequence fuel' false first'
            (.one (.literal mark.toNat) :: parts.map (Part.renumber (· + offset)))
        | some (least, most) =>
          Reader.sequence fuel' false first'
            (← repeatLast here least most (parts.map (Part.renumber (· + offset))))) := by
  refine Follows.of_index fun here here' => ?_
  refine Follows.of_agrees (agrees_bounds? mark) fun _ bounds _ _ _ => ?_
  match bounds with
  | none => exact ih.add first first' parts (n := .literal mark.toNat) rfl
  | some (least, most) => exact ih.loop first first' parts here here' least most

theorem Simulates.part (start start' : Nat) {opened : Opening} (hopened : opened.IsPlain) :
    Follows offset id (fun f => List.map (Node.renumber f)) (nodesOf parts)
      (do
        let part ← Reader.group fuel false start opened
        Reader.sequence fuel false first (part :: parts))
      (do
        let part ← Reader.group fuel' false start' opened
        Reader.sequence fuel' false first' (part :: parts.map (Part.renumber (· + offset)))) := by
  refine (ih.group start start' opened hopened).bind
    (fun _ _ _ _ _ => plain_of_part) fun part => ?_
  rw [← nodesOf_cons]
  exact ih.sequence first first' (part :: parts)

theorem Simulates.parenthesis :
    Follows offset id (fun f => List.map (Node.renumber f)) (nodesOf parts)
      (do
        let start := (← index) - 1
        match ← opening start with
        | .comment => Reader.sequence fuel false first parts
        | .overallFlags =>
          if !first || !parts.isEmpty then fail .lateFlags ((← index) - start)
          let s ← get
          Reader.sequence fuel s.flags.verbose first parts
        | .done part => Reader.sequence fuel false first (part :: parts)
        | other =>
          let part ← Reader.group fuel false start other
          Reader.sequence fuel false first (part :: parts))
      (do
        let start := (← index) - 1
        match ← opening start with
        | .comment => Reader.sequence fuel' false first' (parts.map (Part.renumber (· + offset)))
        | .overallFlags =>
          if !first' || !(parts.map (Part.renumber (· + offset))).isEmpty then
            fail .lateFlags ((← index) - start)
          let s ← get
          Reader.sequence fuel' s.flags.verbose first' (parts.map (Part.renumber (· + offset)))
        | .done part =>
          Reader.sequence fuel' false first' (part :: parts.map (Part.renumber (· + offset)))
        | other =>
          let part ← Reader.group fuel' false start other
          Reader.sequence fuel' false first' (part :: parts.map (Part.renumber (· + offset)))) := by
  refine Follows.of_index fun i j => ?_
  refine Follows.of_agreesOn (fun _ _ _ => agreesOn_opening (i - 1) (j - 1))
    fun s opened middle nodes last hs hopening hrun hbare hplain => ?_
  obtain ⟨hmiddle, hproper⟩ := advances_opening hs hopening
  cases opened with
  | comment =>
      exact ⟨⟨trivial, (plain_of_sequence hmiddle.backslash hrun hbare hplain).1⟩,
        ih.sequence first first' parts⟩
  | overallFlags =>
      dsimp only at hrun
      split at hrun
      next => exact absurd hrun (fails_bind _ (fun _ => (fails_fail _ _).bind _) _ _ _)
      next =>
        obtain ⟨seen, _, hget, hrun⟩ := run_bind_eq_ok hrun
        cases hget
        exact absurd (plain_of_sequence hmiddle.backslash hrun hbare hplain).1 hproper
  | done part =>
      obtain ⟨n, hn, hnot⟩ := hproper
      have hparts := (plain_of_sequence hmiddle.backslash hrun hbare hplain).2
      rw [nodesOf_cons, isPlainSequence_append] at hparts
      simp [hparts.2 n hn] at hnot
  | capture _ | flagged _ _ | atomic | look _ | lookBehind _ | condition _ =>
      -- what has been opened is plain, since the group is
      obtain ⟨part, end', hpart, hrun⟩ := run_bind_eq_ok hrun
      obtain ⟨hend, hnodes⟩ := plain_of_part hmiddle.backslash hpart hrun hbare hplain
      obtain ⟨hadvances, hgroup⟩ := (progresses fuel).group _ _ _ _ _ _ hmiddle.backslash hpart
      have hopened := hgroup trivial hend hnodes
      exact ⟨⟨hopened, hadvances.bare hend⟩, ih.part first first' parts _ _ hopened⟩

theorem Simulates.sequence_succ :
    Follows offset id (fun f => List.map (Node.renumber f)) (nodesOf parts)
      (Reader.sequence (fuel + 1) false first parts)
      (Reader.sequence (fuel' + 1) false first' (parts.map (Part.renumber (· + offset)))) := by
  intro names tail s s' nodes last hs hbefore hrun hbare hplain
  have hstop (hend : s.peek = none ∨ s.peek = some ['|'] ∨ s.peek = some [')'])
      (hend' : s'.peek = none ∨ s'.peek = some ['|'] ∨ s'.peek = some [')']) :
      ∃ last', (Reader.sequence (fuel' + 1) false first'
          (parts.map (Part.renumber (· + offset)))).run s' =
            .ok (nodes.map (Node.renumber (· + offset)), last') ∧
        Embeds offset names tail last last' ∧ s.groupCount ≤ last.groupCount ∧
        AreNumbered last.groupCount nodes := by
    rw [run_sequence_end hend] at hrun
    cases hrun
    exact ⟨s', by rw [run_sequence_end hend', nodesOf_renumber], hs, Nat.le_refl _, hbefore⟩
  cases htoken : s.peek with
  | none => exact hstop (.inl htoken) (.inr (.inr (hs.continues.peek_of_none htoken)))
  | some token =>
      have htoken' := (next_append hs.continues.backslash htoken hs.continues.rest).1
      by_cases hend : token = ['|'] ∨ token = [')']
      · refine hstop ?_ ?_
        · rw [htoken]
          simpa using hend
        · rw [htoken']
          simpa using hend
      · rw [not_or] at hend
        obtain ⟨middle, hnext⟩ := exists_next_of_sequence htoken hend.1 hend.2 hrun
        obtain ⟨-, middle', hnext', hmove⟩ := hs.continues.next hnext
        obtain ⟨hmiddle, hcount⟩ := hs.move hmove
        have hparts : AreNumbered middle.groupCount (nodesOf parts) := hcount ▸ hbefore
        rw [run_sequence htoken hend.1 hend.2 hnext] at hrun
        rw [run_sequence htoken' hend.1 hend.2 hnext', ← hcount]
        cases hitem : Item.ofToken token with
        | escape c =>
            simp only [hitem] at hrun ⊢
            exact ih.escape first first' parts c names tail middle middle' nodes last hmiddle hparts
              hrun hbare hplain
        | characterClass =>
            simp only [hitem] at hrun ⊢
            exact ih.characterClass first first' parts names tail middle middle' nodes last hmiddle
              hparts hrun hbare hplain
        | parenthesis =>
            simp only [hitem] at hrun ⊢
            exact ih.parenthesis first first' parts names tail middle middle' nodes last hmiddle
              hparts hrun hbare hplain
        | repetition mark =>
            simp only [hitem] at hrun ⊢
            exact ih.repetition first first' parts mark names tail middle middle' nodes last hmiddle
              hparts hrun hbare hplain
        | node n =>
            simp only [hitem] at hrun ⊢
            exact ih.add first first' parts (isShareable_of_ofToken hitem) names tail middle middle'
              nodes last hmiddle hparts hrun hbare hplain
        | nothing =>
            simp only [hitem] at hrun ⊢
            exact ih.sequence first first' parts names tail middle middle' nodes last hmiddle hparts
              hrun hbare hplain

end

theorem simulates (offset : Nat) {fuel fuel' : Nat} (h : fuel ≤ fuel') :
    Simulates offset fuel fuel' := by
  induction fuel generalizing fuel' with
  | zero =>
      constructor
      · intro outermost outermost' names tail s s' x last _ _ hrun
        exact absurd hrun (fails_throw _ _ _ _)
      · intro outermost outermost' branches names tail s s' x last _ _ hrun
        exact absurd hrun (fails_throw _ _ _ _)
      · intro first first' parts names tail s s' x last _ _ hrun
        exact absurd hrun (fails_throw _ _ _ _)
      · intro start start' opened _ names tail s s' x last _ _ hrun
        rw [Reader.group.eq_def] at hrun
        exact absurd hrun (fails_throw _ _ _ _)
  | succ fuel ih =>
      obtain ⟨fuel', rfl⟩ : ∃ m, fuel' = m + 1 := ⟨fuel' - 1, by omega⟩
      have hsmaller : Simulates offset fuel fuel' := ih (by omega)
      exact ⟨hsmaller.alternatives_succ, hsmaller.moreBranches_succ, hsmaller.sequence_succ,
        hsmaller.group_succ⟩

end HttpRouting.Regex.Reader
