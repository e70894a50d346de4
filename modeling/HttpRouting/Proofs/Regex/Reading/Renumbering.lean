import HttpRouting.Proofs.Regex.Language
import HttpRouting.Proofs.Regex.Reading.Progress

/-!
# Numbers of groups

A node whose groups have other numbers matches the same words.  Joining
branches only asks whether nodes are equal, so it commutes with any renumbering
that keeps different numbers apart; and it loses no group, since only nodes
without groups are moved out of branches or merged.
-/

namespace HttpRouting.Regex

namespace Node

/-- The node with other numbers for its groups. -/
def renumber (f : Nat → Nat) : Node → Node
  | .seq first second => .seq (first.renumber f) (second.renumber f)
  | .alt first second => .alt (first.renumber f) (second.renumber f)
  | .loop greed least most body => .loop greed least most (body.renumber f)
  | .group index body => .group (f index) (body.renumber f)
  | .flagged on off body => .flagged on off (body.renumber f)
  | .atomic body => .atomic (body.renumber f)
  | .look direction negated body => .look direction negated (body.renumber f)
  | .backreference index => .backreference (f index)
  | .conditional index present absent =>
    .conditional (f index) (present.renumber f) (absent.renumber f)
  | n => n

variable (f : Nat → Nat)

theorem isPlain_renumber (n : Node) : (n.renumber f).isPlain = n.isPlain := by
  induction n <;> simp_all [renumber, isPlain]

theorem language_renumber (n : Node) : (n.renumber f).language = n.language := by
  induction n with
  | seq first second ihfirst ihsecond => exact congrArg₂ (· * ·) ihfirst ihsecond
  | alt first second ihfirst ihsecond => exact congrArg₂ (· + ·) ihfirst ihsecond
  | loop greed least most body ih =>
      exact congrArg (fun l => l ^ least * upTo l (most.map (· - least))) ih
  | group index body ih => exact ih
  | _ => rfl

theorem binds_renumber {n : Node} {g : Nat} (h : (n.renumber f).Binds g) :
    ∃ i, n.Binds i ∧ g = f i := by
  induction n with
  | seq first second ihfirst ihsecond | alt first second ihfirst ihsecond
  | conditional _ first second ihfirst ihsecond =>
      rcases h with h | h
      · obtain ⟨i, hi, heq⟩ := ihfirst h
        exact ⟨i, .inl hi, heq⟩
      · obtain ⟨i, hi, heq⟩ := ihsecond h
        exact ⟨i, .inr hi, heq⟩
  | loop _ _ _ body ih | flagged _ _ body ih | atomic body ih | look _ _ body ih => exact ih h
  | group index body ih =>
      rcases h with h | h
      · exact ⟨index, .inl rfl, h.symm⟩
      · obtain ⟨i, hi, heq⟩ := ih h
        exact ⟨i, .inr hi, heq⟩
  | _ => exact absurd h (by simp [renumber, Binds])

theorem renumber_renumber (g f : Nat → Nat) (n : Node) :
    (n.renumber f).renumber g = n.renumber (g ∘ f) := by
  induction n with
  | seq first second ihfirst ihsecond => exact congrArg₂ seq ihfirst ihsecond
  | alt first second ihfirst ihsecond => exact congrArg₂ alt ihfirst ihsecond
  | conditional index first second ihfirst ihsecond =>
      exact congrArg₂ (conditional (g (f index))) ihfirst ihsecond
  | loop greed least most body ih => exact congrArg (loop greed least most) ih
  | group index body ih => exact congrArg (group (g (f index))) ih
  | flagged on off body ih => exact congrArg (flagged on off) ih
  | atomic body ih => exact congrArg atomic ih
  | look direction negated body ih => exact congrArg (look direction negated) ih
  | _ => rfl

theorem renumber_id (n : Node) : n.renumber id = n := by
  induction n with
  | seq first second ihfirst ihsecond => exact congrArg₂ seq ihfirst ihsecond
  | alt first second ihfirst ihsecond => exact congrArg₂ alt ihfirst ihsecond
  | conditional index first second ihfirst ihsecond =>
      exact congrArg₂ (conditional index) ihfirst ihsecond
  | loop greed least most body ih => exact congrArg (loop greed least most) ih
  | group index body ih => exact congrArg (group index) ih
  | flagged on off body ih => exact congrArg (flagged on off) ih
  | atomic body ih => exact congrArg atomic ih
  | look direction negated body ih => exact congrArg (look direction negated) ih
  | _ => rfl

theorem renumber_inj {f : Nat → Nat} (hf : Function.Injective f) {m n : Node} :
    m.renumber f = n.renumber f ↔ m = n := by
  obtain ⟨g, hg⟩ := hf.hasLeftInverse
  refine ⟨fun h => ?_, fun h => h ▸ rfl⟩
  have hback := congrArg (renumber g) h
  rwa [renumber_renumber, renumber_renumber, hg.comp_eq_id, renumber_id, renumber_id] at hback

theorem renumber_ofList (nodes : List Node) :
    ofList (nodes.map (renumber f)) = (ofList nodes).renumber f := by
  induction nodes with
  | nil => rfl
  | cons n rest ih =>
      cases rest with
      | nil => rfl
      | cons m rest => simpa [ofList, renumber] using ih

theorem renumber_ofAlternatives (branches : List (List Node)) :
    ofAlternatives (branches.map (List.map (renumber f))) = (ofAlternatives branches).renumber f := by
  induction branches with
  | nil => rfl
  | cons branch rest ih =>
      cases rest with
      | nil => simp [ofAlternatives, renumber_ofList]
      | cons other rest => simpa [ofAlternatives, renumber, renumber_ofList] using ih

end Node

/-! ## Joined branches -/

variable {branches : List (List Node)} {f : Nat → Nat}

theorem isShareable_renumber (f : Nat → Nat) (n : Node) : isShareable (n.renumber f) = isShareable n := by
  cases n <;> rfl

theorem sharedHead?_renumber (hf : Function.Injective f) (branches : List (List Node)) :
    sharedHead? (branches.map (List.map (Node.renumber f))) =
      (sharedHead? branches).map (Node.renumber f) := by
  have hhead (head : Node) (branch : List Node) :
      ((branch.map (Node.renumber f)).head? == some (head.renumber f)) =
        (branch.head? == some head) := by
    cases branch with
    | nil => rfl
    | cons n rest =>
        rw [Bool.eq_iff_iff]
        simp [Node.renumber_inj hf]
  rcases branches with _ | ⟨_ | ⟨head, tail⟩, rest⟩
  · rfl
  · rfl
  · simp only [sharedHead?, List.map_cons, isShareable_renumber, List.all_map, Function.comp_def, hhead]
    split <;> rfl

theorem factor_renumber (hf : Function.Injective f) (fuel : Nat) (branches : List (List Node)) :
    factor fuel (branches.map (List.map (Node.renumber f))) =
      ((factor fuel branches).1.map (Node.renumber f),
        (factor fuel branches).2.map (List.map (Node.renumber f))) := by
  induction fuel generalizing branches with
  | zero => rfl
  | succ fuel ih =>
      rw [factor, factor, sharedHead?_renumber hf]
      cases sharedHead? branches with
      | none => rfl
      | some head =>
          have htails : (branches.map (List.map (Node.renumber f))).map List.tail =
              (branches.map List.tail).map (List.map (Node.renumber f)) := by
            simp [List.map_tail, Function.comp_def]
          simp only [Option.map_some, htails, ih]
          rfl

theorem mergedClass?_renumber (f : Nat → Nat) (branches : List (List Node)) :
    mergedClass? (branches.map (List.map (Node.renumber f))) = mergedClass? branches := by
  have hclass (branch : List Node) :
      plainClass? (branch.map (Node.renumber f)) = plainClass? branch := by
    rcases branch with _ | ⟨n, _ | ⟨m, rest⟩⟩
    · rfl
    · cases n <;> rfl
    · rcases n with _ | ⟨_ | _, items⟩ | _ <;> rfl
  rw [mergedClass?, mergedClass?, List.mapM_map, show plainClass? ∘ List.map (Node.renumber f) =
    plainClass? from funext hclass]

theorem joinBranches_of_ne (h : branches.length ≠ 1) :
    joinBranches branches =
      (factor (branches.headD []).length branches).1 ++
        [match mergedClass? (factor (branches.headD []).length branches).2 with
          | some items => .chars false items
          | none => .ofAlternatives (factor (branches.headD []).length branches).2] := by
  have hmany : joinBranches branches =
      match mergedClass? (factor (branches.headD []).length branches).2 with
      | some items => (factor (branches.headD []).length branches).1 ++ [.chars false items]
      | none => (factor (branches.headD []).length branches).1 ++
          [.ofAlternatives (factor (branches.headD []).length branches).2] := by
    rcases branches with _ | ⟨first, _ | ⟨second, rest⟩⟩
    · rfl
    · simp at h
    · rfl
  rw [hmany]
  split <;> rfl

theorem joinBranches_renumber (hf : Function.Injective f) (branches : List (List Node)) :
    joinBranches (branches.map (List.map (Node.renumber f))) =
      (joinBranches branches).map (Node.renumber f) := by
  by_cases hone : branches.length = 1
  · obtain ⟨branch, rfl⟩ := List.length_eq_one_iff.mp hone
    rfl
  · have hlength : ((branches.map (List.map (Node.renumber f))).headD []).length =
        (branches.headD []).length := by
      cases branches <;> simp
    rw [joinBranches_of_ne hone, joinBranches_of_ne (by simpa using hone), hlength, factor_renumber hf,
      mergedClass?_renumber, List.map_append]
    congr 1
    split
    next => rfl
    next => rw [Node.renumber_ofAlternatives]; rfl

theorem factor_eq (fuel : Nat) (branches : List (List Node)) :
    branches = (factor fuel branches).2.map ((factor fuel branches).1 ++ ·) ∧
      ∀ n ∈ (factor fuel branches).1, isShareable n := by
  induction fuel generalizing branches with
  | zero => simp [factor]
  | succ fuel ih =>
      rw [factor]
      cases hshared : sharedHead? branches with
      | none => simp
      | some head =>
          obtain ⟨hhead, htails⟩ : isShareable head ∧
              ∀ branch ∈ branches, branch = head :: branch.tail := by
            unfold sharedHead? at hshared
            split at hshared
            next first tail rest =>
              split at hshared
              next hall =>
                simp only [Option.some.injEq] at hshared
                subst hshared
                simp only [Bool.and_eq_true, List.all_eq_true, beq_iff_eq] at hall
                refine ⟨hall.1, fun branch hbranch => ?_⟩
                rcases List.mem_cons.mp hbranch with rfl | hrest
                · rfl
                · exact (List.cons_head?_tail (hall.2 branch hrest)).symm
              next => simp at hshared
            next => simp at hshared
          obtain ⟨hrest, hshareable⟩ := ih (branches.map List.tail)
          refine ⟨?_, ?_⟩
          · calc branches = (branches.map List.tail).map (head :: ·) := by
                  rw [List.map_map]
                  exact (List.map_id _).symm.trans (List.map_congr_left fun b hb => htails b hb)
              _ = _ := by
                  conv => lhs; rw [hrest]
                  simp [Function.comp_def]
          · intro n hn
            rcases List.mem_cons.mp hn with rfl | hmore
            · exact hhead
            · exact hshareable n hmore

theorem Node.binds_ofList {nodes : List Node} {g : Nat} :
    (ofList nodes).Binds g ↔ ∃ n ∈ nodes, n.Binds g := by
  induction nodes with
  | nil => simp [ofList, Binds]
  | cons n rest ih =>
      cases rest with
      | nil => simp [ofList]
      | cons m rest =>
          rw [List.exists_mem_cons_iff, ← ih]
          rfl

theorem Node.binds_ofAlternatives {g : Nat} :
    (ofAlternatives branches).Binds g ↔ ∃ branch ∈ branches, ∃ n ∈ branch, n.Binds g := by
  induction branches with
  | nil => simp [ofAlternatives, Binds]
  | cons branch rest ih =>
      cases rest with
      | nil => simp [ofAlternatives, binds_ofList]
      | cons other rest =>
          rw [List.exists_mem_cons_iff, ← ih, ← binds_ofList]
          rfl

theorem Node.isPlain_ofAlternatives (h : (ofAlternatives branches).isPlain) :
    ∀ branch ∈ branches, Reader.IsPlainSequence branch := by
  induction branches with
  | nil => simp
  | cons branch rest ih =>
      cases rest with
      | nil => exact List.forall_mem_singleton.mpr (Reader.isPlain_ofList.mp h)
      | cons other rest =>
          simp only [ofAlternatives, isPlain, Bool.and_eq_true] at h
          exact List.forall_mem_cons.mpr ⟨Reader.isPlain_ofList.mp h.1, ih h.2⟩

theorem not_binds_of_isShareable {n : Node} (h : isShareable n) (g : Nat) : ¬ n.Binds g := by
  cases n <;> simp_all [isShareable, Node.Binds]

theorem eq_of_plainClass? {branch : List Node} {items : List ClassItem}
    (h : plainClass? branch = some items) : branch = [.chars false items] := by
  unfold plainClass? at h
  split at h
  next =>
    rw [Option.some.injEq] at h
    rw [h]
  next => simp at h

theorem Node.renumber_of_isShareable {n : Node} (hn : isShareable n) (hplain : n.isPlain)
    (f : Nat → Nat) : n.renumber f = n := by
  cases n <;> simp_all [isShareable, Node.isPlain, Node.renumber]

theorem exists_items_of_mergedClass? {items : List ClassItem}
    (h : mergedClass? branches = some items) :
    ∀ branch ∈ branches, ∃ own, branch = [.chars false own] := by
  obtain ⟨classes, hclasses, -⟩ := Option.map_eq_some_iff.mp h
  clear h
  induction branches generalizing classes with
  | nil => simp
  | cons branch rest ih =>
      rw [List.mapM_cons] at hclasses
      obtain ⟨own, hown, hclasses⟩ := Option.bind_eq_some_iff.mp hclasses
      obtain ⟨more, hmore, -⟩ := Option.bind_eq_some_iff.mp hclasses
      exact List.forall_mem_cons.mpr ⟨⟨own, eq_of_plainClass? hown⟩, ih more hmore⟩

theorem isPlainSequence_of_joinBranches (h : Reader.IsPlainSequence (joinBranches branches)) :
    ∀ branch ∈ branches, Reader.IsPlainSequence branch := by
  by_cases hone : branches.length = 1
  · obtain ⟨branch, rfl⟩ := List.length_eq_one_iff.mp hone
    exact List.forall_mem_singleton.mpr h
  · rw [joinBranches_of_ne hone, Reader.isPlainSequence_append] at h
    have hrest : ∀ rest ∈ (factor (branches.headD []).length branches).2,
        Reader.IsPlainSequence rest := by
      have hlast := h.2 _ (List.mem_singleton_self _)
      split at hlast
      next items hmerged =>
        intro rest hrest
        obtain ⟨own, rfl⟩ := exists_items_of_mergedClass? hmerged rest hrest
        simp [Reader.IsPlainSequence, Node.isPlain]
      next => exact Node.isPlain_ofAlternatives hlast
    intro branch hbranch
    rw [(factor_eq (branches.headD []).length branches).1] at hbranch
    obtain ⟨rest, hmem, rfl⟩ := List.mem_map.mp hbranch
    exact Reader.isPlainSequence_append.mpr ⟨h.1, hrest rest hmem⟩

theorem exists_binds_of_joinBranches {n : Node} (hn : n ∈ joinBranches branches) {g : Nat}
    (hg : n.Binds g) : ∃ branch ∈ branches, ∃ m ∈ branch, m.Binds g := by
  by_cases hone : branches.length = 1
  · obtain ⟨branch, rfl⟩ := List.length_eq_one_iff.mp hone
    exact ⟨branch, List.mem_singleton_self _, n, hn, hg⟩
  · obtain ⟨hbranches, hshared⟩ := factor_eq (branches.headD []).length branches
    rw [joinBranches_of_ne hone, List.mem_append, List.mem_singleton] at hn
    rcases hn with hn | rfl
    · exact absurd hg (not_binds_of_isShareable (hshared n hn) g)
    · split at hg
      next => exact hg.elim
      next =>
        obtain ⟨rest, hrest, m, hm, hmg⟩ := Node.binds_ofAlternatives.mp hg
        rw [hbranches]
        exact ⟨_, List.mem_map_of_mem hrest, m, List.mem_append_right _ hm, hmg⟩

end HttpRouting.Regex
