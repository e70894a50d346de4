import HttpRouting.Proofs.Regex.Language
import Mathlib.Data.Option.Basic

/-!
# Subjects with one more character

A plain node does the same on a subject with one more character at its end, as
long as what comes after it needs this character: whatever ways to match are
tried in whatever order, those that use the character up fail, and the others
are the ways to match the shorter subject.
-/

namespace HttpRouting.Regex

/-! ## Extended cursors -/

namespace Cursor

/-- The second cursor is at the place of the first in a subject with one more character at its end. -/
structure Extends (x : Char) (c longer : Cursor) : Prop where
  before : longer.before = c.before
  after : longer.after = c.after ++ [x]
  starts : longer.starts = c.starts
  stops : longer.stops = c.stops
  stopped : ∀ stop ∈ c.stops, stop.2 ≤ c.index

variable {x : Char} {c longer : Cursor}

theorem Extends.length (h : c.Extends x longer) : longer.after.length = c.after.length + 1 := by
  rw [h.after, List.length_append, List.length_singleton]

theorem extends_atStart (x : Char) (subject : List Char) :
    (atStart subject).Extends x (atStart (subject ++ [x])) :=
  ⟨rfl, rfl, rfl, rfl, by simp [atStart]⟩

theorem Extends.openGroup (h : c.Extends x longer) (group : Nat) :
    (c.openGroup group).Extends x (longer.openGroup group) where
  before := h.before
  after := h.after
  starts := by rw [Cursor.openGroup, Cursor.openGroup, h.starts, index, index, h.before]
  stops := h.stops
  stopped := h.stopped

theorem Extends.closeGroup (h : c.Extends x longer) (group : Nat) :
    (c.closeGroup group).Extends x (longer.closeGroup group) where
  before := h.before
  after := h.after
  starts := h.starts
  stops := by rw [Cursor.closeGroup, Cursor.closeGroup, h.stops, index, index, h.before]
  stopped := List.forall_mem_cons.mpr ⟨Nat.le_refl _, h.stopped⟩

theorem Extends.advance? (h : c.Extends x longer) (accepted : Char → Bool) :
    (∃ next nextLonger, c.advance? accepted = some next ∧ longer.advance? accepted = some nextLonger ∧
      next.Extends x nextLonger) ∨
    c.advance? accepted = none ∧
      ∀ nextLonger, longer.advance? accepted = some nextLonger → nextLonger.after = [] := by
  unfold Cursor.advance?
  rw [h.after]
  cases hafter : c.after with
  | nil =>
      refine .inr ⟨rfl, fun nextLonger hnext => ?_⟩
      simp only [List.nil_append] at hnext
      split at hnext
      next =>
        obtain rfl := Option.some.inj hnext
        rfl
      next => simp at hnext
  | cons y rest =>
      simp only [List.cons_append]
      split
      next =>
        refine .inl ⟨_, _, rfl, rfl, ?_, rfl, h.starts, h.stops, fun stop hstop => ?_⟩
        · rw [h.before]
        · exact Nat.le_trans (h.stopped stop hstop) (Nat.le_succ _)
      next => exact .inr ⟨rfl, by simp⟩

theorem Extends.group? {next : Cursor} (h : c.Extends x longer) (hafter : c.after = [])
    (hpasses : longer.Passes next [x] fun _ => False) (group : Nat) :
    next.group? group = c.group? group := by
  have hsubject : next.subject = c.before.reverse ++ [x] := by
    rw [hpasses.subject, subject, h.before, h.after, hafter, List.nil_append]
  rw [Cursor.group?, Cursor.group?, hpasses.starts group id, hpasses.stops group id, h.starts, h.stops,
    hsubject, show c.subject = c.before.reverse by rw [subject, hafter, List.append_nil]]
  refine Option.bind_congr fun start _ => Option.bind_congr fun stop hstop => ?_
  have hbound : stop ≤ c.before.reverse.length := by
    obtain ⟨front, back, hstops, -⟩ := List.lookup_eq_some_iff.mp hstop
    rw [List.length_reverse]
    exact h.stopped (group, stop) (by simp [hstops])
  rw [← List.drop_take, ← List.drop_take, List.take_append_of_le_length hbound]

end Cursor

/-! ## Matchers and the additional character -/

namespace Matcher

def FailsAtEnd (k : Continuation) : Prop := ∀ c : Cursor, c.after = [] → k c = none

/-- Two continuations have related answers at a place and at the same place in the longer subject. -/
def Corresponds (x : Char) (related : Cursor → Cursor → Prop) (k longerK : Continuation) : Prop :=
  ∀ c longer, Cursor.Extends x c longer → Option.Rel related (k c) (longerK longer)

/-- Answers stay related behind a matcher, as long as what comes next needs the additional character. -/
def Ignores (x : Char) (m : Matcher) : Prop :=
  ∀ related k longerK, Corresponds x related k longerK → FailsAtEnd longerK →
    Corresponds x related (m · k) (m · longerK)

variable {x : Char} {m : Matcher} {l : Language Char} {touched : Nat → Prop}
  {related : Cursor → Cursor → Prop} {k longerK : Continuation}

theorem FailsAtEnd.of_isSound (hsound : IsSound m l touched) (hk : FailsAtEnd k) :
    FailsAtEnd (m · k) := by
  intro c hafter
  rw [Option.eq_none_iff_forall_ne_some]
  intro last hrun
  obtain ⟨word, -, next, hpasses, hnext⟩ := hsound c k last hrun
  have hrest := hpasses.after
  rw [hafter] at hrest
  rw [hk next (List.append_eq_nil_iff.mp hrest.symm).2] at hnext
  simp at hnext

theorem rel_orElse {first longerFirst : Option Cursor} {second longerSecond : Unit → Option Cursor}
    (hfirst : Option.Rel related first longerFirst)
    (hsecond : Option.Rel related (second ()) (longerSecond ())) :
    Option.Rel related (orElse first second) (orElse longerFirst longerSecond) := by
  cases hfirst with
  | some h => exact .some h
  | none => exact hsecond

theorem ignores_advance (x : Char) (accepted : Char → Bool) :
    Ignores x fun c k => (c.advance? accepted).bind k := by
  intro related k longerK hk hend c longer h
  rcases h.advance? accepted with ⟨next, nextLonger, hnext, hlonger, hextends⟩ | ⟨hnone, hlast⟩
  · dsimp only
    rw [hnext, hlonger]
    exact hk next nextLonger hextends
  · have hfails : (longer.advance? accepted).bind longerK = none :=
      Option.bind_eq_none_iff.mpr fun nextLonger hlonger => hend nextLonger (hlast nextLonger hlonger)
    dsimp only
    rw [hnone, hfails]
    exact .none

/-! ### Repetitions -/

theorem ignores_rounds (hm : Ignores x m) (hsound : IsSound m l touched) (n : Nat) :
    Ignores x (rounds m n) := by
  induction n with
  | zero => exact fun related k longerK hk _ => hk
  | succ n ih =>
      intro related k longerK hk hend
      exact hm related _ _ (ih related k longerK hk hend) (.of_isSound (isSound_rounds hsound n) hend)

section

variable (hm : Ignores x m) (hsound : IsSound m l touched) (hk : Corresponds x related k longerK)
  (hend : FailsAtEnd longerK) {c longer : Cursor} (h : c.Extends x longer)

include hm hk hend h

theorem Ignores.round {again longerAgain : Continuation} (hagainEnd : FailsAtEnd longerAgain)
    (hagain : ∀ next nextLonger, next.Extends x nextLonger → next.after.length < c.after.length →
      Option.Rel related (again next) (longerAgain nextLonger)) :
    Option.Rel related
      (m c fun next => if next.after.length < c.after.length then again next else k next)
      (m longer fun next =>
        if next.after.length < longer.after.length then longerAgain next else longerK next) := by
  refine hm related _ _ (fun next nextLonger hnext => ?_) (fun next hnext => ?_) c longer h
  · simp only [hnext.length, h.length, Nat.add_lt_add_iff_right]
    split
    next hmoved => exact hagain next nextLonger hnext hmoved
    next => exact hk next nextLonger hnext
  · split
    next => exact hagainEnd next hnext
    next => exact hend next hnext

include hsound

theorem rel_greedyRounds {fuel longerFuel : Nat} (hfuel : c.after.length < fuel)
    (hlonger : longer.after.length < longerFuel) (left : Option Nat) :
    Option.Rel related (greedyRounds m fuel left c k)
      (greedyRounds m longerFuel left longer longerK) := by
  induction fuel generalizing longerFuel left c longer with
  | zero => omega
  | succ fuel ih =>
      obtain ⟨longerFuel, rfl⟩ : ∃ n, longerFuel = n + 1 := ⟨longerFuel - 1, by omega⟩
      simp only [greedyRounds]
      split
      next => exact hk c longer h
      next =>
        refine rel_orElse (hm.round hk hend h
          (.of_isSound (isSound_greedyRounds hsound longerFuel _) hend)
          fun next nextLonger hnext hmoved => ?_) (hk c longer h)
        have := hnext.length
        have := h.length
        exact ih hnext (by omega) (by omega) _

theorem rel_lazyRounds {fuel longerFuel : Nat} (hfuel : c.after.length < fuel)
    (hlonger : longer.after.length < longerFuel) (left : Option Nat) :
    Option.Rel related (lazyRounds m fuel left c k)
      (lazyRounds m longerFuel left longer longerK) := by
  induction fuel generalizing longerFuel left c longer with
  | zero => omega
  | succ fuel ih =>
      obtain ⟨longerFuel, rfl⟩ : ∃ n, longerFuel = n + 1 := ⟨longerFuel - 1, by omega⟩
      simp only [lazyRounds]
      refine rel_orElse (hk c longer h) ?_
      split
      next => exact .none
      next =>
        refine hm.round hk hend h (.of_isSound (isSound_lazyRounds hsound longerFuel _) hend)
          fun next nextLonger hnext hmoved => ?_
        have := hnext.length
        have := h.length
        exact ih hnext (by omega) (by omega) _

end

theorem ignores_loop (hm : Ignores x m) (hsound : IsSound m l touched) {greed : Greed}
    (hgreed : greed ≠ .possessive) (least : Nat) (most : Option Nat) :
    Ignores x (loop greed least most m) := by
  intro related k longerK hk hend
  cases greed with
  | possessive => exact absurd rfl hgreed
  | greedy =>
      exact ignores_rounds hm hsound least related _ _
        (fun c longer h => rel_greedyRounds hm hsound hk hend h (Nat.lt_succ_self _)
          (Nat.lt_succ_self _) _)
        fun c => FailsAtEnd.of_isSound (isSound_greedyRounds hsound _ _) hend c
  | lazy =>
      exact ignores_rounds hm hsound least related _ _
        (fun c longer h => rel_lazyRounds hm hsound hk hend h (Nat.lt_succ_self _)
          (Nat.lt_succ_self _) _)
        fun c => FailsAtEnd.of_isSound (isSound_lazyRounds hsound _ _) hend c

end Matcher

/-! ## Plain nodes -/

open Matcher

theorem Node.ignores_run {n : Node} (h : n.isPlain) (x : Char) : Ignores x (n.run {}) := by
  induction n with
  | empty => exact fun related k longerK hk _ => hk
  | chars negated items => exact ignores_advance x _
  | any => exact ignores_advance x _
  | seq first second ihfirst ihsecond =>
      rw [isPlain, Bool.and_eq_true] at h
      intro related k longerK hk hend
      exact ihfirst h.1 related _ _ (ihsecond h.2 related k longerK hk hend)
        (.of_isSound (isSound_run h.2) hend)
  | alt first second ihfirst ihsecond =>
      rw [isPlain, Bool.and_eq_true] at h
      intro related k longerK hk hend c longer hextends
      simp only [run]
      refine rel_orElse ?_ ?_
      · exact ihfirst h.1 related k longerK hk hend c longer hextends
      · exact ihsecond h.2 related k longerK hk hend c longer hextends
  | loop greed least most body ih =>
      rw [isPlain, Bool.and_eq_true, bne_iff_ne] at h
      exact ignores_loop (ih h.2) (isSound_run h.2) h.1 least most
  | group index body ih =>
      intro related k longerK hk hend c longer hextends
      exact ih h related _ _ (fun c longer h => hk _ _ (h.closeGroup index))
        (fun c hafter => hend _ hafter) _ _ (hextends.openGroup index)
  | _ => simp [isPlain] at h

/--
A plain node with a character behind it matches a subject that ends in this
character as the node alone matches the subject without it, group by group.
-/
theorem Node.rel_run_atStart {n : Node} (h : n.isPlain) (x : Char) (subject : List Char) :
    Option.Rel (fun last longerLast : Cursor => ∀ group, longerLast.group? group = last.group? group)
      (n.run {} (.atStart subject) Expression.atEnd)
      (n.run {} (.atStart (subject ++ [x]))
        fun c => (literal x.toNat).run {} c Expression.atEnd) := by
  refine ignores_run h x _ _ _ (fun c longer hextends => ?_) (fun c hafter => ?_) _ _
    (Cursor.extends_atStart x subject)
  · cases hafter : c.after with
    | nil =>
        have hlonger : longer.after = [x] := by rw [hextends.after, hafter, List.nil_append]
        let next : Cursor := { longer with before := x :: longer.before, after := [] }
        have hrun : (literal x.toNat).run {} longer Expression.atEnd = some next := by
          simp [literal, run, Cursor.advance?, hlonger, accepts, isMember, ClassItem.contains,
            Expression.atEnd, next]
        have hpasses : longer.Passes next [x] fun _ => False :=
          ⟨rfl, hlonger, fun _ _ => rfl, fun _ _ => rfl⟩
        rw [hrun, Expression.atEnd, hafter]
        exact .some (hextends.group? hafter hpasses)
    | cons y rest =>
        have hrun : (literal x.toNat).run {} longer Expression.atEnd = none := by
          simp only [literal, run, Cursor.advance?, hextends.after, hafter, List.cons_append]
          split <;> simp [Expression.atEnd]
        rw [hrun, Expression.atEnd, hafter]
        exact .none
  · simp [literal, run, Cursor.advance?, hafter]

end HttpRouting.Regex
