import HttpRouting.Regex.Plain
import Mathlib.Computability.Language

/-!
# Languages of plain expressions

A plain expression matches the words of a language, which does not depend on
what is matched afterwards.  A matcher is sound for a language when all that it
steps over is a word of it, and complete when it finds a way over each word
that can be continued.  The invariant of a repetition is that every further
round that counts uses up a character, so a round for the empty word can be
left out.
-/

namespace HttpRouting.Regex

/-! ## Words of nodes -/

def upTo (l : Language Char) (most : Option Nat) : Language Char :=
  {word | ∃ n, (∀ bound, most = some bound → n ≤ bound) ∧ word ∈ l ^ n}

/-- The words that a plain node matches; other nodes are given none. -/
def Node.language : Node → Language Char
  | .empty => 1
  | .chars negated items => {word | ∃ x, accepts {} negated items x = true ∧ word = [x]}
  | .any => {word | ∃ x, x ≠ '\n' ∧ word = [x]}
  | .seq first second => first.language * second.language
  | .alt first second => first.language + second.language
  | .loop _ least most body => body.language ^ least * upTo body.language (most.map (· - least))
  | .group _ body => body.language
  | _ => 0

def Node.Binds (group : Nat) : Node → Prop
  | .seq first second | .alt first second | .conditional _ first second =>
    first.Binds group ∨ second.Binds group
  | .loop _ _ _ body | .flagged _ _ body | .atomic body | .look _ _ body => body.Binds group
  | .group index body => index = group ∨ body.Binds group
  | _ => False

/-! ## Steps of cursors -/

namespace Cursor

/-- The cursor after a word, at which only some groups may have other marks. -/
structure Passes (c next : Cursor) (word : List Char) (touched : Nat → Prop) : Prop where
  before : next.before = word.reverse ++ c.before
  after : c.after = word ++ next.after
  starts : ∀ group, ¬ touched group → next.starts.lookup group = c.starts.lookup group
  stops : ∀ group, ¬ touched group → next.stops.lookup group = c.stops.lookup group

variable {c middle next : Cursor} {first second word : List Char} {touched other : Nat → Prop}

theorem Passes.refl (c : Cursor) (touched : Nat → Prop) : c.Passes c [] touched where
  before := rfl
  after := rfl
  starts := fun _ _ => rfl
  stops := fun _ _ => rfl

theorem Passes.trans (h : c.Passes middle first touched) (h' : middle.Passes next second touched) :
    c.Passes next (first ++ second) touched where
  before := by rw [h'.before, h.before, List.reverse_append, List.append_assoc]
  after := by rw [h.after, h'.after, List.append_assoc]
  starts := fun group hgroup => (h'.starts group hgroup).trans (h.starts group hgroup)
  stops := fun group hgroup => (h'.stops group hgroup).trans (h.stops group hgroup)

theorem Passes.mono (h : c.Passes next word touched) (hmono : ∀ group, touched group → other group) :
    c.Passes next word other where
  before := h.before
  after := h.after
  starts := fun group hgroup => h.starts group fun htouched => hgroup (hmono group htouched)
  stops := fun group hgroup => h.stops group fun htouched => hgroup (hmono group htouched)

theorem Passes.subject (h : c.Passes next word touched) : next.subject = c.subject := by
  rw [Cursor.subject, Cursor.subject, h.before, h.after]
  simp

theorem passes_of_advance? {accepted : Char → Bool} (h : c.advance? accepted = some next)
    (touched : Nat → Prop) : ∃ x, accepted x = true ∧ c.Passes next [x] touched := by
  unfold advance? at h
  split at h
  next => simp at h
  next x rest hafter =>
    split at h
    next hx =>
      rw [Option.some.injEq] at h
      subst h
      exact ⟨x, hx, rfl, by simp [hafter], fun _ _ => rfl, fun _ _ => rfl⟩
    next => simp at h

theorem exists_advance? {accepted : Char → Bool} {x : Char} {rest : List Char}
    (hx : accepted x = true) (hafter : c.after = x :: rest) :
    ∃ next, c.advance? accepted = some next ∧ next.after = rest := by
  refine ⟨{ c with before := x :: c.before, after := rest }, ?_, rfl⟩
  simp [advance?, hafter, hx]

theorem Passes.group {index : Nat} (h : (c.openGroup index).Passes next word touched) :
    c.Passes (next.closeGroup index) word fun g => index = g ∨ touched g where
  before := h.before
  after := h.after
  starts := by
    intro g hg
    rw [not_or] at hg
    have hne : (g == index) = false := beq_eq_false_iff_ne.mpr (Ne.symm hg.1)
    rw [closeGroup, h.starts g hg.2, openGroup, List.lookup_cons, hne]
  stops := by
    intro g hg
    rw [not_or] at hg
    have hne : (g == index) = false := beq_eq_false_iff_ne.mpr (Ne.symm hg.1)
    rw [closeGroup, List.lookup_cons, hne]
    exact h.stops g hg.2

theorem Passes.group?_closeGroup {index : Nat} (h : (c.openGroup index).Passes next word touched)
    (hfresh : ¬ touched index) : (next.closeGroup index).group? index = some word := by
  have hstart : (next.closeGroup index).starts.lookup index = some c.index := by
    rw [closeGroup, h.starts index hfresh, openGroup, List.lookup_cons_self]
  have hstop : (next.closeGroup index).stops.lookup index = some next.index := by
    rw [closeGroup, List.lookup_cons_self]
  have hindex : next.index = c.index + word.length := by
    rw [Cursor.index, h.before, List.length_append, List.length_reverse, Nat.add_comm]
    rfl
  have hsubject : (next.closeGroup index).subject = c.before.reverse ++ (word ++ next.after) := by
    rw [← h.after]
    exact h.subject
  rw [Cursor.group?, hstart, hstop, Option.bind_some, Option.bind_some, if_pos (by omega),
    hsubject, hindex]
  simp [Cursor.index]

end Cursor

/-! ## Sound and complete matchers -/

namespace Matcher

/-- A success has stepped over a word of the language. -/
def IsSound (m : Matcher) (l : Language Char) (touched : Nat → Prop) : Prop :=
  ∀ c k last, m c k = some last →
    ∃ word ∈ l, ∃ next, c.Passes next word touched ∧ k next = some last

/-- There is a success if a word of the language comes next and all ways to go on behind it succeed. -/
def IsComplete (m : Matcher) (l : Language Char) : Prop :=
  ∀ c k word rest, word ∈ l → c.after = word ++ rest →
    (∀ next : Cursor, next.after = rest → (k next).isSome) → (m c k).isSome

theorem orElse_eq_some {first : Option Cursor} {second : Unit → Option Cursor} {c : Cursor} :
    orElse first second = some c → first = some c ∨ first = none ∧ second () = some c := by
  cases first <;> simp [orElse]

theorem isSome_orElse {first : Option Cursor} {second : Unit → Option Cursor} :
    (orElse first second).isSome = (first.isSome || (second ()).isSome) := by
  cases first <;> simp [orElse]

variable {m : Matcher} {l : Language Char} {touched : Nat → Prop}

/-! ### Repetitions -/

theorem isSound_rounds (h : IsSound m l touched) (n : Nat) :
    IsSound (rounds m n) (l ^ n) touched := by
  induction n with
  | zero =>
      intro c k last hrun
      exact ⟨[], by simp, c, .refl c touched, hrun⟩
  | succ n ih =>
      intro c k last hrun
      obtain ⟨first, hfirst, middle, hmiddle, hrest⟩ := h c _ last hrun
      obtain ⟨second, hsecond, next, hnext, hk⟩ := ih middle k last hrest
      refine ⟨first ++ second, ?_, next, hmiddle.trans hnext, hk⟩
      rw [pow_succ']
      exact Language.append_mem_mul hfirst hsecond

theorem nil_mem_upTo (l : Language Char) (most : Option Nat) : [] ∈ upTo l most :=
  ⟨0, by simp, by simp⟩

theorem append_mem_upTo {first second : List Char} {left : Option Nat} (hleft : left ≠ some 0)
    (hfirst : first ∈ l) (hsecond : second ∈ upTo l (left.map (· - 1))) :
    first ++ second ∈ upTo l left := by
  obtain ⟨n, hn, hword⟩ := hsecond
  refine ⟨n + 1, fun bound hbound => ?_, ?_⟩
  · subst hbound
    have := hn (bound - 1) rfl
    have : bound ≠ 0 := fun hzero => hleft (by rw [hzero])
    omega
  · rw [pow_succ']
    exact Language.append_mem_mul hfirst hword

theorem mem_upTo_of_mem {word : List Char} {left : Option Nat} (hleft : left ≠ some 0)
    (h : word ∈ l) : word ∈ upTo l left := by
  have := append_mem_upTo hleft h (nil_mem_upTo l (left.map (· - 1)))
  rwa [List.append_nil] at this

theorem isSound_greedyRounds (h : IsSound m l touched) (fuel : Nat) (left : Option Nat) :
    IsSound (greedyRounds m fuel left) (upTo l left) touched := by
  induction fuel generalizing left with
  | zero =>
      intro c k last hrun
      exact ⟨[], nil_mem_upTo l left, c, .refl c touched, hrun⟩
  | succ fuel ih =>
      intro c k last hrun
      rw [greedyRounds] at hrun
      split at hrun
      next => exact ⟨[], nil_mem_upTo l left, c, .refl c touched, hrun⟩
      next hleft =>
        rcases orElse_eq_some hrun with hround | ⟨-, hstop⟩
        · obtain ⟨first, hfirst, middle, hmiddle, hrest⟩ := h c _ last hround
          split at hrest
          next =>
            obtain ⟨second, hsecond, next, hnext, hk⟩ := ih _ middle k last hrest
            exact ⟨_, append_mem_upTo hleft hfirst hsecond, next, hmiddle.trans hnext, hk⟩
          next => exact ⟨first, mem_upTo_of_mem hleft hfirst, middle, hmiddle, hrest⟩
        · exact ⟨[], nil_mem_upTo l left, c, .refl c touched, hstop⟩

theorem isSound_lazyRounds (h : IsSound m l touched) (fuel : Nat) (left : Option Nat) :
    IsSound (lazyRounds m fuel left) (upTo l left) touched := by
  induction fuel generalizing left with
  | zero =>
      intro c k last hrun
      exact ⟨[], nil_mem_upTo l left, c, .refl c touched, hrun⟩
  | succ fuel ih =>
      intro c k last hrun
      rw [lazyRounds] at hrun
      rcases orElse_eq_some hrun with hstop | ⟨-, hround⟩
      · exact ⟨[], nil_mem_upTo l left, c, .refl c touched, hstop⟩
      · split at hround
        next => simp at hround
        next hleft =>
          obtain ⟨first, hfirst, middle, hmiddle, hrest⟩ := h c _ last hround
          split at hrest
          next =>
            obtain ⟨second, hsecond, next, hnext, hk⟩ := ih _ middle k last hrest
            exact ⟨_, append_mem_upTo hleft hfirst hsecond, next, hmiddle.trans hnext, hk⟩
          next => exact ⟨first, mem_upTo_of_mem hleft hfirst, middle, hmiddle, hrest⟩

theorem isComplete_rounds (h : IsComplete m l) (n : Nat) : IsComplete (rounds m n) (l ^ n) := by
  induction n with
  | zero =>
      intro c k word rest hword hafter hk
      rw [pow_zero, Language.mem_one] at hword
      subst hword
      exact hk c hafter
  | succ n ih =>
      intro c k word rest hword hafter hk
      rw [pow_succ', Language.mem_mul] at hword
      obtain ⟨first, hfirst, second, hsecond, rfl⟩ := hword
      refine h c _ first (second ++ rest) hfirst (by rw [hafter, List.append_assoc]) ?_
      intro middle hmiddle
      exact ih middle k second rest hsecond hmiddle hk

theorem exists_nonempty_words {word : List Char} {left : Option Nat} (h : word ∈ upTo l left) :
    ∃ words : List (List Char), word = words.flatten ∧
      (∀ bound, left = some bound → words.length ≤ bound) ∧ ∀ v ∈ words, v ∈ l ∧ v ≠ [] := by
  obtain ⟨n, hn, hword⟩ := h
  obtain ⟨words, rfl, hlength, hwords⟩ := Language.mem_pow.mp hword
  refine ⟨words.filter fun v => !v.isEmpty, List.flatten_filter_not_isEmpty.symm, fun bound hbound => ?_, fun v hv => ?_⟩
  · have := List.length_filter_le (fun v : List Char => !v.isEmpty) words
    have := hn bound hbound
    omega
  · rw [List.mem_filter] at hv
    exact ⟨hwords v hv.1, by simpa using hv.2⟩

/--
Any matcher that stops when it can go on from there, or else takes a round when
one is left, is complete for words that are not empty.
-/
theorem isSome_of_rounds {repeated : Nat → Option Nat → Matcher} (h : IsComplete m l)
    (hstop : ∀ fuel left c k, (k c).isSome → (repeated fuel left c k).isSome)
    (hround : ∀ fuel left c k, left ≠ some 0 →
      (m c fun next => if next.after.length < c.after.length then
        repeated fuel (left.map (· - 1)) next k else k next).isSome →
      (repeated (fuel + 1) left c k).isSome)
    {words : List (List Char)} (hwords : ∀ v ∈ words, v ∈ l ∧ v ≠ [])
    {fuel : Nat} (hfuel : words.length ≤ fuel) {left : Option Nat}
    (hleft : ∀ bound, left = some bound → words.length ≤ bound) {c : Cursor} {k : Continuation}
    {rest : List Char} (hafter : c.after = words.flatten ++ rest)
    (hk : ∀ next : Cursor, next.after = rest → (k next).isSome) :
    (repeated fuel left c k).isSome := by
  induction words generalizing fuel left c with
  | nil => exact hstop fuel left c k (hk c (by simpa using hafter))
  | cons v words ih =>
      obtain ⟨hv, hnonempty⟩ := hwords v (by simp)
      obtain ⟨fuel, rfl⟩ : ∃ f, fuel = f + 1 := ⟨fuel - 1, by simp at hfuel; omega⟩
      have hzero : left ≠ some 0 := fun hzero => by simpa using hleft 0 hzero
      refine hround fuel left c k hzero ?_
      refine h c _ v (words.flatten ++ rest) hv (by simpa using hafter) fun next hnext => ?_
      have hmoved : next.after.length < c.after.length := by
        have := List.length_pos_iff.mpr hnonempty
        rw [hafter, hnext]
        simp only [List.flatten_cons, List.length_append]
        omega
      rw [if_pos hmoved]
      refine ih (fun u hu => hwords u (by simp [hu])) (by simp at hfuel; omega) ?_ hnext
      intro bound hbound
      obtain ⟨more, hmore, rfl⟩ := Option.map_eq_some_iff.mp hbound
      have := hleft more hmore
      simp at this
      omega

private theorem length_le_flatten {words : List (List Char)} (h : ∀ v ∈ words, v ≠ []) :
    words.length ≤ words.flatten.length := by
  induction words with
  | nil => simp
  | cons v words ih =>
      have := List.length_pos_iff.mpr (h v (by simp))
      have := ih fun u hu => h u (by simp [hu])
      simp only [List.length_cons, List.flatten_cons, List.length_append]
      omega

section

variable {fuel : Nat} {left : Option Nat} {c : Cursor} {k : Continuation} {word rest : List Char}

theorem isComplete_greedyRounds (h : IsComplete m l) (hword : word ∈ upTo l left)
    (hafter : c.after = word ++ rest) (hfuel : c.after.length ≤ fuel)
    (hk : ∀ next : Cursor, next.after = rest → (k next).isSome) :
    (greedyRounds m fuel left c k).isSome := by
  obtain ⟨words, rfl, hleft, hwords⟩ := exists_nonempty_words hword
  have hlength := length_le_flatten fun v hv => (hwords v hv).2
  have henough : words.length ≤ fuel := by
    simp only [hafter, List.length_append] at hfuel
    omega
  refine isSome_of_rounds h (fun fuel left c k hstop => ?_) (fun fuel left c k hzero hround => ?_)
    hwords henough hleft hafter hk
  · cases fuel with
    | zero => exact hstop
    | succ fuel =>
        simp only [greedyRounds]
        split
        next => exact hstop
        next => rw [isSome_orElse, hstop, Bool.or_true]
  · simp only [greedyRounds, if_neg hzero]
    rw [isSome_orElse, hround, Bool.true_or]

theorem isComplete_lazyRounds (h : IsComplete m l) (hword : word ∈ upTo l left)
    (hafter : c.after = word ++ rest) (hfuel : c.after.length ≤ fuel)
    (hk : ∀ next : Cursor, next.after = rest → (k next).isSome) :
    (lazyRounds m fuel left c k).isSome := by
  obtain ⟨words, rfl, hleft, hwords⟩ := exists_nonempty_words hword
  have hlength := length_le_flatten fun v hv => (hwords v hv).2
  have henough : words.length ≤ fuel := by
    simp only [hafter, List.length_append] at hfuel
    omega
  refine isSome_of_rounds h (fun fuel left c k hstop => ?_) (fun fuel left c k hzero hround => ?_)
    hwords henough hleft hafter hk
  · cases fuel with
    | zero => exact hstop
    | succ fuel =>
        simp only [lazyRounds]
        rw [isSome_orElse, hstop, Bool.true_or]
  · simp only [lazyRounds, if_neg hzero]
    rw [isSome_orElse, hround, Bool.or_true]

end

theorem isSound_loop (h : IsSound m l touched) {greed : Greed} (hgreed : greed ≠ .possessive)
    (least : Nat) (most : Option Nat) :
    IsSound (loop greed least most m) (l ^ least * upTo l (most.map (· - least))) touched := by
  intro c k last hrun
  cases greed with
  | possessive => exact absurd rfl hgreed
  | greedy =>
      obtain ⟨first, hfirst, middle, hmiddle, hrest⟩ := isSound_rounds h least c _ last hrun
      obtain ⟨second, hsecond, next, hnext, hk⟩ :=
        isSound_greedyRounds h _ _ middle k last hrest
      exact ⟨_, Language.append_mem_mul hfirst hsecond, next, hmiddle.trans hnext, hk⟩
  | lazy =>
      obtain ⟨first, hfirst, middle, hmiddle, hrest⟩ := isSound_rounds h least c _ last hrun
      obtain ⟨second, hsecond, next, hnext, hk⟩ :=
        isSound_lazyRounds h _ _ middle k last hrest
      exact ⟨_, Language.append_mem_mul hfirst hsecond, next, hmiddle.trans hnext, hk⟩

theorem isComplete_loop (h : IsComplete m l) {greed : Greed} (hgreed : greed ≠ .possessive)
    (least : Nat) (most : Option Nat) :
    IsComplete (loop greed least most m) (l ^ least * upTo l (most.map (· - least))) := by
  intro c k word rest hword hafter hk
  obtain ⟨first, hfirst, second, hsecond, rfl⟩ := Language.mem_mul.mp hword
  rw [List.append_assoc] at hafter
  cases greed with
  | possessive => exact absurd rfl hgreed
  | greedy =>
      refine isComplete_rounds h least c _ first (second ++ rest) hfirst hafter fun middle hmiddle => ?_
      exact isComplete_greedyRounds h hsecond hmiddle (by omega) hk
  | lazy =>
      refine isComplete_rounds h least c _ first (second ++ rest) hfirst hafter fun middle hmiddle => ?_
      exact isComplete_lazyRounds h hsecond hmiddle (by omega) hk

end Matcher

/-! ## Plain nodes -/

namespace Node

open Matcher

theorem isSound_run {n : Node} (h : n.isPlain) : IsSound (n.run {}) n.language fun g => n.Binds g := by
  induction n with
  | empty =>
      intro c k last hrun
      exact ⟨[], Language.nil_mem_one, c, .refl c _, hrun⟩
  | chars negated items =>
      intro c k last hrun
      obtain ⟨next, hnext, hk⟩ := Option.bind_eq_some_iff.mp hrun
      obtain ⟨x, hx, hpasses⟩ := Cursor.passes_of_advance? hnext _
      exact ⟨[x], ⟨x, hx, rfl⟩, next, hpasses, hk⟩
  | any =>
      intro c k last hrun
      obtain ⟨next, hnext, hk⟩ := Option.bind_eq_some_iff.mp hrun
      obtain ⟨x, hx, hpasses⟩ := Cursor.passes_of_advance? hnext _
      exact ⟨[x], ⟨x, by simpa using hx, rfl⟩, next, hpasses, hk⟩
  | seq first second ihfirst ihsecond =>
      simp only [isPlain, Bool.and_eq_true] at h
      intro c k last hrun
      obtain ⟨v, hv, middle, hmiddle, hrest⟩ := ihfirst h.1 c _ last hrun
      obtain ⟨w, hw, next, hnext, hk⟩ := ihsecond h.2 middle k last hrest
      exact ⟨v ++ w, Language.append_mem_mul hv hw, next,
        (hmiddle.mono fun _ => .inl).trans (hnext.mono fun _ => .inr), hk⟩
  | alt first second ihfirst ihsecond =>
      simp only [isPlain, Bool.and_eq_true] at h
      intro c k last hrun
      simp only [run] at hrun
      rcases orElse_eq_some hrun with hrun | ⟨-, hrun⟩
      · obtain ⟨word, hword, next, hnext, hk⟩ := ihfirst h.1 c k last hrun
        exact ⟨word, .inl hword, next, hnext.mono fun _ => .inl, hk⟩
      · obtain ⟨word, hword, next, hnext, hk⟩ := ihsecond h.2 c k last hrun
        exact ⟨word, .inr hword, next, hnext.mono fun _ => .inr, hk⟩
  | loop greed least most body ih =>
      simp only [isPlain, Bool.and_eq_true, bne_iff_ne] at h
      exact isSound_loop (ih h.2) h.1 least most
  | group index body ih =>
      intro c k last hrun
      obtain ⟨word, hword, next, hnext, hk⟩ := ih h _ _ last hrun
      exact ⟨word, hword, next.closeGroup index, hnext.group, hk⟩
  | _ => simp [isPlain] at h

theorem isComplete_run {n : Node} (h : n.isPlain) : IsComplete (n.run {}) n.language := by
  induction n with
  | empty =>
      intro c k word rest hword hafter hk
      obtain rfl : word = [] := hword
      exact hk c hafter
  | chars negated items =>
      rintro c k word rest ⟨x, hx, rfl⟩ hafter hk
      obtain ⟨next, hnext, hrest⟩ := Cursor.exists_advance? hx hafter
      simpa [run, hnext] using hk next hrest
  | any =>
      rintro c k word rest ⟨x, hx, rfl⟩ hafter hk
      let accepted (x : Char) : Bool := Flags.dotAll {} || x != '\n'
      have haccepted : accepted x = true := by simpa [accepted] using hx
      obtain ⟨next, hnext, hrest⟩ := Cursor.exists_advance? haccepted hafter
      change ((c.advance? accepted).bind k).isSome
      rw [hnext]
      exact hk next hrest
  | seq first second ihfirst ihsecond =>
      simp only [isPlain, Bool.and_eq_true] at h
      intro c k word rest hword hafter hk
      obtain ⟨v, hv, w, hw, rfl⟩ := Language.mem_mul.mp hword
      rw [List.append_assoc] at hafter
      refine ihfirst h.1 c _ v (w ++ rest) hv hafter fun middle hmiddle => ?_
      exact ihsecond h.2 middle k w rest hw hmiddle hk
  | alt first second ihfirst ihsecond =>
      simp only [isPlain, Bool.and_eq_true] at h
      intro c k word rest hword hafter hk
      simp only [run]
      rw [isSome_orElse, Bool.or_eq_true]
      rcases hword with hword | hword
      · exact .inl (ihfirst h.1 c k word rest hword hafter hk)
      · exact .inr (ihsecond h.2 c k word rest hword hafter hk)
  | loop greed least most body ih =>
      simp only [isPlain, Bool.and_eq_true, bne_iff_ne] at h
      exact isComplete_loop (ih h.2) h.1 least most
  | group index body ih =>
      intro c k word rest hword hafter hk
      exact ih h _ _ word rest hword hafter fun next hnext => hk _ hnext
  | _ => simp [isPlain] at h

theorem accepts_of_mem_loop {greed : Greed} {least : Nat} {most : Option Nat} {negated : Bool}
    {items : List ClassItem} {word : List Char}
    (h : word ∈ (loop greed least most (chars negated items)).language) {c : Char} (hc : c ∈ word) :
    accepts {} negated items c = true := by
  have hpower {n : Nat} {word : List Char} (h : word ∈ (chars negated items).language ^ n)
      (hc : c ∈ word) : accepts {} negated items c = true := by
    obtain ⟨letters, rfl, -, hletters⟩ := Language.mem_pow.mp h
    obtain ⟨letter, hletter, hc⟩ := List.mem_flatten.mp hc
    obtain ⟨x, hx, rfl⟩ := hletters letter hletter
    rwa [List.mem_singleton.mp hc]
  obtain ⟨first, hfirst, rest, ⟨n, -, hrest⟩, rfl⟩ := h
  rcases List.mem_append.mp hc with hc | hc
  · exact hpower hfirst hc
  · exact hpower hrest hc

theorem group?_of_run {index : Nat} {body : Node} (h : body.isPlain) (hfresh : ¬ body.Binds index)
    {c last : Cursor} {k : Continuation} (hrun : (group index body).run {} c k = some last) :
    ∃ word ∈ body.language, ∃ next,
      c.Passes next word (fun g => index = g ∨ body.Binds g) ∧
        next.group? index = some word ∧ k next = some last := by
  obtain ⟨word, hword, next, hnext, hk⟩ := isSound_run h _ _ last hrun
  exact ⟨word, hword, next.closeGroup index, hnext.group, hnext.group?_closeGroup hfresh, hk⟩

end Node

end HttpRouting.Regex
