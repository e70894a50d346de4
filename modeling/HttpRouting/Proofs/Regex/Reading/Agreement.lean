import HttpRouting.Proofs.Regex.Reading.Tokens
import HttpRouting.Regex.Reader

/-!
# Readers on longer texts

A reader that has succeeded on a text reads the same when a closing
parenthesis and more text follow, unless it takes the end of the text for an
answer.  Two readers agree on some results when the second does on the longer
text what the first does on the shorter one whenever it has such a result; they
change nothing but the place.
-/

namespace HttpRouting.Regex.Reader

variable {α β : Type}

/-! ## Agreement -/

/-- The second source has the text of the first, a closing parenthesis behind it, and a tail. -/
structure Continues (s s' : Source) (tail : List Char) : Prop where
  backslash : s.rest ≠ ['\\']
  rest : s'.rest = s.rest ++ ')' :: tail

/-- Two sources have moved on to the same place in the text of the first. -/
def Move (s s' : Source) (tail : List Char) (last last' : Source) : Prop :=
  ∃ rest i j, rest ≠ ['\\'] ∧ rest <:+ s.rest ∧ last = s.at rest i ∧
    last' = s'.at (rest ++ ')' :: tail) j

/-- Whenever the first reader has a certain result, the second has it on the longer text. -/
def AgreesOn (known : α → Source → Prop) (s s' : Source) (tail : List Char) (m m' : Reader α) : Prop :=
  Continues s s' tail → ∀ x last, m.run s = .ok (x, last) → known x last →
    ∃ last', m'.run s' = .ok (x, last') ∧ Move s s' tail last last'

/-- What the first reader does from its source, the second does from the longer one. -/
abbrev AgreesAt (s s' : Source) (tail : List Char) (m m' : Reader α) : Prop :=
  AgreesOn (fun _ _ => True) s s' tail m m'

def Agrees (m m' : Reader α) : Prop := ∀ s s' tail, AgreesAt s s' tail m m'

section

variable {s s' middle middle' last last' : Source} {tail : List Char} {m m' : Reader α}
  {f f' : α → Reader β} {known : α → Source → Prop} {later : β → Source → Prop}

theorem append_close_ne {rest : List Char} : rest ++ ')' :: tail ≠ ['\\'] := by
  rcases rest with _ | ⟨c, _ | ⟨d, rest⟩⟩ <;> simp

theorem Continues.move (h : Continues s s' tail) : Move s s' tail s s' :=
  ⟨s.rest, s.index, s'.index, h.backslash, List.suffix_rfl, rfl, by rw [← h.rest]; rfl⟩

theorem Move.continues (h : Move s s' tail last last') : Continues last last' tail := by
  obtain ⟨rest, i, j, hrest, -, rfl, rfl⟩ := h
  exact ⟨hrest, rfl⟩

theorem Move.trans (h : Move s s' tail middle middle') (h' : Move middle middle' tail last last') :
    Move s s' tail last last' := by
  obtain ⟨rest, i, j, -, hsuffix, rfl, rfl⟩ := h
  obtain ⟨more, k, l, hmore, hsuffix', rfl, rfl⟩ := h'
  exact ⟨more, k, l, hmore, hsuffix'.trans hsuffix, rfl, rfl⟩

theorem Continues.peek_of_none (h : Continues s s' tail) (hpeek : s.peek = none) :
    s'.peek = some [')'] :=
  peek_char (by decide) (by rw [h.rest, rest_of_peek_none h.backslash hpeek]; rfl)

theorem agreesOn_pure (x : α) : AgreesOn known s s' tail (pure x) (pure x) := by
  intro hs y last h _
  obtain ⟨rfl, rfl⟩ := run_pure_eq_ok h
  exact ⟨s', rfl, hs.move⟩

theorem agreesOn_of_not (h : ∀ x last, s.rest ≠ ['\\'] → m.run s = .ok (x, last) → ¬ known x last) :
    AgreesOn known s s' tail m m' :=
  fun hs x last hrun hknown => absurd hknown (h x last hs.backslash hrun)

theorem Fails.agreesOn (h : Fails m) : AgreesOn known s s' tail m m' :=
  agreesOn_of_not fun x last _ hrun => absurd hrun (h s x last)

theorem AgreesOn.bind (hm : AgreesAt s s' tail m m')
    (hf : ∀ x rest i j,
      AgreesOn later (s.at rest i) (s'.at (rest ++ ')' :: tail) j) tail (f x) (f' x)) :
    AgreesOn later s s' tail (m >>= f) (m' >>= f') := by
  intro hs y last hrun hlater
  obtain ⟨x, middle, hfirst, hsecond⟩ := run_bind_eq_ok hrun
  obtain ⟨middle', hfirst', hmove⟩ := hm hs x middle hfirst trivial
  obtain ⟨rest, i, j, hrest, -, rfl, rfl⟩ := id hmove
  obtain ⟨last', hsecond', hlast⟩ := hf x rest i j ⟨hrest, rfl⟩ y last hsecond hlater
  exact ⟨last', (run_bind_of_ok hfirst' _).trans hsecond', hmove.trans hlast⟩

theorem Agrees.bind (hm : Agrees m m') (hf : ∀ x, Agrees (f x) (f' x)) :
    Agrees (m >>= f) (m' >>= f') :=
  fun s s' tail => (hm s s' tail).bind fun x _ _ _ => hf x _ _ tail

theorem agreesOn_peek_bind {f f' : Option Token → Reader β}
    (hsome : ∀ token, s.peek = some token →
      AgreesOn later s s' tail (f (some token)) (f' (some token)))
    (hnone : s.rest = [] → AgreesOn later s s' tail (f none) (f' (some [')']))) :
    AgreesOn later s s' tail (peek >>= f) (peek >>= f') := by
  intro hs y last hrun hlater
  rw [run_bind_of_ok (run_peek s)] at hrun
  rw [run_bind_of_ok (run_peek s')]
  cases htoken : s.peek with
  | none =>
      have hempty := rest_of_peek_none hs.backslash htoken
      have hclose := hs.peek_of_none htoken
      rw [htoken] at hrun
      rw [hclose]
      exact hnone hempty hs y last hrun hlater
  | some token =>
      rw [htoken] at hrun
      rw [(next_append hs.backslash htoken hs.rest).1]
      exact hsome token htoken hs y last hrun hlater

theorem agreesOn_next_bind {f f' : Option Token → Reader β}
    (hsome : ∀ token rest i j, s.peek = some token → rest.length < s.rest.length →
      AgreesOn later (s.at rest i) (s'.at (rest ++ ')' :: tail) j) tail (f (some token)) (f' (some token)))
    (hnone : s.rest = [] → Fails (f none)) :
    AgreesOn later s s' tail (next >>= f) (next >>= f') := by
  intro hs y last hrun hlater
  obtain ⟨token?, middle, hnext, hf⟩ := run_bind_eq_ok hrun
  rcases next_eq_ok hs.backslash hnext with ⟨hempty, rfl, rfl⟩ |
    ⟨token, rest, i, rfl, htoken, hnonempty, hsplit, hrest, rfl⟩
  · exact absurd hf (hnone hempty _ _ _)
  · have hlength : rest.length < s.rest.length := by
      have := List.length_pos_iff.mpr hnonempty
      rw [hsplit, List.length_append]
      omega
    obtain ⟨j, hj⟩ := (next_append hs.backslash htoken hs.rest).2 rest hsplit append_close_ne
    have hmove : Move s s' tail (s.at rest i) (s'.at (rest ++ ')' :: tail) j) :=
      ⟨rest, i, j, hrest, hsplit ▸ List.suffix_append token rest, rfl, rfl⟩
    obtain ⟨last', hlast', hlater⟩ :=
      hsome token rest i j htoken hlength hmove.continues y last hf hlater
    exact ⟨last', (run_bind_of_ok hj _).trans hlast', hmove.trans hlater⟩

theorem agreesOn_remaining_bind {f f' : Nat → Reader β}
    (h : ∀ n, s.rest.length ≤ n → AgreesOn later s s' tail (f s.rest.length) (f' n)) :
    AgreesOn later s s' tail (remaining >>= f) (remaining >>= f') := by
  intro hs y last hrun hlater
  refine h s'.rest.length ?_ hs y last hrun hlater
  rw [hs.rest, List.length_append]
  omega

end

/-! ## Tokens and names -/

theorem agrees_accept {c : Char} (hc : c ≠ ')') : Agrees (accept c) (accept c) := by
  intro s s' tail
  refine agreesOn_peek_bind (fun token htoken => ?_) fun _ => ?_
  · split
    next =>
      exact agreesOn_next_bind (fun _ _ _ _ _ _ => agreesOn_pure true) fun hempty => by
        simp [peek_nil hempty] at htoken
    next => exact agreesOn_pure false
  · rw [if_neg (by simp), if_neg (by simpa using hc.symm)]
    exact agreesOn_pure false

theorem agreesOn_takeWhile {isMember : Char → Bool} (hclose : isMember ')' = false) {n n' : Nat}
    {s s' : Source} {tail : List Char} (hn : n = n' ∨ s.rest.length ≤ n ∧ n ≤ n') :
    AgreesAt s s' tail (takeWhile isMember n) (takeWhile isMember n') := by
  induction n generalizing n' s s' with
  | zero =>
      cases n' with
      | zero => exact agreesOn_pure []
      | succ n' =>
          have hempty : s.rest = [] := by
            rw [← List.length_eq_zero_iff]
            omega
          intro hs y last hrun _
          obtain ⟨rfl, rfl⟩ := run_pure_eq_ok hrun
          have hpeek : s'.peek = some [')'] := peek_char (by decide) (by rw [hs.rest, hempty]; rfl)
          refine ⟨s', ?_, hs.move⟩
          rw [takeWhile, run_bind_of_ok (run_peek s'), hpeek]
          simp only [hclose]
          rfl
  | succ n ih =>
      obtain ⟨n', rfl⟩ : ∃ m, n' = m + 1 := ⟨n' - 1, by omega⟩
      refine agreesOn_peek_bind (fun token htoken => ?_) fun _ => ?_
      · split
        next =>
          split
          next =>
            refine agreesOn_next_bind (fun _ rest i j _ hlength => ?_) fun hempty => by
              simp [peek_nil hempty] at htoken
            refine (ih ?_).bind fun _ _ _ _ => agreesOn_pure _
            rcases hn with hn | hn
            · exact .inl (by omega)
            · exact .inr (by simp only [Source.at]; omega)
          next => exact agreesOn_pure []
        next => exact agreesOn_pure []
      · simp only [hclose]
        exact agreesOn_pure []

theorem agrees_collectUntil (close : Char) (what : String) {fuel fuel' : Nat} (hfuel : fuel ≤ fuel')
    (name : List Char) :
    Agrees (collectUntil close what fuel name) (collectUntil close what fuel' name) := by
  induction fuel generalizing fuel' name with
  | zero => exact fun _ _ _ => (fails_throw _).agreesOn
  | succ fuel ih =>
      obtain ⟨fuel', rfl⟩ : ∃ m, fuel' = m + 1 := ⟨fuel' - 1, by omega⟩
      intro s s' tail
      refine agreesOn_next_bind (fun token rest i j _ _ => ?_) fun _ => ?_
      · dsimp only
        split
        next =>
          split
          next => exact (fails_fail _ _).agreesOn
          next => exact agreesOn_pure name
        next => exact ih (by omega) _ _ _ _
      · dsimp only
        split
        · exact fails_fail _ _
        · exact fails_fail _ _

theorem agrees_nameUntil (close : Char) (what : String) :
    Agrees (nameUntil close what) (nameUntil close what) :=
  fun s s' tail => agreesOn_remaining_bind fun n hn =>
    agrees_collectUntil close what (by omega) [] s s' tail

/-! ## Escapes -/

private theorem isOctal_close : isOctal ')' = false := by decide

theorem agrees_hexEscape (letter : Char) (count : Nat) :
    Agrees (hexEscape letter count) (hexEscape letter count) := by
  intro s s' tail
  refine (agreesOn_takeWhile (by decide) (.inl rfl)).bind fun digits _ _ _ => ?_
  dsimp only
  split
  next => exact (fails_fail _ _).agreesOn
  next =>
    split
    next => exact agreesOn_pure _
    next =>
      split
      next => exact ((fails_fail _ _).bind _).agreesOn
      next => exact (fails_throw _).agreesOn

theorem agrees_namedEscape : Agrees namedEscape namedEscape := by
  refine (agrees_accept (by decide)).bind fun found s s' tail => ?_
  split
  next => exact ((fails_fail _ _).bind _).agreesOn
  next =>
    refine (agrees_nameUntil _ _ s s' tail).bind fun name _ _ _ => ?_
    split
    next => exact agreesOn_pure _
    next => exact (fails_fail _ _).agreesOn

theorem agrees_commonEscape (c : Char) : Agrees (commonEscape c) (commonEscape c) := by
  intro s s' tail
  unfold commonEscape
  split
  next => exact agrees_hexEscape _ _ s s' tail
  next =>
    split
    next => exact agrees_hexEscape _ _ s s' tail
    next =>
      split
      next => exact agrees_hexEscape _ _ s s' tail
      next =>
        split
        next => exact agrees_namedEscape s s' tail
        next =>
          split
          next => exact (fails_fail _ _).agreesOn
          next => exact agreesOn_pure _

theorem agrees_octalEscape (digits : List Char) :
    Agrees (octalEscape digits) (octalEscape digits) := by
  intro s s' tail
  unfold octalEscape
  dsimp only
  split
  next => exact (fails_fail _ _).agreesOn
  next => exact agreesOn_pure _

theorem agrees_escapeInClass (c : Char) : Agrees (escapeInClass c) (escapeInClass c) := by
  intro s s' tail
  unfold escapeInClass
  split
  next => exact agreesOn_pure _
  next =>
    split
    next => exact agreesOn_pure _
    next =>
      split
      next => exact agreesOn_pure _
      next =>
        split
        next =>
          refine (agreesOn_takeWhile isOctal_close (.inl rfl)).bind fun digits _ _ _ => ?_
          exact (agrees_octalEscape _ _ _ _).bind fun _ _ _ _ => agreesOn_pure _
        next => exact (agrees_commonEscape c s s' tail).bind fun _ _ _ _ => agreesOn_pure _

/-! ## Classes -/

theorem agrees_classMember (token : Token) : Agrees (classMember token) (classMember token) := by
  intro s s' tail
  unfold classMember
  split
  next => exact agrees_escapeInClass _ s s' tail
  next => exact agreesOn_pure _
  next => exact agreesOn_pure _

theorem agrees_classRange (low high : ClassItem) (lowToken highToken : Token) :
    Agrees (classRange low high lowToken highToken) (classRange low high lowToken highToken) := by
  intro s s' tail
  unfold classRange
  split
  next =>
    split
    next => exact (fails_fail _ _).agreesOn
    next => exact agreesOn_pure _
  next => exact (fails_fail _ _).agreesOn

theorem agrees_classItems (start start' : Nat) {fuel fuel' : Nat} (hfuel : fuel ≤ fuel')
    (items : List ClassItem) :
    Agrees (classItems start fuel items) (classItems start' fuel' items) := by
  induction fuel generalizing fuel' items with
  | zero => exact fun _ _ _ => (fails_throw _).agreesOn
  | succ fuel ih =>
      obtain ⟨fuel', rfl⟩ : ∃ m, fuel' = m + 1 := ⟨fuel' - 1, by omega⟩
      have hrest (items : List ClassItem) :
          Agrees (classItems start fuel items) (classItems start' fuel' items) := ih (by omega) items
      intro s s' tail
      refine agreesOn_next_bind (fun token rest i j _ _ => ?_) fun _ =>
        fails_bind _ fun _ => fails_fail _ _
      dsimp only
      split
      next => exact agreesOn_pure _
      next =>
        refine (agrees_classMember token _ _ _).bind fun low _ _ _ => ?_
        refine (agrees_accept (by decide) _ _ _).bind fun isRange _ _ _ => ?_
        split
        next =>
          refine agreesOn_next_bind (fun high _ _ _ _ _ => ?_) fun _ =>
            fails_bind _ fun _ => fails_fail _ _
          split
          next => simp_all
          next => exact agreesOn_pure _
          next =>
            refine (agrees_classMember _ _ _ _).bind fun upper _ _ _ => ?_
            refine (agrees_classRange _ _ _ _ _ _ _).bind fun range _ _ _ => ?_
            exact hrest _ _ _ _
        next => exact hrest _ _ _ _

theorem agrees_characterClass (start start' : Nat) :
    Agrees (characterClass start) (characterClass start') := by
  refine (agrees_accept (by decide)).bind fun negated s s' tail => ?_
  refine agreesOn_remaining_bind fun n hn => ?_
  exact (agrees_classItems start start' (by omega) [] s s' tail).bind fun _ _ _ _ => agreesOn_pure _

/-! ## Repetitions -/

theorem agrees_bound (digits : List Char) : Agrees (bound digits) (bound digits) := by
  intro s s' tail
  unfold bound
  dsimp only
  split
  next => exact ((fails_throw _).bind _).agreesOn
  next =>
    split
    next => exact ((fails_throw _).bind _).agreesOn
    next => exact agreesOn_pure _

theorem agrees_bound? (digits : List Char) : Agrees (bound? digits) (bound? digits) := by
  intro s s' tail
  unfold bound?
  split
  next => exact agreesOn_pure _
  next => exact (agrees_bound _ _ _ _).bind fun _ _ _ _ => agreesOn_pure _

theorem agrees_boundsOf (start start' : Nat) (low high : List Char) :
    Agrees (boundsOf start low high) (boundsOf start' low high) := by
  refine (agrees_bound? low).bind fun least => (agrees_bound? high).bind fun most s s' tail => ?_
  split
  next => exact (fails_bind _ fun _ => fails_fail _ _).agreesOn
  next => exact agreesOn_pure _

theorem agrees_highDigits (low : List Char) : Agrees (highDigits low) (highDigits low) := by
  refine (agrees_accept (by decide)).bind fun comma s s' tail => ?_
  split
  next =>
    exact agreesOn_remaining_bind fun n hn =>
      agreesOn_takeWhile (by decide) (.inr ⟨Nat.le_refl _, hn⟩)
  next => exact agreesOn_pure _

def digitRange : Reader (List Char × List Char × Bool) := do
  let low ← takeWhile Char.isDigit (← remaining)
  let high ← highDigits low
  return (low, high, ← accept '}')

theorem agrees_digitRange : Agrees digitRange digitRange := by
  intro s s' tail
  refine agreesOn_remaining_bind fun n hn => ?_
  refine (agreesOn_takeWhile (by decide) (.inr ⟨Nat.le_refl _, hn⟩)).bind fun low _ _ _ => ?_
  refine (agrees_highDigits _ _ _ _).bind fun high _ _ _ => ?_
  exact (agrees_accept (by decide) _ _ _).bind fun closed _ _ _ => agreesOn_pure _

theorem bracedBounds?_eq : bracedBounds? = (do
    let before ← get
    let (low, high, closed) ← digitRange
    if closed then boundsOf before.index low high
    else
      set before
      return none) := by
  simp only [bracedBounds?, digitRange, bind_assoc, pure_bind]

-- A range that is not closed is given back, so the place is that of the beginning again.
theorem agrees_bracedBounds? : Agrees bracedBounds? bracedBounds? := by
  intro s s' tail hs x last hrun _
  rw [bracedBounds?_eq] at hrun ⊢
  obtain ⟨_, _, hget, hrun⟩ := run_bind_eq_ok hrun
  cases hget
  obtain ⟨⟨low, high, closed⟩, middle, hrange, hrun⟩ := run_bind_eq_ok hrun
  obtain ⟨middle', hrange', hmove⟩ := agrees_digitRange s s' tail hs _ middle hrange trivial
  cases closed with
  | true =>
      obtain ⟨last', hbounds, hlast⟩ :=
        agrees_boundsOf s.index s'.index low high _ _ tail hmove.continues x last hrun trivial
      exact ⟨last', (run_bind_of_ok rfl _).trans ((run_bind_of_ok hrange' _).trans hbounds),
        hmove.trans hlast⟩
  | false =>
      cases hrun
      exact ⟨s', (run_bind_of_ok rfl _).trans ((run_bind_of_ok hrange' _).trans rfl), hs.move⟩

theorem agrees_bounds? (mark : Char) : Agrees (bounds? mark) (bounds? mark) := by
  intro s s' tail
  unfold bounds?
  split
  next => exact agreesOn_pure _
  next =>
    split
    next => exact agreesOn_pure _
    next =>
      split
      next => exact agreesOn_pure _
      next =>
        refine agreesOn_peek_bind (fun token _ => ?_) (fun _ => ?_)
        · split
          next => exact agreesOn_pure _
          next => exact agrees_bracedBounds? _ _ _
        · rw [if_neg (by simp), if_neg (by decide)]
          exact agrees_bracedBounds? _ _ _

theorem agrees_greed : Agrees greed greed := by
  refine (agrees_accept (by decide)).bind fun isLazy s s' tail => ?_
  split
  next => exact agreesOn_pure _
  next =>
    refine (agrees_accept (by decide) s s' tail).bind fun isPossessive _ _ _ => ?_
    split
    next => exact agreesOn_pure _
    next => exact agreesOn_pure _

/-! ## Parentheses and comments -/

theorem agrees_closeParenthesis (start start' : Nat) :
    Agrees (closeParenthesis start) (closeParenthesis start') := by
  intro s s' tail
  unfold closeParenthesis accept
  simp only [bind_assoc]
  refine agreesOn_peek_bind (fun token htoken => ?_) fun _ => ?_
  · split
    next =>
      simp only [bind_assoc]
      exact agreesOn_next_bind (fun _ _ _ _ _ _ => agreesOn_pure ()) fun hempty => by
        simp [peek_nil hempty] at htoken
    next =>
      simp only [pure_bind, Bool.not_false, if_true]
      exact (fails_bind _ fun _ => fails_fail _ _).agreesOn
  · rw [if_neg (by simp)]
    simp only [pure_bind, Bool.not_false, if_true]
    exact (fails_bind _ fun _ => fails_fail _ _).agreesOn

theorem agrees_skipComment (start start' : Nat) {fuel fuel' : Nat} (hfuel : fuel ≤ fuel') :
    Agrees (skipComment start fuel) (skipComment start' fuel') := by
  induction fuel generalizing fuel' with
  | zero => exact fun _ _ _ => (fails_throw _).agreesOn
  | succ fuel ih =>
      obtain ⟨fuel', rfl⟩ : ∃ m, fuel' = m + 1 := ⟨fuel' - 1, by omega⟩
      intro s s' tail
      refine agreesOn_peek_bind (fun token htoken => ?_) fun _ =>
        (fails_bind _ fun _ => fails_fail _ _).agreesOn
      refine agreesOn_next_bind (fun _ _ _ _ _ _ => ?_) fun hempty => by
        simp [peek_nil hempty] at htoken
      split
      next => exact agreesOn_pure ()
      next => exact ih (by omega) _ _ _

end HttpRouting.Regex.Reader
