import HttpRouting.Proofs.Regex.Reading.Whole

/-!
# Where names and possessive repetitions come from

A group has a name only where the text opens it with that name, and a repetition
is possessive only where a plus follows a mark of repetition.  This is shown for
readers inside one text, whose next characters are an end of it.
-/

namespace HttpRouting.Regex

/-! ## Marks in a text -/

def groupOpening (name : List Char) : List Char := '(' :: '?' :: 'P' :: '<' :: (name ++ ['>'])

def repetitionMarks : List Char := ['?', '*', '+', '}']

def HasPossessiveMark (text : List Char) : Prop := ∃ mark ∈ repetitionMarks, [mark, '+'] <:+: text

instance (text : List Char) : Decidable (HasPossessiveMark text) :=
  List.decidableBEx (fun mark => [mark, '+'] <:+: text) repetitionMarks

/-! ## Nodes -/

namespace Node

variable {text : List Char}

theorem needsTrail_ofList (nodes : List Node) : (ofList nodes).needsTrail = nodes.any needsTrail := by
  induction nodes with
  | nil => rfl
  | cons n rest ih =>
      cases rest with
      | nil => simp [ofList]
      | cons m rest =>
          rw [ofList, needsTrail, ih, List.any_cons (a := n)]
          simp

theorem needsTrail_ofAlternatives (branches : List (List Node)) :
    (ofAlternatives branches).needsTrail = branches.any (List.any · needsTrail) := by
  induction branches with
  | nil => rfl
  | cons branch rest ih =>
      cases rest with
      | nil => simp [ofAlternatives, needsTrail_ofList]
      | cons other rest =>
          rw [ofAlternatives, needsTrail, ih, needsTrail_ofList, List.any_cons (a := branch)]
          simp

theorem needsTrail_of_isShareable {n : Node} (h : isShareable n) : n.needsTrail = false := by
  cases n <;> simp_all [isShareable, needsTrail]

/-- Each node has a possessive repetition only if the text marks one. -/
def AreFrom (text : List Char) (nodes : List Node) : Prop :=
  ∀ n ∈ nodes, n.needsTrail = true → HasPossessiveMark text

theorem areFrom_append {first second : List Node} :
    AreFrom text (first ++ second) ↔ AreFrom text first ∧ AreFrom text second :=
  List.forall_mem_append

theorem areFrom_singleton {n : Node} :
    AreFrom text [n] ↔ (n.needsTrail = true → HasPossessiveMark text) :=
  List.forall_mem_singleton

theorem AreFrom.of_isShareable {n : Node} (h : isShareable n) : AreFrom text [n] :=
  areFrom_singleton.mpr fun htrail => by simp [needsTrail_of_isShareable h] at htrail

theorem AreFrom.ofList {nodes : List Node} (h : AreFrom text nodes)
    (htrail : (ofList nodes).needsTrail = true) : HasPossessiveMark text := by
  rw [needsTrail_ofList, List.any_eq_true] at htrail
  obtain ⟨n, hn, htrail⟩ := htrail
  exact h n hn htrail

theorem areFrom_joinBranches {branches : List (List Node)}
    (h : ∀ branch ∈ branches, AreFrom text branch) : AreFrom text (joinBranches branches) := by
  by_cases hone : branches.length = 1
  · obtain ⟨branch, rfl⟩ := List.length_eq_one_iff.mp hone
    exact h branch (List.mem_singleton_self branch)
  · obtain ⟨hbranches, hshared⟩ := factor_eq (branches.headD []).length branches
    rw [joinBranches_of_ne hone, areFrom_append]
    refine ⟨fun n hn => areFrom_singleton.mp (.of_isShareable (hshared n hn)), ?_⟩
    split
    next => exact .of_isShareable rfl
    next =>
      refine areFrom_singleton.mpr fun htrail => ?_
      rw [needsTrail_ofAlternatives, List.any_eq_true] at htrail
      obtain ⟨rest, hrest, htrail⟩ := htrail
      obtain ⟨n, hn, htrail⟩ := List.any_eq_true.mp htrail
      have hbranch := List.mem_map_of_mem (f := ((factor (branches.headD []).length branches).1 ++ ·))
        hrest
      rw [← hbranches] at hbranch
      exact h _ hbranch n (List.mem_append_right _ hn) htrail

end Node

open Node (AreFrom areFrom_append areFrom_singleton areFrom_joinBranches)

namespace Reader

variable {α β : Type} {text : List Char}

theorem areFrom_node {part : Part} (h : AreFrom text part.nodes)
    (htrail : part.node.needsTrail = true) : HasPossessiveMark text := by
  cases part with
  | one n => exact areFrom_singleton.mp h htrail
  | plain nodes => exact h.ofList htrail

theorem areFrom_cons {part : Part} {parts : List Part} :
    AreFrom text (nodesOf (part :: parts)) ↔
      AreFrom text (nodesOf parts) ∧ AreFrom text part.nodes := by
  rw [nodesOf_cons, areFrom_append]

end Reader

/-! ## Readers inside a text -/

/-- What comes is an end of the text, and the groups with names so far are opened there. -/
structure Source.IsWithin (s : Source) (text : List Char) : Prop where
  backslash : s.rest ≠ ['\\']
  suffix : s.rest <:+ text
  names : ∀ entry ∈ s.names, Text.isIdentifier entry.1 = true ∧ groupOpening entry.1 <:+: text

namespace Reader

variable {α β : Type} {text : List Char} {s last : Source}

theorem GoesOn.isWithin (h : GoesOn s last) (hs : s.IsWithin text) : last.IsWithin text where
  backslash := h.backslash
  suffix := h.suffix.trans hs.suffix
  names := h.names ▸ hs.names

/-- A reader that stays inside a text, with something known of its results. -/
def StaysIn (text : List Char) (m : Reader α) (known : α → Prop) : Prop :=
  ∀ s x last, s.IsWithin text → m.run s = .ok (x, last) → last.IsWithin text ∧ known x

section

variable {m : Reader α} {f : α → Reader β} {known : α → Prop} {later : β → Prop}

theorem Keeps.staysIn (h : Keeps m known) : StaysIn text m known := by
  intro s x last hs hrun
  obtain ⟨hlast, hx⟩ := h s x last hs.backslash hrun
  exact ⟨hlast.isWithin hs, hx⟩

theorem Agrees.staysIn {m' : Reader α} (h : Agrees m m') : StaysIn text m fun _ => True :=
  h.keeps.staysIn

theorem staysIn_pure {x : α} (h : known x) : StaysIn text (pure x) known := (keeps_pure h).staysIn

theorem Fails.staysIn (h : Fails m) : StaysIn text m known :=
  fun s x last _ hrun => absurd hrun (h s x last)

theorem StaysIn.bind (hm : StaysIn text m known) (hf : ∀ x, known x → StaysIn text (f x) later) :
    StaysIn text (m >>= f) later := by
  intro s y last hs hrun
  obtain ⟨x, middle, hfirst, hsecond⟩ := run_bind_eq_ok hrun
  obtain ⟨hmiddle, hx⟩ := hm s x middle hs hfirst
  exact hf x hx middle y last hmiddle hsecond

theorem staysIn_get_bind {f : Source → Reader β} (h : ∀ s, StaysIn text (f s) later) :
    StaysIn text (get >>= f) later :=
  fun s x last hs hrun => h s s x last hs hrun

theorem staysIn_modify {change : Source → Source}
    (h : ∀ s, (change s).rest = s.rest ∧ (change s).names = s.names) :
    StaysIn text (modify change : Reader PUnit) fun _ => True := by
  intro s x last hs hrun
  cases hrun
  obtain ⟨hrest, hnames⟩ := h s
  exact ⟨⟨hrest ▸ hs.backslash, hrest ▸ hs.suffix, hnames ▸ hs.names⟩, trivial⟩

end

/-! ### Characters that have been stepped over -/

theorem rest_of_next {token : Token} (hs : s.rest ≠ ['\\'])
    (h : next.run s = .ok (some token, last)) : s.rest = token ++ last.rest := by
  rcases next_eq_ok hs h with ⟨-, habsurd, -⟩ | ⟨found, rest, i, hfound, -, -, hsplit, -, rfl⟩
  · simp at habsurd
  · obtain rfl := Option.some.inj hfound
    exact hsplit

theorem rest_of_accept {c : Char} {accepted : Bool} (hs : s.rest ≠ ['\\'])
    (h : (accept c).run s = .ok (accepted, last)) :
    if accepted then s.rest = c :: last.rest else last = s := by
  obtain ⟨token, middle, hpeek, h⟩ := run_bind_eq_ok h
  cases hpeek
  split at h
  next htoken =>
    obtain ⟨other, middle, hnext, h⟩ := run_bind_eq_ok h
    obtain ⟨rfl, rfl⟩ := run_pure_eq_ok h
    rcases next_eq_ok hs hnext with ⟨hrest, -, -⟩ | ⟨found, rest, i, -, hfound, -, hsplit, -, rfl⟩
    · simp [peek_nil hrest] at htoken
    · obtain rfl := Option.some.inj (hfound.symm.trans htoken)
      exact hsplit
  next =>
    obtain ⟨rfl, rfl⟩ := run_pure_eq_ok h
    rfl

theorem rest_of_collectUntil {close : Char} {what : String} {fuel : Nat} {collected name : List Char}
    (hs : s.rest ≠ ['\\']) (h : (collectUntil close what fuel collected).run s = .ok (name, last)) :
    ∃ read, name = collected ++ read ∧ s.rest = read ++ close :: last.rest := by
  induction fuel generalizing s collected with
  | zero => exact absurd h (fails_throw _ _ _ _)
  | succ fuel ih =>
      obtain ⟨token, middle, hnext, h⟩ := run_bind_eq_ok h
      cases token with
      | none =>
          dsimp only at h
          split at h <;> exact absurd h (fails_fail _ _ _ _ _)
      | some token =>
          have hrest := rest_of_next hs hnext
          dsimp only at h
          split at h
          next hclose =>
            split at h
            next => exact absurd h (fails_fail _ _ _ _ _)
            next =>
              obtain ⟨rfl, rfl⟩ := run_pure_eq_ok h
              exact ⟨[], by simp, by rw [hrest, hclose]; rfl⟩
          next =>
            obtain ⟨read, rfl, hmiddle⟩ := ih (keeps_next s _ _ hs hnext).1.backslash h
            exact ⟨token ++ read, by simp, by rw [hrest, hmiddle, List.append_assoc]⟩

def Looks (m : Reader α) : Prop := ∀ s x last, m.run s = .ok (x, last) → last = s

theorem looks_pure (x : α) : Looks (pure x) := fun _ _ _ h => (run_pure_eq_ok h).2

theorem Fails.looks {m : Reader α} (h : Fails m) : Looks m :=
  fun s x last hrun => absurd hrun (h s x last)

theorem Looks.bind {m : Reader α} {f : α → Reader β} (hm : Looks m) (hf : ∀ x, Looks (f x)) :
    Looks (m >>= f) := by
  intro s y last hrun
  obtain ⟨x, middle, hfirst, hsecond⟩ := run_bind_eq_ok hrun
  rw [hf x middle y last hsecond, hm s x middle hfirst]

theorem looks_bound? (digits : List Char) : Looks (bound? digits) := by
  unfold bound? bound
  split
  next => exact looks_pure none
  next =>
    refine Looks.bind ?_ fun _ => looks_pure _
    dsimp only
    split
    next => exact ((fails_throw _).bind _).looks
    next =>
      split
      next => exact ((fails_throw _).bind _).looks
      next => exact looks_pure _

theorem looks_boundsOf (start : Nat) (low high : List Char) : Looks (boundsOf start low high) := by
  refine (looks_bound? low).bind fun least => (looks_bound? high).bind fun most => ?_
  split
  next => exact (fails_bind _ fun _ => fails_fail _ _).looks
  next => exact looks_pure _

/-! ### Repetitions -/

theorem rest_of_digitRange {low high : List Char} (hs : s.rest ≠ ['\\'])
    (h : digitRange.run s = .ok ((low, high, true), last)) :
    ∃ read, s.rest = read ++ '}' :: last.rest := by
  obtain ⟨n, _, hremaining, h⟩ := run_bind_eq_ok h
  cases hremaining
  obtain ⟨digits, first, hlow, h⟩ := run_bind_eq_ok h
  obtain ⟨more, second, hhigh, h⟩ := run_bind_eq_ok h
  obtain ⟨closed, third, hclose, h⟩ := run_bind_eq_ok h
  obtain ⟨hanswer, rfl⟩ := run_pure_eq_ok h
  obtain ⟨hfirst, -⟩ := keeps_takeWhile _ _ s _ first hs hlow
  obtain ⟨hsecond, -⟩ := (agrees_highDigits _).keeps first _ second hfirst.backslash hhigh
  obtain rfl : true = closed := by simpa using congrArg (·.2.2) hanswer
  have hrest := rest_of_accept hsecond.backslash hclose
  obtain ⟨read, hread⟩ := hsecond.suffix.trans hfirst.suffix
  rw [if_pos rfl] at hrest
  exact ⟨read, by rw [← hread, hrest]⟩

theorem mark_of_bounds? {mark : Char} {bounds : Nat × Option Nat} (hs : s.rest ≠ ['\\'])
    (h : (bounds? mark).run s = .ok (some bounds, last)) :
    ∃ finish ∈ repetitionMarks, ∃ read, mark :: s.rest = read ++ finish :: last.rest := by
  have hown (hmark : mark ∈ repetitionMarks) {other : Option (Nat × Option Nat)}
      (h : (pure other : Reader (Option (Nat × Option Nat))).run s = .ok (some bounds, last)) :
      ∃ finish ∈ repetitionMarks, ∃ read, mark :: s.rest = read ++ finish :: last.rest := by
    obtain ⟨-, rfl⟩ := run_pure_eq_ok h
    exact ⟨mark, hmark, [], rfl⟩
  unfold bounds? at h
  split at h
  next hmark => exact hown (by simp_all [repetitionMarks]) h
  next =>
    split at h
    next hmark => exact hown (by simp_all [repetitionMarks]) h
    next =>
      split at h
      next hmark => exact hown (by simp_all [repetitionMarks]) h
      next =>
        obtain ⟨token, _, hpeek, h⟩ := run_bind_eq_ok h
        cases hpeek
        split at h
        next => cases h
        next =>
          rw [bracedBounds?_eq] at h
          obtain ⟨_, _, hget, h⟩ := run_bind_eq_ok h
          cases hget
          obtain ⟨⟨low, high, closed⟩, middle, hrange, h⟩ := run_bind_eq_ok h
          cases closed with
          | false => cases h
          | true =>
              obtain rfl := looks_boundsOf _ _ _ _ _ _ h
              obtain ⟨read, hread⟩ := rest_of_digitRange hs hrange
              exact ⟨'}', by simp [repetitionMarks], mark :: read, by rw [hread]; rfl⟩

theorem rest_of_greed (hs : s.rest ≠ ['\\']) (hgreed : greed.run s = .ok (.possessive, last)) :
    s.rest = '+' :: last.rest := by
  obtain ⟨isLazy, middle, hlazy, h⟩ := run_bind_eq_ok hgreed
  split at h
  next => cases h
  next hfalse =>
    obtain rfl : isLazy = false := by simpa using hfalse
    obtain rfl : middle = s := rest_of_accept hs hlazy
    obtain ⟨isPossessive, last', hpossessive, h⟩ := run_bind_eq_ok h
    split at h
    next htrue =>
      obtain rfl : isPossessive = true := htrue
      obtain ⟨-, rfl⟩ := run_pure_eq_ok h
      exact rest_of_accept hs hpossessive
    next => cases h

theorem exists_greed_of_repeatLast {here least : Nat} {most : Option Nat} {parts repeated : List Part}
    (h : (repeatLast here least most parts).run s = .ok (repeated, last)) :
    ∃ part rest greed', parts = part :: rest ∧ greed.run s = .ok (greed', last) ∧
      repeated = .one (.loop greed' least most part.node) :: rest := by
  cases parts with
  | nil => exact absurd h (fails_bind _ (fun _ => fails_fail _ _) _ _ _)
  | cons part rest =>
      have hloop (h : (greed >>= fun g => pure (.one (.loop g least most part.node) :: rest) :
          Reader (List Part)).run s = .ok (repeated, last)) :
          ∃ part' rest' greed', part :: rest = part' :: rest' ∧ greed.run s = .ok (greed', last) ∧
            repeated = .one (.loop greed' least most part'.node) :: rest' := by
        obtain ⟨g, middle, hgreed, h⟩ := run_bind_eq_ok h
        obtain ⟨rfl, rfl⟩ := run_pure_eq_ok h
        exact ⟨part, rest, g, rfl, hgreed, rfl⟩
      cases part with
      | plain nodes => exact hloop h
      | one node =>
          unfold repeatLast at h
          dsimp only at h
          split at h
          next => exact absurd h (fails_bind _ (fun _ => (fails_fail _ _).bind _) _ _ _)
          next =>
            split at h
            next => exact absurd h (fails_bind _ (fun _ => (fails_fail _ _).bind _) _ _ _)
            next => exact hloop h

theorem areFrom_repeatLast {mark : Char} {bounds : Nat × Option Nat} {middle : Source}
    (hs : s.IsWithin text) (hmark : mark :: s.rest <:+ text) {here : Nat} {parts repeated : List Part}
    (hparts : AreFrom text (nodesOf parts))
    (hbounds : (bounds? mark).run s = .ok (some bounds, middle))
    (hrepeat : (repeatLast here bounds.1 bounds.2 parts).run middle = .ok (repeated, last)) :
    AreFrom text (nodesOf repeated) := by
  obtain ⟨hmiddle, -⟩ := (agrees_bounds? mark).staysIn s _ middle hs hbounds
  obtain ⟨part, rest, g, rfl, hgreed, rfl⟩ := exists_greed_of_repeatLast hrepeat
  rw [areFrom_cons] at hparts ⊢
  refine ⟨hparts.1, areFrom_singleton.mpr fun htrail => ?_⟩
  rw [Node.needsTrail, Bool.or_eq_true, Bool.and_eq_true, beq_iff_eq] at htrail
  rcases htrail with ⟨rfl, -⟩ | hbody
  · obtain ⟨finish, hfinish, read, hread⟩ := mark_of_bounds? hs.backslash hbounds
    rw [rest_of_greed hmiddle.backslash hgreed] at hread
    have hplus : [finish, '+'] <:+: mark :: s.rest := ⟨read, last.rest, by simp [hread]⟩
    exact ⟨finish, hfinish, hplus.trans hmark.isInfix⟩
  · exact areFrom_node hparts.2 hbody

/-! ### Openings of groups -/

/-- The name of a group is opened in the text, and a part that is done comes from it. -/
def Opening.IsFrom (text : List Char) : Opening → Prop
  | .capture (some name) => Text.isIdentifier name = true ∧ groupOpening name <:+: text
  | .done part => AreFrom text part.nodes
  | _ => True

theorem isIdentifier_of_checkGroupName {name : List Char} {x : Unit}
    (h : (checkGroupName name).run s = .ok (x, last)) : Text.isIdentifier name = true := by
  unfold checkGroupName at h
  split at h
  next => exact absurd h (fails_fail _ _ _ _ _)
  next hname => simpa using hname

theorem isFrom_openingAfterP {opened : Opening} (hs : s.IsWithin text)
    (hbefore : '(' :: '?' :: 'P' :: s.rest <:+ text) (h : openingAfterP.run s = .ok (opened, last)) :
    opened.IsFrom text := by
  obtain ⟨named, middle, haccept, h⟩ := run_bind_eq_ok h
  obtain ⟨hmiddle, -⟩ := (agrees_accept (by decide)).staysIn s _ middle hs haccept
  cases named with
  | true =>
      have hless : s.rest = '<' :: middle.rest := rest_of_accept hs.backslash haccept
      obtain ⟨name, after, hname, h⟩ := run_bind_eq_ok h
      obtain ⟨_, after', hcheck, h⟩ := run_bind_eq_ok h
      obtain ⟨rfl, -⟩ := run_pure_eq_ok h
      obtain ⟨n, _, hremaining, hname⟩ := run_bind_eq_ok hname
      cases hremaining
      obtain ⟨read, rfl, hread⟩ := rest_of_collectUntil hmiddle.backslash hname
      refine ⟨isIdentifier_of_checkGroupName hcheck, List.IsInfix.trans ?_ hbefore.isInfix⟩
      exact ⟨[], after.rest, by simp [groupOpening, hless, hread]⟩
  | false =>
      obtain ⟨refers, middle', haccept', h⟩ := run_bind_eq_ok h
      obtain ⟨hmiddle', -⟩ := (agrees_accept (by decide)).staysIn middle _ middle' hmiddle haccept'
      cases refers with
      | true =>
          obtain ⟨node, after, hnode, h⟩ := run_bind_eq_ok h
          obtain ⟨rfl, -⟩ := run_pure_eq_ok h
          obtain ⟨-, group, rfl⟩ := keeps_namedBackreference _ _ _ hmiddle'.backslash hnode
          exact .of_isShareable rfl
      | false =>
          obtain ⟨token, after, -, h⟩ := run_bind_eq_ok h
          split at h <;> exact absurd h (fails_fail _ _ _ _ _)

theorem staysIn_flagChange {letter : Char} (hletter : letter = '-' ∨ isFlagLetter letter) :
    StaysIn text (flagChange letter) fun _ => True := by
  unfold flagChange
  split
  next => exact ((keeps_turnOff {}).mono fun _ _ => trivial).staysIn
  next hne =>
    have hflag : isFlagLetter letter := hletter.resolve_left (by simpa using hne)
    refine keeps_remaining.staysIn.bind fun n _ => ?_
    refine (keeps_flagLetters keeps_checkTurnedOn _ hflag {}).staysIn.bind fun result _ => ?_
    dsimp only
    split
    next =>
      refine StaysIn.bind (staysIn_modify fun s => ?_) fun _ _ => staysIn_pure trivial
      exact ⟨rfl, rfl⟩
    next =>
      split
      next => exact (fails_fail _ _).staysIn
      next =>
        split
        next => exact ((keeps_turnOff _).mono fun _ _ => trivial).staysIn
        next => exact staysIn_pure trivial

theorem isFrom_opening {start : Nat} {opened : Opening} (hs : s.IsWithin text)
    (hbefore : '(' :: s.rest <:+ text) (h : (opening start).run s = .ok (opened, last)) :
    last.IsWithin text ∧ opened.IsFrom text := by
  unfold opening at h
  obtain ⟨marked, middle, haccept, h⟩ := run_bind_eq_ok h
  obtain ⟨hmiddle, -⟩ := (agrees_accept (by decide)).staysIn s _ middle hs haccept
  cases marked with
  | false =>
      obtain ⟨rfl, rfl⟩ := run_pure_eq_ok h
      exact ⟨hmiddle, trivial⟩
  | true =>
      have hmark : s.rest = '?' :: middle.rest := rest_of_accept hs.backslash haccept
      obtain ⟨token, after, hnext, h⟩ := run_bind_eq_ok h
      obtain ⟨hafter, -⟩ := keeps_next.staysIn middle _ after hmiddle hnext
      split at h
      next => exact absurd h (fails_fail _ _ _ _ _)
      next token =>
        have hrest := rest_of_next hmiddle.backslash hnext
        have hpure {x : Opening} (h : (pure x : Reader Opening).run after = .ok (opened, last))
            (hx : x.IsFrom text) : last.IsWithin text ∧ opened.IsFrom text :=
          staysIn_pure hx after opened last hafter h
        split at h
        next =>
          rw [hmark, hrest] at hbefore
          refine ⟨(keeps_openingAfterP.staysIn after opened last hafter h).1, ?_⟩
          exact isFrom_openingAfterP hafter hbefore h
        next => exact hpure h trivial
        next =>
          refine StaysIn.bind (keeps_remaining.staysIn) (fun n _ => ?_) after opened last hafter h
          exact (agrees_skipComment start start (Nat.le_refl _)).staysIn.bind fun _ _ =>
            staysIn_pure trivial
        next => exact hpure h trivial
        next => exact hpure h trivial
        next =>
          refine (keeps_openingAfterLess.mono fun opened hopened => ?_).staysIn after opened last hafter h
          obtain ⟨negated, rfl⟩ := hopened
          trivial
        next =>
          exact (keeps_conditionGroup.staysIn.bind fun _ _ => staysIn_pure trivial)
            after opened last hafter h
        next => exact hpure h trivial
        next c _ _ _ _ _ _ _ _ =>
          split at h
          next hflag =>
            refine (staysIn_flagChange (by simpa using hflag)).bind (fun change _ => ?_)
              after opened last hafter h
            cases change with
            | overall => exact staysIn_pure trivial
            | «local» on off => exact staysIn_pure trivial
          next => exact absurd h (fails_fail _ _ _ _ _)
        next => exact absurd h (fails_fail _ _ _ _ _)

/-! ## Sequences and alternatives -/

theorem staysIn_openGroup {name : Option (List Char)}
    (h : Opening.IsFrom text (.capture name)) : StaysIn text (openGroup name) fun _ => True := by
  intro s x last hs hrun
  cases name with
  | none =>
      cases hrun
      exact ⟨⟨hs.backslash, hs.suffix, hs.names⟩, trivial⟩
  | some name =>
      unfold openGroup at hrun
      obtain ⟨seen, _, hget, hrun⟩ := run_bind_eq_ok hrun
      cases hget
      dsimp only at hrun
      split at hrun
      next => exact absurd hrun ((fails_fail _ _).bind _ _ _ _)
      next =>
        cases hrun
        exact ⟨⟨hs.backslash, hs.suffix, List.forall_mem_append.mpr
          ⟨hs.names, List.forall_mem_singleton.mpr h⟩⟩, trivial⟩

theorem staysIn_one {n : Node} (h : n.needsTrail = true → HasPossessiveMark text) :
    StaysIn text (pure (Part.one n)) fun part => AreFrom text part.nodes :=
  staysIn_pure (areFrom_singleton.mpr h)

theorem staysIn_closed {start : Nat} {finish : Unit → Reader Part} {known : Part → Prop}
    (h : ∀ x, StaysIn text (finish x) known) :
    StaysIn text (closeParenthesis start >>= finish) known :=
  (agrees_closeParenthesis start start).staysIn.bind fun x _ => h x

theorem eq_of_ofToken_parenthesis {token : Token} (h : Item.ofToken token = .parenthesis) :
    token = ['('] := by
  unfold Item.ofToken Item.ofChar at h
  split at h <;> grind

theorem eq_of_ofToken_repetition {token : Token} {mark : Char}
    (h : Item.ofToken token = .repetition mark) : token = [mark] := by
  unfold Item.ofToken Item.ofChar at h
  split at h <;> grind

/-- What the readers of sequences and alternatives do inside a text with so much fuel. -/
structure Originates (text : List Char) (fuel : Nat) : Prop where
  alternatives : ∀ verbose outermost,
    StaysIn text (alternatives fuel verbose outermost) (AreFrom text)
  moreBranches : ∀ verbose outermost branches, (∀ branch ∈ branches, AreFrom text branch) →
    StaysIn text (moreBranches fuel verbose outermost branches) fun result =>
      ∀ branch ∈ result, AreFrom text branch
  sequence : ∀ verbose first parts, AreFrom text (nodesOf parts) →
    StaysIn text (sequence fuel verbose first parts) (AreFrom text)
  group : ∀ verbose start opened, opened.IsFrom text →
    StaysIn text (group fuel verbose start opened) fun part => AreFrom text part.nodes

section

variable {fuel : Nat} (ih : Originates text fuel)

include ih

theorem Originates.alternatives_succ (verbose outermost : Bool) :
    StaysIn text (Reader.alternatives (fuel + 1) verbose outermost) (AreFrom text) := by
  rw [Reader.alternatives]
  refine (ih.sequence verbose outermost [] (by simp [nodesOf, AreFrom])).bind fun first hfirst => ?_
  refine (ih.moreBranches verbose outermost [first] (List.forall_mem_singleton.mpr hfirst)).bind
    fun branches hbranches => ?_
  exact staysIn_pure (areFrom_joinBranches hbranches)

theorem Originates.moreBranches_succ (verbose outermost : Bool) (branches : List (List Node))
    (h : ∀ branch ∈ branches, AreFrom text branch) :
    StaysIn text (Reader.moreBranches (fuel + 1) verbose outermost branches) fun result =>
      ∀ branch ∈ result, AreFrom text branch := by
  rw [Reader.moreBranches]
  refine (agrees_accept (by decide)).staysIn.bind fun more _ => ?_
  split
  next =>
    refine staysIn_get_bind fun s => ?_
    refine (ih.sequence _ _ _ (by simp [nodesOf, AreFrom])).bind fun branch hbranch => ?_
    exact ih.moreBranches _ _ _
      (List.forall_mem_append.mpr ⟨h, List.forall_mem_singleton.mpr hbranch⟩)
  next => exact staysIn_pure h

theorem Originates.sequence_cons {verbose first : Bool} {part : Part} {parts : List Part}
    (hparts : AreFrom text (nodesOf parts)) (hpart : AreFrom text part.nodes) :
    StaysIn text (Reader.sequence fuel verbose first (part :: parts)) (AreFrom text) :=
  ih.sequence verbose first (part :: parts) (areFrom_cons.mpr ⟨hparts, hpart⟩)

theorem Originates.parenthesis {verbose first : Bool} {parts : List Part} {nodes : List Node}
    (hparts : AreFrom text (nodesOf parts)) (hs : s.IsWithin text) (hbefore : '(' :: s.rest <:+ text)
    (hrun : StateT.run (do
      let start := (← index) - 1
      match ← opening start with
      | .comment => Reader.sequence fuel verbose first parts
      | .overallFlags =>
        if !first || !parts.isEmpty then fail .lateFlags ((← index) - start)
        let s ← get
        Reader.sequence fuel s.flags.verbose first parts
      | .done part => Reader.sequence fuel verbose first (part :: parts)
      | other =>
        let part ← Reader.group fuel verbose start other
        Reader.sequence fuel verbose first (part :: parts)) s = .ok (nodes, last)) :
    last.IsWithin text ∧ AreFrom text nodes := by
  obtain ⟨i, _, hindex, hrun⟩ := run_bind_eq_ok hrun
  cases hindex
  obtain ⟨opened, after, hopening, hrun⟩ := run_bind_eq_ok hrun
  obtain ⟨hafter, hopened⟩ := isFrom_opening hs hbefore hopening
  cases opened with
  | comment => exact ih.sequence _ _ _ hparts after nodes last hafter hrun
  | overallFlags =>
      dsimp only at hrun
      split at hrun
      next => exact absurd hrun (fails_bind _ (fun _ => (fails_fail _ _).bind _) _ _ _)
      next =>
        refine staysIn_get_bind (fun s => ?_) after nodes last hafter hrun
        exact ih.sequence _ _ _ hparts
  | done part => exact ih.sequence_cons hparts hopened after nodes last hafter hrun
  | capture _ | flagged _ _ | atomic | look _ | lookBehind _ | condition _ =>
      refine (ih.group _ _ _ hopened).bind (fun part hpart => ?_) after nodes last hafter hrun
      exact ih.sequence_cons hparts hpart

theorem Originates.repetition {verbose first : Bool} {parts : List Part} {mark : Char}
    {nodes : List Node} (hparts : AreFrom text (nodesOf parts)) (hs : s.IsWithin text)
    (hmark : mark :: s.rest <:+ text)
    (hrun : StateT.run (do
      let here ← index
      match ← bounds? mark with
      | none => Reader.sequence fuel verbose first (.one (.literal mark.toNat) :: parts)
      | some (least, most) =>
        Reader.sequence fuel verbose first (← repeatLast here least most parts)) s =
          .ok (nodes, last)) :
    last.IsWithin text ∧ AreFrom text nodes := by
  obtain ⟨here, _, hindex, hrun⟩ := run_bind_eq_ok hrun
  cases hindex
  obtain ⟨bounds, middle, hbounds, hrun⟩ := run_bind_eq_ok hrun
  obtain ⟨hmiddle, -⟩ := (agrees_bounds? mark).staysIn s _ middle hs hbounds
  cases bounds with
  | none => exact ih.sequence_cons hparts (.of_isShareable rfl) middle nodes last hmiddle hrun
  | some bounds =>
      obtain ⟨repeated, after, hrepeat, hrun⟩ := run_bind_eq_ok hrun
      obtain ⟨hafter, -⟩ := (keeps_repeatLast _ _ _ _).staysIn middle _ after hmiddle hrepeat
      have hrepeated := areFrom_repeatLast hs hmark hparts hbounds hrepeat
      exact ih.sequence _ _ _ hrepeated after nodes last hafter hrun

theorem Originates.sequence_succ (verbose first : Bool) (parts : List Part)
    (hparts : AreFrom text (nodesOf parts)) :
    StaysIn text (Reader.sequence (fuel + 1) verbose first parts) (AreFrom text) := by
  intro s nodes last hs hrun
  have hstop (hrun : (pure (nodesOf parts) : Reader (List Node)).run s = .ok (nodes, last)) :
      last.IsWithin text ∧ AreFrom text nodes :=
    staysIn_pure hparts s nodes last hs hrun
  rw [Reader.sequence] at hrun
  obtain ⟨token, middle, hpeek, hrun⟩ := run_bind_eq_ok hrun
  cases hpeek
  dsimp only at hrun
  split at hrun
  next => exact hstop hrun
  next token htoken =>
    split at hrun
    next => exact hstop hrun
    next =>
      obtain ⟨found, after, hnext, hrun⟩ := run_bind_eq_ok hrun
      obtain ⟨hafter, -⟩ := keeps_next.staysIn s _ after hs hnext
      have hgo {m : Reader (List Node)} (hm : StaysIn text m (AreFrom text))
          (hrun : m.run after = .ok (nodes, last)) : last.IsWithin text ∧ AreFrom text nodes :=
        hm after nodes last hafter hrun
      have hbefore (c : Char) (hc : token = [c]) : c :: after.rest <:+ text := by
        rcases next_eq_ok hs.backslash hnext with
          ⟨hrest, -, -⟩ | ⟨other, rest, i, -, hother, -, hsplit, -, rfl⟩
        · simp [peek_nil hrest] at htoken
        · obtain rfl := Option.some.inj (hother.symm.trans htoken)
          have hrest : s.rest = c :: rest := by rw [hsplit, hc]; rfl
          exact hrest ▸ hs.suffix
      split at hrun
      next => exact hgo (ih.sequence _ _ _ hparts) hrun
      next =>
        split at hrun
        next =>
          refine hgo (keeps_remaining.staysIn.bind fun n _ => ?_) hrun
          exact (keeps_skipLine _).staysIn.bind fun _ _ => ih.sequence _ _ _ hparts
        next =>
          cases hitem : Item.ofToken token with
          | escape c =>
              simp only [hitem] at hrun
              refine hgo ((keeps_escapeOutside c).staysIn.bind fun n hn => ?_) hrun
              exact ih.sequence_cons hparts (.of_isShareable hn)
          | characterClass =>
              simp only [hitem] at hrun
              refine hgo (keeps_index.staysIn.bind fun i _ => ?_) hrun
              refine (keeps_characterClass _).staysIn.bind fun n hn => ?_
              exact ih.sequence_cons hparts (.of_isShareable hn)
          | parenthesis =>
              simp only [hitem] at hrun
              have hbefore := hbefore '(' (eq_of_ofToken_parenthesis hitem)
              exact ih.parenthesis hparts hafter hbefore hrun
          | repetition mark =>
              simp only [hitem] at hrun
              have hbefore := hbefore mark (eq_of_ofToken_repetition hitem)
              exact ih.repetition hparts hafter hbefore hrun
          | node n =>
              simp only [hitem] at hrun
              exact hgo (ih.sequence_cons hparts (.of_isShareable (isShareable_of_ofToken hitem))) hrun
          | nothing =>
              simp only [hitem] at hrun
              exact hgo (ih.sequence _ _ _ hparts) hrun

theorem Originates.condition_succ (verbose : Bool) (start group : Nat) :
    StaysIn text (Reader.group (fuel + 1) verbose start (.condition group)) fun part =>
      AreFrom text part.nodes := by
  have hempty : AreFrom text (nodesOf []) := by simp [nodesOf, AreFrom]
  have hfinish {present absent : Node} (hpresent : present.needsTrail = true → HasPossessiveMark text)
      (habsent : absent.needsTrail = true → HasPossessiveMark text) :
      StaysIn text (pure absent >>= fun absent => closeParenthesis start >>= fun _ =>
        pure (Part.one (.conditional group present absent))) fun part => AreFrom text part.nodes := by
    rw [pure_bind]
    refine staysIn_closed fun _ => staysIn_one fun htrail => ?_
    rw [Node.needsTrail, Bool.or_eq_true] at htrail
    exact htrail.elim hpresent habsent
  rw [Reader.group.eq_def]
  refine (ih.sequence _ _ _ hempty).bind fun present hpresent => ?_
  refine (agrees_accept (by decide)).staysIn.bind fun more _ => ?_
  split
  next =>
    refine (ih.sequence _ _ _ hempty).bind fun absent habsent => ?_
    refine keeps_peek.staysIn.bind fun token _ => ?_
    split
    next => exact ((fails_fail _ _).bind _).staysIn
    next => exact hfinish hpresent.ofList habsent.ofList
  next => exact hfinish hpresent.ofList fun htrail => by simp [Node.needsTrail] at htrail

theorem Originates.lookBehind_succ (verbose : Bool) (start : Nat) (negated : Bool) :
    StaysIn text (Reader.group (fuel + 1) verbose start (.lookBehind negated)) fun part =>
      AreFrom text part.nodes := by
  have hmark (outside : Source → Option Nat) :
      StaysIn text (modify fun s => { s with outsideLookBehind := outside s }) fun _ => True :=
    staysIn_modify fun _ => ⟨rfl, rfl⟩
  have hfinish {body : Node} (hbody : body.needsTrail = true → HasPossessiveMark text) :
      StaysIn text (closeParenthesis start >>= fun _ => get >>= fun s =>
        pure (Part.one (.look (.behind (body.width s.widths).least (body.width s.widths).greatest)
          negated body))) fun part => AreFrom text part.nodes :=
    staysIn_closed fun _ => staysIn_get_bind fun _ => staysIn_one hbody
  rw [Reader.group.eq_def]
  refine staysIn_get_bind fun s => ?_
  dsimp only
  split
  next =>
    refine (hmark fun s => some s.groupCount).bind fun _ _ => ?_
    refine (ih.alternatives _ _).bind fun nodes hnodes => ?_
    exact (hmark fun _ => none).bind fun _ _ => hfinish hnodes.ofList
  next => exact (ih.alternatives _ _).bind fun nodes hnodes => hfinish hnodes.ofList

theorem Originates.group_succ (verbose : Bool) (start : Nat) (opened : Opening)
    (hopened : opened.IsFrom text) :
    StaysIn text (Reader.group (fuel + 1) verbose start opened) fun part =>
      AreFrom text part.nodes := by
  have hbody {outer : Bool} {f : List Node → Reader Part}
      (hf : ∀ nodes, AreFrom text nodes → StaysIn text (f nodes) fun part => AreFrom text part.nodes) :
      StaysIn text (Reader.alternatives fuel outer false >>= fun nodes =>
        closeParenthesis start >>= fun _ => f nodes) fun part => AreFrom text part.nodes :=
    (ih.alternatives outer false).bind fun nodes hnodes => staysIn_closed fun _ => hf nodes hnodes
  cases opened with
  | capture name =>
      rw [Reader.group.eq_def]
      refine (staysIn_openGroup hopened).bind fun index _ => hbody fun nodes hnodes => ?_
      refine StaysIn.bind (staysIn_modify fun s => ?_) fun _ _ => ?_
      · exact ⟨rfl, rfl⟩
      · exact staysIn_one hnodes.ofList
  | flagged on off =>
      rw [Reader.group.eq_def]
      refine hbody fun nodes hnodes => ?_
      split
      next => exact staysIn_pure hnodes
      next => exact staysIn_one hnodes.ofList
  | atomic | look negated =>
      rw [Reader.group.eq_def]
      exact hbody fun nodes hnodes => staysIn_one hnodes.ofList
  | lookBehind negated => exact ih.lookBehind_succ verbose start negated
  | condition group => exact ih.condition_succ verbose start group
  | done part =>
      rw [Reader.group.eq_def]
      exact staysIn_pure hopened
  | comment | overallFlags =>
      rw [Reader.group.eq_def]
      exact staysIn_pure (by simp [Part.nodes, AreFrom])

end

theorem originates (text : List Char) (fuel : Nat) : Originates text fuel := by
  induction fuel with
  | zero =>
      constructor
      · intro verbose outermost
        exact (fails_throw _).staysIn
      · intro verbose outermost branches _
        exact (fails_throw _).staysIn
      · intro verbose first parts _
        exact (fails_throw _).staysIn
      · intro verbose start opened _
        rw [Reader.group.eq_def]
        exact (fails_throw _).staysIn
  | succ fuel ih =>
      exact ⟨ih.alternatives_succ, ih.moreBranches_succ, ih.sequence_succ, ih.group_succ⟩

end Reader

namespace Expression

variable {text : List Char} {e : Expression}

theorem exists_isWithin_of_read (h : read text = .ok e) :
    ∃ (nodes : List Node) (last : Source), last.IsWithin text ∧ AreFrom text nodes ∧
      e.node = .ofList nodes ∧
      e.names = last.names.map fun (name, index) => (.ofList name, index) := by
  obtain ⟨nodes, last, htext, hrun, -, hnode, -, hnames⟩ := read_eq_ok h
  have hstart : Source.IsWithin { rest := text } text := ⟨htext, List.suffix_rfl, by simp⟩
  obtain ⟨hlast, hnodes⟩ := (Reader.originates text _).alternatives _ _ _ nodes last hstart hrun
  exact ⟨nodes, last, hlast, hnodes, hnode, hnames⟩

theorem groupOpening_of_read (h : read text = .ok e) {name : String} {index : Nat}
    (hname : (name, index) ∈ e.names) :
    Text.isIdentifier name.toList = true ∧ groupOpening name.toList <:+: text := by
  obtain ⟨nodes, last, hlast, -, -, hnames⟩ := exists_isWithin_of_read h
  rw [hnames] at hname
  obtain ⟨⟨letters, index⟩, hentry, heq⟩ := List.mem_map.mp hname
  obtain ⟨rfl, -⟩ := Prod.mk.inj heq
  simpa using hlast.names _ hentry

theorem hasPossessiveMark_of_read (h : read text = .ok e) (htrail : e.node.needsTrail = true) :
    HasPossessiveMark text := by
  obtain ⟨nodes, last, -, hnodes, hnode, -⟩ := exists_isWithin_of_read h
  exact hnodes.ofList (hnode ▸ htrail)

/-! ## Matches that fail -/

theorem fullMatch_error {subject : List Char} {error : Error} (h : e.fullMatch subject = .error error) :
    error = .crossedGroup ∧ e.node.needsTrail = true := by
  rw [fullMatch] at h
  split at h
  next htrail =>
    refine ⟨?_, htrail⟩
    split at h
    next => simp at h
    next =>
      cases htrack : e.node.trackWhole? e.flags subject with
      | none => simp [htrack, pure, Except.pure] at h
      | some t =>
          simp only [htrack, Option.mapM_some, ofTrail] at h
          split at h <;> simp_all [Functor.map, Except.map]
  next => simp at h

end Expression

end HttpRouting.Regex
