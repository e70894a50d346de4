import HttpRouting.Proofs.Regex.Reading.Agreement
import HttpRouting.Regex.Plain

/-!
# What reading leaves behind

Flags for the whole expression and names of groups are never taken back, and a
node that has been read becomes a part of the result.  So when the result of
reading is plain and there are neither flags nor names, nothing was read on the
way that is not plain.
-/

namespace HttpRouting.Regex

def Source.IsBare (s : Source) : Prop := s.flags = {} ∧ s.names = []

namespace Reader

variable {α β : Type}

/-! ## Readers of single nodes -/

/-- Reading has gone on in the text and has left flags and names alone. -/
structure GoesOn (s last : Source) : Prop where
  backslash : last.rest ≠ ['\\']
  suffix : last.rest <:+ s.rest
  flags : last.flags = s.flags
  names : last.names = s.names

theorem GoesOn.trans {s middle last : Source} (h : GoesOn s middle) (h' : GoesOn middle last) :
    GoesOn s last where
  backslash := h'.backslash
  suffix := h'.suffix.trans h.suffix
  flags := h'.flags.trans h.flags
  names := h'.names.trans h.names

theorem goesOn_refl {s : Source} (hs : s.rest ≠ ['\\']) : GoesOn s s :=
  ⟨hs, List.suffix_rfl, rfl, rfl⟩

/-- A reader that leaves flags and names alone, with something known of its results. -/
def Keeps (m : Reader α) (known : α → Prop) : Prop :=
  ∀ s x last, s.rest ≠ ['\\'] → m.run s = .ok (x, last) → GoesOn s last ∧ known x

section

variable {m : Reader α} {f : α → Reader β} {known : α → Prop} {later : β → Prop}

theorem keeps_pure {x : α} (h : known x) : Keeps (pure x) known := by
  intro s y last hs hrun
  obtain ⟨rfl, rfl⟩ := run_pure_eq_ok hrun
  exact ⟨goesOn_refl hs, h⟩

theorem Fails.keeps (h : Fails m) : Keeps m known :=
  fun s x last _ hrun => absurd hrun (h s x last)

theorem Keeps.bind (hm : Keeps m known) (hf : ∀ x, known x → Keeps (f x) later) :
    Keeps (m >>= f) later := by
  intro s y last hs hrun
  obtain ⟨x, middle, hfirst, hsecond⟩ := run_bind_eq_ok hrun
  obtain ⟨hmiddle, hx⟩ := hm s x middle hs hfirst
  obtain ⟨hlast, hy⟩ := hf x hx middle y last hmiddle.backslash hsecond
  exact ⟨hmiddle.trans hlast, hy⟩

theorem Keeps.mono (h : Keeps m known) {weaker : α → Prop} (hmono : ∀ x, known x → weaker x) :
    Keeps m weaker := by
  intro s x last hs hrun
  obtain ⟨hlast, hx⟩ := h s x last hs hrun
  exact ⟨hlast, hmono x hx⟩

theorem Agrees.keeps {m' : Reader α} (h : Agrees m m') : Keeps m fun _ => True := by
  intro s x last hs hrun
  obtain ⟨-, -, rest, i, j, hrest, hsuffix, rfl, -⟩ :=
    h s (s.at (s.rest ++ [')']) 0) [] ⟨hs, rfl⟩ x last hrun trivial
  exact ⟨⟨hrest, hsuffix, rfl, rfl⟩, trivial⟩

theorem keeps_peek : Keeps peek fun _ => True := by
  intro s x last hs hrun
  rw [run_peek, Except.ok.injEq, Prod.mk.injEq] at hrun
  obtain ⟨-, rfl⟩ := hrun
  exact ⟨goesOn_refl hs, trivial⟩

theorem keeps_index : Keeps index fun _ => True := by
  intro s x last hs hrun
  cases hrun
  exact ⟨goesOn_refl hs, trivial⟩

theorem keeps_remaining : Keeps remaining fun _ => True := by
  intro s x last hs hrun
  cases hrun
  exact ⟨goesOn_refl hs, trivial⟩

theorem keeps_next : Keeps next fun _ => True := by
  intro s x last hs hrun
  rcases next_eq_ok hs hrun with ⟨-, -, rfl⟩ | ⟨token, rest, i, -, -, -, hsplit, hrest, rfl⟩
  · exact ⟨goesOn_refl hs, trivial⟩
  · exact ⟨⟨hrest, hsplit ▸ List.suffix_append token rest, rfl, rfl⟩, trivial⟩

theorem keeps_get_bind {f : Source → Reader β} (h : ∀ s, Keeps (f s) later) :
    Keeps (get >>= f) later :=
  fun s x last hs hrun => h s s x last hs hrun

theorem keeps_modify {change : Source → Source}
    (h : ∀ s, (change s).rest = s.rest ∧ (change s).flags = s.flags ∧ (change s).names = s.names) :
    Keeps (modify change : Reader PUnit) fun _ => True := by
  intro s x last hs hrun
  cases hrun
  obtain ⟨hrest, hflags, hnames⟩ := h s
  exact ⟨⟨by rwa [hrest], hrest ▸ List.suffix_rfl, hflags, hnames⟩, trivial⟩

end

theorem keeps_takeWhile (isMember : Char → Bool) (n : Nat) :
    Keeps (takeWhile isMember n) fun _ => True := by
  induction n with
  | zero => exact keeps_pure trivial
  | succ n ih =>
      refine keeps_peek.bind fun token _ => ?_
      split
      next =>
        split
        next => exact keeps_next.bind fun _ _ => ih.bind fun _ _ => keeps_pure trivial
        next => exact keeps_pure trivial
      next => exact keeps_pure trivial

/-! ### Escapes -/

theorem keeps_checkLookBehind (group : Nat) : Keeps (checkLookBehind group) fun _ => True := by
  refine keeps_get_bind fun s => ?_
  split
  next =>
    dsimp only
    split
    next => exact ((fails_fail _ _).bind _).keeps
    next =>
      split
      next => exact (fails_fail _ _).keeps
      next => exact keeps_pure trivial
  next => exact keeps_pure trivial

theorem keeps_groupReference (group back : Nat) :
    Keeps (groupReference group back) fun n => n = .backreference group := by
  refine keeps_get_bind fun s => ?_
  split
  next =>
    dsimp only
    split
    next => exact ((fails_fail _ _).bind _).keeps
    next => exact (keeps_checkLookBehind group).bind fun _ _ => keeps_pure rfl
  next => exact (fails_fail _ _).keeps

theorem keeps_digitEscape (c : Char) : Keeps (digitEscape c) fun n => isShareable n := by
  have hreference (group back : Nat) : Keeps (groupReference group back) fun n => isShareable n :=
    (keeps_groupReference group back).mono fun n hn => by rw [hn]; rfl
  unfold digitEscape
  split
  next => exact (keeps_takeWhile _ _).bind fun _ _ => keeps_pure rfl
  next =>
    refine keeps_peek.bind fun token _ => ?_
    split
    next =>
      split
      next =>
        refine keeps_next.bind fun _ _ => keeps_peek.bind fun token _ => ?_
        split
        next =>
          split
          next =>
            exact keeps_next.bind fun _ _ =>
              (agrees_octalEscape _).keeps.bind fun _ _ => keeps_pure rfl
          next => exact hreference _ _
        next => exact hreference _ _
      next => exact hreference _ _
    next => exact hreference _ _

theorem keeps_escapeOutside (c : Char) : Keeps (escapeOutside c) fun n => isShareable n := by
  unfold escapeOutside
  split
  next => exact keeps_pure rfl
  next =>
    split
    next => exact keeps_pure rfl
    next =>
      split
      next => exact keeps_pure rfl
      next =>
        split
        next => exact keeps_digitEscape c
        next => exact (agrees_commonEscape c).keeps.bind fun _ _ => keeps_pure rfl

theorem keeps_characterClass (start : Nat) : Keeps (characterClass start) fun n => isShareable n :=
  (agrees_accept (by decide)).keeps.bind fun _ _ => keeps_remaining.bind fun _ _ =>
    (agrees_classItems start start (Nat.le_refl _) []).keeps.bind fun _ _ => keeps_pure rfl

/-! ### Flags -/

private theorem union_ne {f g : Flags} (h : f ≠ {} ∨ g ≠ {}) : f.union g ≠ {} := by
  intro hunion
  obtain ⟨a, b, c, d, e, u, v⟩ := f
  obtain ⟨a', b', c', d', e', u', v'⟩ := g
  simp only [Flags.union, Flags.mk.injEq, Bool.or_eq_false_iff] at hunion
  simp_all

private theorem ofLetter?_ne {letter : Char} {flags : Flags}
    (h : Flags.ofLetter? letter = some flags) : flags ≠ {} := by
  unfold Flags.ofLetter? at h
  split at h <;> simp_all
  all_goals
    subst h
    decide

theorem keeps_flagLetters {ends : List Char} {missing : Fault} {check : Char → Flags → Reader Unit}
    (hcheck : ∀ letter flags, Keeps (check letter flags) fun _ => letter ≠ 'L') (fuel : Nat)
    {letter : Char} (hletter : isFlagLetter letter) (flags : Flags) :
    Keeps (flagLetters ends missing check fuel letter flags) fun result => result.2 ≠ {} := by
  induction fuel generalizing letter flags with
  | zero => exact (fails_throw _).keeps
  | succ fuel ih =>
      refine (hcheck letter flags).bind fun _ hlocale => ?_
      obtain ⟨own, hown⟩ : ∃ own, Flags.ofLetter? letter = some own := by
        simpa [isFlagLetter, hlocale, Option.isSome_iff_exists] using hletter
      have hne : flags.union ((Flags.ofLetter? letter).getD {}) ≠ {} := by
        rw [hown, Option.getD_some]
        exact union_ne (.inr (ofLetter?_ne hown))
      refine keeps_next.bind fun token _ => ?_
      split
      next => exact (fails_fail _ _).keeps
      next c =>
        split
        next => exact keeps_pure hne
        next =>
          split
          next hflag => exact ih hflag _
          next => exact (fails_fail _ _).keeps
      next => exact (fails_fail _ _).keeps

theorem keeps_checkTurnedOn (letter : Char) (flags : Flags) :
    Keeps (checkTurnedOn letter flags) fun _ => letter ≠ 'L' := by
  unfold checkTurnedOn
  dsimp only
  split
  next => exact ((fails_fail _ _).bind _).keeps
  next hlocale =>
    split
    next => exact (fails_fail _ _).keeps
    next => exact keeps_pure (by simpa using hlocale)

theorem keeps_checkTurnedOff (letter : Char) (flags : Flags) :
    Keeps (checkTurnedOff letter flags) fun _ => letter ≠ 'L' := by
  unfold checkTurnedOff
  split
  next => exact (fails_fail _ _).keeps
  next h => exact keeps_pure (by simp_all)

def FlagChange.IsProper : FlagChange → Prop
  | .overall => False
  | .local on off => on ≠ {} ∨ off ≠ {}

theorem keeps_turnOff (on : Flags) : Keeps (turnOff on) FlagChange.IsProper := by
  refine keeps_next.bind fun token _ => ?_
  split
  next => exact (fails_fail _ _).keeps
  next =>
    split
    next letter head hletter =>
      have hflag : isFlagLetter letter := by
        have hmem : letter ∈ List.filter isFlagLetter [head] := by simp [hletter]
        exact (List.mem_filter.mp hmem).2
      refine keeps_remaining.bind fun n _ => ?_
      refine (keeps_flagLetters keeps_checkTurnedOff _ hflag _).bind fun result hresult => ?_
      dsimp only
      split
      next => exact ((fails_fail _ _).bind _).keeps
      next =>
        split
        next => exact ((fails_fail _ _).bind _).keeps
        next => exact keeps_pure (.inr hresult)
    next => exact (fails_fail _ _).keeps

/-! ### Names -/

theorem keeps_skipLine (fuel : Nat) : Keeps (skipLine fuel) fun _ => True := by
  induction fuel with
  | zero => exact (fails_throw _).keeps
  | succ fuel ih =>
      refine keeps_next.bind fun token _ => ?_
      split
      next => exact keeps_pure trivial
      next =>
        split
        next => exact keeps_pure trivial
        next => exact ih

theorem keeps_checkGroupName (name : List Char) : Keeps (checkGroupName name) fun _ => True := by
  unfold checkGroupName
  split
  next => exact (fails_fail _ _).keeps
  next => exact keeps_pure trivial

theorem keeps_namedBackreference :
    Keeps namedBackreference fun n => ∃ group, n = .backreference group := by
  refine (agrees_nameUntil _ _).keeps.bind fun name _ => ?_
  refine (keeps_checkGroupName name).bind fun _ _ => keeps_get_bind fun s => ?_
  split
  next => exact (fails_fail _ _).keeps
  next =>
    dsimp only
    split
    next => exact ((fails_fail _ _).bind _).keeps
    next => exact (keeps_checkLookBehind _).bind fun _ _ => keeps_pure ⟨_, rfl⟩

theorem keeps_conditionGroup : Keeps conditionGroup fun _ => True := by
  refine (agrees_nameUntil _ _).keeps.bind fun name _ => ?_
  dsimp only
  split
  next =>
    refine keeps_get_bind fun s => ?_
    split
    next => exact (fails_fail _ _).keeps
    next => exact (keeps_checkLookBehind _).bind fun _ _ => keeps_pure trivial
  next =>
    split
    next =>
      split
      next => exact ((fails_fail _ _).bind _).keeps
      next =>
        split
        next => exact ((fails_fail _ _).bind _).keeps
        next =>
          refine keeps_index.bind fun _ _ => ?_
          refine (keeps_modify fun s => ?_).bind fun _ _ => ?_
          · split <;> exact ⟨rfl, rfl, rfl⟩
          · exact (keeps_checkLookBehind _).bind fun _ _ => keeps_pure trivial
    next => exact (fails_fail _ _).keeps

/-! ## Openings of groups -/

namespace Opening

def IsPlain : Opening → Prop
  | .capture none | .comment => True
  | .flagged on off => on = {} ∧ off = {}
  | _ => False

/-- A part that is done already is not plain, and flags have been left behind if there were any. -/
def IsProper (last : Source) : Opening → Prop
  | .done part => ∃ node ∈ part.nodes, node.isPlain = false
  | .overallFlags => ¬ last.IsBare
  | _ => True

end Opening

theorem keeps_openingAfterP :
    Keeps openingAfterP fun opened => ¬ opened.IsPlain ∧ ∀ last, opened.IsProper last := by
  refine (agrees_accept (by decide)).keeps.bind fun named _ => ?_
  split
  next =>
    refine (agrees_nameUntil _ _).keeps.bind fun name _ => ?_
    exact (keeps_checkGroupName name).bind fun _ _ => keeps_pure ⟨id, fun _ => trivial⟩
  next =>
    refine (agrees_accept (by decide)).keeps.bind fun refers _ => ?_
    split
    next =>
      refine keeps_namedBackreference.bind fun node ⟨group, hnode⟩ => keeps_pure ⟨id, fun _ => ?_⟩
      exact ⟨node, by simp [Part.nodes], by rw [hnode]; rfl⟩
    next =>
      refine keeps_next.bind fun token _ => ?_
      split
      next => exact (fails_fail _ _).keeps
      next => exact (fails_fail _ _).keeps

theorem keeps_openingAfterLess :
    Keeps openingAfterLess fun opened => ∃ negated, opened = .lookBehind negated := by
  refine keeps_next.bind fun token _ => ?_
  split
  next => exact (fails_fail _ _).keeps
  next =>
    split
    next => exact keeps_pure ⟨_, rfl⟩
    next =>
      split
      next => exact keeps_pure ⟨_, rfl⟩
      next => exact (fails_fail _ _).keeps

/-! ## Progress -/

/-- Reading has gone on: what flags and names there were are still there. -/
structure Advances (s last : Source) : Prop where
  backslash : last.rest ≠ ['\\']
  bare : last.IsBare → s.IsBare

theorem Advances.trans {s middle last : Source} (h : Advances s middle) (h' : Advances middle last) :
    Advances s last where
  backslash := h'.backslash
  bare := fun hlast => h.bare (h'.bare hlast)

theorem Keeps.advances {m : Reader α} {known : α → Prop} (h : Keeps m known) {s last : Source}
    {x : α} (hs : s.rest ≠ ['\\']) (hrun : m.run s = .ok (x, last)) : Advances s last := by
  obtain ⟨hlast, -⟩ := h s x last hs hrun
  exact ⟨hlast.backslash, fun hbare => ⟨hlast.flags ▸ hbare.1, hlast.names ▸ hbare.2⟩⟩

theorem Advances.of_keeps {s middle last : Source} (h : Advances s middle) {m : Reader α}
    {known : α → Prop} (hm : Keeps m known) {x : α} (hrun : m.run middle = .ok (x, last)) :
    Advances s last ∧ known x :=
  ⟨h.trans (hm.advances h.backslash hrun), (hm middle x last h.backslash hrun).2⟩

theorem advances_flagChange {letter : Char} (hletter : letter = '-' ∨ isFlagLetter letter)
    {s last : Source} {change : FlagChange} (hs : s.rest ≠ ['\\'])
    (hrun : (flagChange letter).run s = .ok (change, last)) :
    Advances s last ∧ (last.IsBare → change.IsProper) := by
  unfold flagChange at hrun
  split at hrun
  next =>
    obtain ⟨-, hproper⟩ := keeps_turnOff {} s change last hs hrun
    exact ⟨(keeps_turnOff {}).advances hs hrun, fun _ => hproper⟩
  next hne =>
    have hflag : isFlagLetter letter := hletter.resolve_left (by simpa using hne)
    obtain ⟨n, middle, hremaining, hrun⟩ := run_bind_eq_ok hrun
    cases hremaining
    obtain ⟨⟨finish, on⟩, middle, hletters, hrun⟩ := run_bind_eq_ok hrun
    have hkeeps : Keeps (flagLetters [')', '-', ':'] .missingFlagEnd checkTurnedOn
        (s.rest.length + 1) letter {}) fun result => result.2 ≠ {} :=
      keeps_flagLetters keeps_checkTurnedOn _ hflag {}
    obtain ⟨⟨hmiddle, -, -, -⟩, hon⟩ := hkeeps s _ middle hs hletters
    have hadvances := hkeeps.advances hs hletters
    dsimp only at hrun hon
    split at hrun
    next =>
      obtain ⟨x, last', hmodify, hpure⟩ := run_bind_eq_ok hrun
      cases hmodify
      cases hpure
      refine ⟨⟨hmiddle, fun hbare => absurd hbare.1 (union_ne (.inr hon))⟩, fun hbare => ?_⟩
      exact absurd hbare.1 (union_ne (.inr hon))
    next =>
      split at hrun
      next => exact absurd hrun (fails_fail _ _ _ _ _)
      next =>
        split at hrun
        next =>
          obtain ⟨-, hproper⟩ := keeps_turnOff on middle change last hmiddle hrun
          exact ⟨hadvances.trans ((keeps_turnOff on).advances hmiddle hrun), fun _ => hproper⟩
        next =>
          obtain ⟨rfl, rfl⟩ := run_pure_eq_ok hrun
          exact ⟨hadvances, fun _ => .inl hon⟩

theorem advances_opening {start : Nat} {s last : Source} {opened : Opening} (hs : s.rest ≠ ['\\'])
    (hrun : (opening start).run s = .ok (opened, last)) :
    Advances s last ∧ opened.IsProper last := by
  have hkeeps {m : Reader Opening} (known : Opening → Prop) {s : Source} (hs : s.rest ≠ ['\\'])
      (hm : Keeps m known) (hproper : ∀ opened, known opened → opened.IsProper last)
      (hrun : m.run s = .ok (opened, last)) : Advances s last ∧ opened.IsProper last :=
    ⟨hm.advances hs hrun, hproper opened (hm s opened last hs hrun).2⟩
  unfold opening at hrun
  obtain ⟨marked, middle, haccept, hrun⟩ := run_bind_eq_ok hrun
  have hfirst := (agrees_accept (by decide)).keeps.advances hs haccept
  have hmiddle := hfirst.backslash
  split at hrun
  next =>
    obtain ⟨rfl, rfl⟩ := run_pure_eq_ok hrun
    exact ⟨hfirst, trivial⟩
  next =>
    obtain ⟨token, after, hnext, hrun⟩ := run_bind_eq_ok hrun
    have hsecond := keeps_next.advances hmiddle hnext
    have hafter := hsecond.backslash
    suffices h : Advances after last ∧ opened.IsProper last from
      ⟨(hfirst.trans hsecond).trans h.1, h.2⟩
    have hpure {x : Opening} (hrun : (pure x : Reader Opening).run after = .ok (opened, last))
        (hx : x.IsProper last) : Advances after last ∧ opened.IsProper last :=
      hkeeps (Opening.IsProper last) hafter (keeps_pure hx) (fun _ => id) hrun
    split at hrun
    next => exact absurd hrun (fails_fail _ _ _ _ _)
    next token =>
      split at hrun
      next => exact hkeeps _ hafter keeps_openingAfterP (fun _ h => h.2 last) hrun
      next => exact hpure hrun trivial
      next =>
        refine hkeeps (Opening.IsProper last) hafter ?_ (fun _ => id) hrun
        exact keeps_remaining.bind fun _ _ =>
          (agrees_skipComment start start (Nat.le_refl _)).keeps.bind fun _ _ => keeps_pure trivial
      next => exact hpure hrun trivial
      next => exact hpure hrun trivial
      next => exact hkeeps _ hafter keeps_openingAfterLess (fun _ ⟨_, h⟩ => h ▸ trivial) hrun
      next =>
        refine hkeeps (Opening.IsProper last) hafter ?_ (fun _ => id) hrun
        exact keeps_conditionGroup.bind fun _ _ => keeps_pure trivial
      next => exact hpure hrun trivial
      next c _ _ _ _ _ _ _ _ =>
        split at hrun
        next hflag =>
          obtain ⟨change, end', hchange, hrun⟩ := run_bind_eq_ok hrun
          obtain ⟨hadvances, hproper⟩ := advances_flagChange (by simpa using hflag) hafter hchange
          split at hrun
          next =>
            obtain ⟨rfl, rfl⟩ := run_pure_eq_ok hrun
            exact ⟨hadvances, hproper⟩
          next =>
            obtain ⟨rfl, rfl⟩ := run_pure_eq_ok hrun
            exact ⟨hadvances, trivial⟩
        next => exact absurd hrun (fails_fail _ _ _ _ _)
      next => exact absurd hrun (fails_fail _ _ _ _ _)

/-! ## Sequences and alternatives -/

def IsPlainSequence (nodes : List Node) : Prop := ∀ n ∈ nodes, n.isPlain

theorem isPlain_ofList {nodes : List Node} : (Node.ofList nodes).isPlain ↔ IsPlainSequence nodes := by
  induction nodes with
  | nil => simp [Node.ofList, Node.isPlain, IsPlainSequence]
  | cons n rest ih =>
      cases rest with
      | nil => simp [Node.ofList, IsPlainSequence]
      | cons m rest => simp [Node.ofList, Node.isPlain, ih, IsPlainSequence]

theorem isPlain_node {part : Part} : part.node.isPlain ↔ IsPlainSequence part.nodes := by
  cases part with
  | one n => simp [Part.node, Part.nodes, IsPlainSequence]
  | plain nodes => exact isPlain_ofList

def nodesOf (parts : List Part) : List Node := (parts.reverse.map Part.nodes).flatten

theorem nodesOf_cons (part : Part) (parts : List Part) :
    nodesOf (part :: parts) = nodesOf parts ++ part.nodes := by
  simp [nodesOf]

theorem isPlainSequence_append {first second : List Node} :
    IsPlainSequence (first ++ second) ↔ IsPlainSequence first ∧ IsPlainSequence second :=
  List.forall_mem_append

theorem isPlainSequence_of_cons {part : Part} {parts : List Part}
    (h : IsPlainSequence (nodesOf (part :: parts))) : IsPlainSequence (nodesOf parts) := by
  rw [nodesOf_cons, isPlainSequence_append] at h
  exact h.1

theorem keeps_repeatLast (here least : Nat) (most : Option Nat) (parts : List Part) :
    Keeps (repeatLast here least most parts) fun repeated =>
      IsPlainSequence (nodesOf repeated) → IsPlainSequence (nodesOf parts) := by
  cases parts with
  | nil => exact (fails_bind _ fun _ => fails_fail _ _).keeps
  | cons part rest =>
      have hloop : Keeps (greed >>= fun g => pure (.one (.loop g least most part.node) :: rest))
          fun repeated => IsPlainSequence (nodesOf repeated) →
            IsPlainSequence (nodesOf (part :: rest)) := by
        refine agrees_greed.keeps.bind fun g _ => keeps_pure fun h => ?_
        rw [nodesOf_cons, isPlainSequence_append] at h ⊢
        have hbody : (Node.loop g least most part.node).isPlain := h.2 _ (by simp [Part.nodes])
        rw [Node.isPlain, Bool.and_eq_true] at hbody
        exact ⟨h.1, isPlain_node.mp hbody.2⟩
      cases part with
      | plain nodes => exact hloop
      | one node =>
          unfold repeatLast
          dsimp only
          split
          next => exact (fails_bind _ fun _ => (fails_fail _ _).bind _).keeps
          next =>
            split
            next => exact (fails_bind _ fun _ => (fails_fail _ _).bind _).keeps
            next => exact hloop

theorem advances_openGroup {name : Option (List Char)} {s last : Source} {index : Nat}
    (hs : s.rest ≠ ['\\']) (hrun : (openGroup name).run s = .ok (index, last)) :
    Advances s last ∧ (last.IsBare → name = none) := by
  cases name with
  | none =>
      cases hrun
      exact ⟨⟨hs, id⟩, fun _ => rfl⟩
  | some name =>
      unfold openGroup at hrun
      obtain ⟨seen, _, hget, hrun⟩ := run_bind_eq_ok hrun
      cases hget
      dsimp only at hrun
      split at hrun
      next => exact absurd hrun ((fails_fail _ _).bind _ _ _ _)
      next =>
        cases hrun
        have hnamed {last : Source} (h : last.names ≠ []) : ¬ last.IsBare := fun hbare => h hbare.2
        exact ⟨⟨hs, fun hbare => absurd hbare (hnamed (by simp))⟩,
          fun hbare => absurd hbare (hnamed (by simp))⟩

theorem keeps_one {n : Node} (hn : n.isPlain = false) :
    Keeps (pure (Part.one n)) fun part => ¬ IsPlainSequence part.nodes :=
  keeps_pure fun h => by simpa [hn] using h n (List.mem_singleton_self n)

theorem keeps_closed {start : Nat} {finish : Unit → Reader Part} {known : Part → Prop}
    (h : ∀ x, Keeps (finish x) known) : Keeps (closeParenthesis start >>= finish) known :=
  (agrees_closeParenthesis start start).keeps.bind fun x _ => h x

/-- What the readers of sequences and alternatives do with so much fuel. -/
structure Progresses (fuel : Nat) : Prop where
  alternatives : ∀ verbose outermost s nodes last, s.rest ≠ ['\\'] →
    (alternatives fuel verbose outermost).run s = .ok (nodes, last) → Advances s last
  moreBranches : ∀ verbose outermost branches s result last, s.rest ≠ ['\\'] →
    (moreBranches fuel verbose outermost branches).run s = .ok (result, last) →
      Advances s last ∧ ∀ branch ∈ branches, branch ∈ result
  sequence : ∀ verbose first parts s nodes last, s.rest ≠ ['\\'] →
    (sequence fuel verbose first parts).run s = .ok (nodes, last) →
      Advances s last ∧ (IsPlainSequence nodes → IsPlainSequence (nodesOf parts))
  group : ∀ verbose start opened s part last, s.rest ≠ ['\\'] →
    (group fuel verbose start opened).run s = .ok (part, last) →
      Advances s last ∧ (opened.IsProper last → last.IsBare → IsPlainSequence part.nodes →
        opened.IsPlain)

section

variable {fuel : Nat} (ih : Progresses fuel)

include ih

theorem Progresses.alternatives_succ (verbose outermost : Bool) (s : Source) (nodes : List Node)
    (last : Source) (hs : s.rest ≠ ['\\'])
    (hrun : (Reader.alternatives (fuel + 1) verbose outermost).run s = .ok (nodes, last)) :
    Advances s last := by
  rw [Reader.alternatives] at hrun
  obtain ⟨first, middle, hfirst, hrun⟩ := run_bind_eq_ok hrun
  obtain ⟨result, after, hmore, hrun⟩ := run_bind_eq_ok hrun
  obtain ⟨rfl, rfl⟩ := run_pure_eq_ok hrun
  have hadvances := (ih.sequence _ _ _ _ _ _ hs hfirst).1
  exact hadvances.trans (ih.moreBranches _ _ _ _ _ _ hadvances.backslash hmore).1

theorem Progresses.moreBranches_succ (verbose outermost : Bool) (branches : List (List Node))
    (s : Source) (result : List (List Node)) (last : Source) (hs : s.rest ≠ ['\\'])
    (hrun : (Reader.moreBranches (fuel + 1) verbose outermost branches).run s = .ok (result, last)) :
    Advances s last ∧ ∀ branch ∈ branches, branch ∈ result := by
  rw [Reader.moreBranches] at hrun
  obtain ⟨more, middle, haccept, hrun⟩ := run_bind_eq_ok hrun
  have hfirst := (agrees_accept (by decide)).keeps.advances hs haccept
  split at hrun
  next =>
    obtain ⟨seen, after, hget, hrun⟩ := run_bind_eq_ok hrun
    cases hget
    obtain ⟨branch, after, hbranch, hrun⟩ := run_bind_eq_ok hrun
    have hsecond := (ih.sequence _ _ _ _ _ _ hfirst.backslash hbranch).1
    obtain ⟨hthird, hresult⟩ := ih.moreBranches _ _ _ _ _ _ hsecond.backslash hrun
    exact ⟨(hfirst.trans hsecond).trans hthird,
      fun other hother => hresult other (List.mem_append_left _ hother)⟩
  next =>
    obtain ⟨rfl, rfl⟩ := run_pure_eq_ok hrun
    exact ⟨hfirst, fun _ => id⟩

theorem Progresses.sequence_after {verbose first : Bool} {parts more : List Part}
    {s middle last : Source} {nodes : List Node} (hmiddle : Advances s middle)
    (hmore : IsPlainSequence (nodesOf more) → IsPlainSequence (nodesOf parts))
    (hrun : (Reader.sequence fuel verbose first more).run middle = .ok (nodes, last)) :
    Advances s last ∧ (IsPlainSequence nodes → IsPlainSequence (nodesOf parts)) := by
  obtain ⟨hadvances, hplain⟩ := ih.sequence _ _ _ _ _ _ hmiddle.backslash hrun
  exact ⟨hmiddle.trans hadvances, fun hnodes => hmore (hplain hnodes)⟩

theorem Progresses.parenthesis (verbose first : Bool) (parts : List Part) (s : Source)
    (nodes : List Node) (last : Source) (hs : s.rest ≠ ['\\'])
    (hrun : StateT.run (do
      let start := (← index) - 1
      match ← opening start with
      | .comment => Reader.sequence fuel verbose first parts
      | .overallFlags =>
        if !first || !parts.isEmpty then fail .lateFlags ((← index) - start)
        let s ← get
        Reader.sequence fuel s.flags.verbose first parts
      | .done part => Reader.sequence fuel verbose first (part :: parts)
      | other =>
        let part ← Reader.group fuel verbose start other
        Reader.sequence fuel verbose first (part :: parts)) s = .ok (nodes, last)) :
    Advances s last ∧ (IsPlainSequence nodes → IsPlainSequence (nodesOf parts)) := by
  obtain ⟨i, _, hindex, hrun⟩ := run_bind_eq_ok hrun
  cases hindex
  obtain ⟨opened, after, hopening, hrun⟩ := run_bind_eq_ok hrun
  have hafter := (advances_opening hs hopening).1
  cases opened with
  | comment => exact ih.sequence_after hafter id hrun
  | overallFlags =>
      dsimp only at hrun
      split at hrun
      next => exact absurd hrun (fails_bind _ (fun _ => (fails_fail _ _).bind _) _ _ _)
      next =>
        obtain ⟨seen, _, hget, hrun⟩ := run_bind_eq_ok hrun
        cases hget
        exact ih.sequence_after hafter id hrun
  | done part => exact ih.sequence_after hafter isPlainSequence_of_cons hrun
  | capture _ | flagged _ _ | atomic | look _ | lookBehind _ | condition _ =>
      obtain ⟨part, end', hgroup, hrun⟩ := run_bind_eq_ok hrun
      have hend := hafter.trans (ih.group _ _ _ _ _ _ hafter.backslash hgroup).1
      exact ih.sequence_after hend isPlainSequence_of_cons hrun

theorem Progresses.repetition (verbose first : Bool) (parts : List Part) (mark : Char) (s : Source)
    (nodes : List Node) (last : Source) (hs : s.rest ≠ ['\\'])
    (hrun : StateT.run (do
      let here ← index
      match ← bounds? mark with
      | none => Reader.sequence fuel verbose first (.one (.literal mark.toNat) :: parts)
      | some (least, most) =>
        Reader.sequence fuel verbose first (← repeatLast here least most parts)) s =
          .ok (nodes, last)) :
    Advances s last ∧ (IsPlainSequence nodes → IsPlainSequence (nodesOf parts)) := by
  obtain ⟨here, _, hindex, hrun⟩ := run_bind_eq_ok hrun
  cases hindex
  obtain ⟨bounds, after, hbounds, hrun⟩ := run_bind_eq_ok hrun
  have hafter := (agrees_bounds? mark).keeps.advances hs hbounds
  cases bounds with
  | none => exact ih.sequence_after hafter isPlainSequence_of_cons hrun
  | some bounds =>
      obtain ⟨repeated, end', hrepeat, hrun⟩ := run_bind_eq_ok hrun
      obtain ⟨hend, hrepeated⟩ := hafter.of_keeps (keeps_repeatLast _ _ _ _) hrepeat
      exact ih.sequence_after hend hrepeated hrun

theorem Progresses.sequence_succ (verbose first : Bool) (parts : List Part) (s : Source)
    (nodes : List Node) (last : Source) (hs : s.rest ≠ ['\\'])
    (hrun : (Reader.sequence (fuel + 1) verbose first parts).run s = .ok (nodes, last)) :
    Advances s last ∧ (IsPlainSequence nodes → IsPlainSequence (nodesOf parts)) := by
  have hstop {middle : Source} (hmiddle : Advances s middle)
      (hrun : (pure (nodesOf parts) : Reader (List Node)).run middle = .ok (nodes, last)) :
      Advances s last ∧ (IsPlainSequence nodes → IsPlainSequence (nodesOf parts)) := by
    obtain ⟨rfl, rfl⟩ := run_pure_eq_ok hrun
    exact ⟨hmiddle, id⟩
  rw [Reader.sequence] at hrun
  obtain ⟨token, middle, hpeek, hrun⟩ := run_bind_eq_ok hrun
  have hpeeked := keeps_peek.advances hs hpeek
  dsimp only at hrun
  split at hrun
  next => exact hstop hpeeked hrun
  next token =>
    split at hrun
    next => exact hstop hpeeked hrun
    next =>
      obtain ⟨_, after, hnext, hrun⟩ := run_bind_eq_ok hrun
      have hafter := hpeeked.trans (keeps_next.advances hpeeked.backslash hnext)
      have hwhole
          (h : Advances after last ∧ (IsPlainSequence nodes → IsPlainSequence (nodesOf parts))) :
          Advances s last ∧ (IsPlainSequence nodes → IsPlainSequence (nodesOf parts)) :=
        ⟨hafter.trans h.1, h.2⟩
      split at hrun
      next => exact ih.sequence_after hafter id hrun
      next =>
        split at hrun
        next =>
          obtain ⟨n, end', hremaining, hrun⟩ := run_bind_eq_ok hrun
          cases hremaining
          obtain ⟨_, end', hline, hrun⟩ := run_bind_eq_ok hrun
          exact ih.sequence_after (hafter.of_keeps (keeps_skipLine _) hline).1 id hrun
        next =>
          cases hitem : Item.ofToken token with
          | escape c =>
              simp only [hitem] at hrun
              obtain ⟨node, end', hnode, hrun⟩ := run_bind_eq_ok hrun
              have hend := (hafter.of_keeps (keeps_escapeOutside c) hnode).1
              exact ih.sequence_after hend isPlainSequence_of_cons hrun
          | characterClass =>
              simp only [hitem] at hrun
              obtain ⟨i, end', hindex, hrun⟩ := run_bind_eq_ok hrun
              cases hindex
              obtain ⟨node, end', hnode, hrun⟩ := run_bind_eq_ok hrun
              have hend := (hafter.of_keeps (keeps_characterClass _) hnode).1
              exact ih.sequence_after hend isPlainSequence_of_cons hrun
          | parenthesis =>
              simp only [hitem] at hrun
              exact hwhole (ih.parenthesis verbose first parts after nodes last hafter.backslash hrun)
          | repetition mark =>
              simp only [hitem] at hrun
              exact hwhole
                (ih.repetition verbose first parts mark after nodes last hafter.backslash hrun)
          | node n =>
              simp only [hitem] at hrun
              exact ih.sequence_after hafter isPlainSequence_of_cons hrun
          | nothing =>
              simp only [hitem] at hrun
              exact ih.sequence_after hafter id hrun

theorem Progresses.lookBehind_succ (verbose : Bool) (start : Nat) (negated : Bool) (s : Source)
    (part : Part) (last : Source) (hs : s.rest ≠ ['\\'])
    (hrun : (Reader.group (fuel + 1) verbose start (.lookBehind negated)).run s = .ok (part, last)) :
    Advances s last ∧ ¬ IsPlainSequence part.nodes := by
  rw [Reader.group.eq_def] at hrun
  obtain ⟨seen, _, hget, hrun⟩ := run_bind_eq_ok hrun
  cases hget
  dsimp only at hrun
  split at hrun
  next =>
    obtain ⟨_, _, hmark, hrun⟩ := run_bind_eq_ok hrun
    cases hmark
    obtain ⟨nodes, after, hbody, hrun⟩ := run_bind_eq_ok hrun
    have hmarked : Advances s { s with outsideLookBehind := some s.groupCount } := ⟨hs, id⟩
    have hafter := hmarked.trans (ih.alternatives _ _ _ _ _ hmarked.backslash hbody)
    obtain ⟨_, _, hunmark, hrun⟩ := run_bind_eq_ok hrun
    cases hunmark
    have hunmarked : Advances s { after with outsideLookBehind := none } :=
      hafter.trans ⟨hafter.backslash, id⟩
    exact hunmarked.of_keeps (keeps_closed fun _ => keeps_get_bind fun _ => keeps_one rfl) hrun
  next =>
    obtain ⟨nodes, after, hbody, hrun⟩ := run_bind_eq_ok hrun
    have hafter := ih.alternatives _ _ _ _ _ hs hbody
    exact hafter.of_keeps (keeps_closed fun _ => keeps_get_bind fun _ => keeps_one rfl) hrun

theorem Progresses.condition_succ (verbose : Bool) (start group : Nat) (s : Source) (part : Part)
    (last : Source) (hs : s.rest ≠ ['\\'])
    (hrun : (Reader.group (fuel + 1) verbose start (.condition group)).run s = .ok (part, last)) :
    Advances s last ∧ ¬ IsPlainSequence part.nodes := by
  have hfinish (absent present : Node) :
      Keeps (pure absent >>= fun absent => closeParenthesis start >>= fun _ =>
        pure (Part.one (.conditional group present absent))) fun part =>
          ¬ IsPlainSequence part.nodes := by
    have hpure : Keeps (pure absent) fun _ => True := keeps_pure trivial
    exact hpure.bind fun _ _ => keeps_closed fun _ => keeps_one rfl
  rw [Reader.group.eq_def] at hrun
  obtain ⟨present, after, hpresent, hrun⟩ := run_bind_eq_ok hrun
  have hafter := (ih.sequence _ _ _ _ _ _ hs hpresent).1
  obtain ⟨more, end', haccept, hrun⟩ := run_bind_eq_ok hrun
  have hend := hafter.trans ((agrees_accept (by decide)).keeps.advances hafter.backslash haccept)
  dsimp only at hrun
  split at hrun
  next =>
    obtain ⟨nodes, after', habsent, hrun⟩ := run_bind_eq_ok hrun
    have hafter' := hend.trans (ih.sequence _ _ _ _ _ _ hend.backslash habsent).1
    obtain ⟨token, _, hpeek, hrun⟩ := run_bind_eq_ok hrun
    have hpeeked := hafter'.trans (keeps_peek.advances hafter'.backslash hpeek)
    split at hrun
    next => exact absurd hrun ((fails_fail _ _).bind _ _ _ _)
    next => exact hpeeked.of_keeps (hfinish _ _) hrun
  next => exact hend.of_keeps (hfinish _ _) hrun

theorem Progresses.group_succ (verbose : Bool) (start : Nat) (opened : Opening) (s : Source)
    (part : Part) (last : Source) (hs : s.rest ≠ ['\\'])
    (hrun : (Reader.group (fuel + 1) verbose start opened).run s = .ok (part, last)) :
    Advances s last ∧ (opened.IsProper last → last.IsBare → IsPlainSequence part.nodes →
      opened.IsPlain) := by
  have hnever (h : Advances s last ∧ ¬ IsPlainSequence part.nodes) :
      Advances s last ∧ (opened.IsProper last → last.IsBare → IsPlainSequence part.nodes →
        opened.IsPlain) :=
    ⟨h.1, fun _ _ hplain => absurd hplain h.2⟩
  cases opened with
  | capture name =>
      rw [Reader.group.eq_def] at hrun
      obtain ⟨index, middle, hopen, hrun⟩ := run_bind_eq_ok hrun
      obtain ⟨hmiddle, hunnamed⟩ := advances_openGroup hs hopen
      obtain ⟨body, after, hbody, hrun⟩ := run_bind_eq_ok hrun
      have hafter := ih.alternatives _ _ _ _ _ hmiddle.backslash hbody
      obtain ⟨_, end', hparen, hrun⟩ := run_bind_eq_ok hrun
      have hend := hafter.trans
        ((agrees_closeParenthesis start start).keeps.advances hafter.backslash hparen)
      obtain ⟨_, last', hwidth, hrun⟩ := run_bind_eq_ok hrun
      cases hwidth
      obtain ⟨rfl, rfl⟩ := run_pure_eq_ok hrun
      refine ⟨(hmiddle.trans hend).trans ⟨hend.backslash, id⟩, fun _ hbare _ => ?_⟩
      rw [hunnamed (hend.bare hbare)]
      trivial
  | flagged on off =>
      rw [Reader.group.eq_def] at hrun
      obtain ⟨body, after, hbody, hrun⟩ := run_bind_eq_ok hrun
      have hafter := ih.alternatives _ _ _ _ _ hs hbody
      obtain ⟨_, end', hparen, hrun⟩ := run_bind_eq_ok hrun
      have hend := hafter.trans
        ((agrees_closeParenthesis start start).keeps.advances hafter.backslash hparen)
      split at hrun
      next hunchanged =>
        obtain ⟨rfl, rfl⟩ := run_pure_eq_ok hrun
        exact ⟨hend, fun _ _ _ => by simpa [Opening.IsPlain] using hunchanged⟩
      next => exact hnever (hend.of_keeps (keeps_one rfl) hrun)
  | atomic | look negated =>
      rw [Reader.group.eq_def] at hrun
      obtain ⟨body, after, hbody, hrun⟩ := run_bind_eq_ok hrun
      have hafter := ih.alternatives _ _ _ _ _ hs hbody
      exact hnever (hafter.of_keeps (keeps_closed fun _ => keeps_one rfl) hrun)
  | lookBehind negated => exact hnever (ih.lookBehind_succ verbose start negated s part last hs hrun)
  | condition group => exact hnever (ih.condition_succ verbose start group s part last hs hrun)
  | done part =>
      rw [Reader.group.eq_def] at hrun
      obtain ⟨rfl, rfl⟩ := run_pure_eq_ok hrun
      refine ⟨⟨hs, id⟩, fun hproper _ h => ?_⟩
      obtain ⟨n, hn, hfalse⟩ := hproper
      simp [h n hn] at hfalse
  | comment =>
      rw [Reader.group.eq_def] at hrun
      obtain ⟨rfl, rfl⟩ := run_pure_eq_ok hrun
      exact ⟨⟨hs, id⟩, fun _ _ _ => trivial⟩
  | overallFlags =>
      rw [Reader.group.eq_def] at hrun
      obtain ⟨rfl, rfl⟩ := run_pure_eq_ok hrun
      exact ⟨⟨hs, id⟩, fun hproper hbare _ => hproper hbare⟩

end

theorem progresses (fuel : Nat) : Progresses fuel := by
  induction fuel with
  | zero =>
      constructor
      · intro verbose outermost s nodes last hs hrun
        exact absurd hrun (fails_throw _ _ _ _)
      · intro verbose outermost branches s result last hs hrun
        exact absurd hrun (fails_throw _ _ _ _)
      · intro verbose first parts s nodes last hs hrun
        exact absurd hrun (fails_throw _ _ _ _)
      · intro verbose start opened s part last hs hrun
        rw [Reader.group.eq_def] at hrun
        exact absurd hrun (fails_throw _ _ _ _)
  | succ fuel ih =>
      exact ⟨ih.alternatives_succ, ih.moreBranches_succ, ih.sequence_succ, ih.group_succ⟩

end Reader

end HttpRouting.Regex
