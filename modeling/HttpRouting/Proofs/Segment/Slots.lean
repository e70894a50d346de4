import HttpRouting.Proofs.Engine.Delimited
import HttpRouting.Proofs.Http.Splitting
import HttpRouting.Proofs.Template.Filling
import HttpRouting.Segment

/-!
# Slots of segments

A template made of segments is scanned segment by segment, and its canonical
form puts a slash behind each of them.  If no constraint has a word with a
slash, the slots of this form are delimited by slashes.
-/

namespace HttpRouting

open Engine (Slot)
open Engine.Slot (BeginWithSlash Delimited IsSlashFree)
open Template (Piece Token absorbMarks scan slots)
open Template.Compiler (typeOf)

/-! ## Scanning segments -/

namespace Template

theorem scan_append_of_token? {s : List Char} {t : Token} (h : token? s = some (t, []))
    (more : List Char) : scan (s ++ more) = .token t :: scan more := by
  obtain ⟨spelling, hspelled, rfl⟩ := token?_eq h
  rw [List.append_nil]
  exact scan_of_token? (token?_of_spelled hspelled more)

theorem scan_cons_of_ne {c : Char} (hc : c ≠ '{') (s : List Char) :
    scan (c :: s) = .literal c :: scan s := by
  refine scan_cons_of_token?_eq_none ?_
  unfold token?
  split
  next heq => exact absurd (List.head_eq_of_cons_eq heq) hc
  next => rfl

theorem scan_append_of_not_mem {s : List Char} (h : '{' ∉ s) (more : List Char) :
    scan (s ++ more) = s.map .literal ++ scan more := by
  induction s with
  | nil => rfl
  | cons c s ih =>
      simp only [List.mem_cons, not_or] at h
      rw [List.cons_append, scan_cons_of_ne (Ne.symm h.1), ih h.2]
      rfl

end Template

namespace Segment

def pieces : Segment → List Piece
  | literal text => text.map .literal
  | token t => [.token t]

def closed (segments : List Segment) : List Piece :=
  segments.flatMap fun segment => segment.pieces ++ [.literal '/']

theorem scan_of_ofText? {s : List Char} {segment : Segment} (h : ofText? s = some segment)
    (more : List Char) : scan (s ++ more) = segment.pieces ++ scan more := by
  unfold ofText? at h
  split at h
  next t htoken =>
    obtain rfl := Option.some.inj h
    exact Template.scan_append_of_token? htoken more
  next =>
    split at h
    next => simp at h
    next hplain =>
      obtain rfl := Option.some.inj h
      refine Template.scan_append_of_not_mem ?_ more
      simp only [Bool.or_eq_true, List.contains_iff_mem, not_or] at hplain
      exact hplain.2

theorem scan_of_splitOn {segments : List Segment} {s : List Char}
    (h : (Http.splitOn '/' s).mapM ofText? = some segments) :
    scan s ++ [.literal '/'] = closed segments := by
  induction segments generalizing s with
  | nil =>
      cases hsplit : Http.splitOn '/' s with
      | nil => exact absurd hsplit (Http.splitOn_ne_nil '/' s)
      | cons part parts =>
          rw [hsplit] at h
          simp [List.mapM_cons, Option.bind_eq_some_iff] at h
  | cons segment segments ih =>
      cases hsplit : Http.splitOn '/' s with
      | nil => exact absurd hsplit (Http.splitOn_ne_nil '/' s)
      | cons part parts =>
          rw [hsplit] at h
          simp only [List.mapM_cons, Option.bind_eq_bind, Option.bind_eq_some_iff, Option.pure_def,
            Option.some.injEq, List.cons.injEq] at h
          obtain ⟨own, hown, others, hothers, rfl, rfl⟩ := h
          rcases Http.splitOn_eq_cons hsplit with ⟨rfl, rfl⟩ | ⟨rest, rfl, rfl⟩
          · obtain rfl : others = [] := by simpa using hothers.symm
            have hscan := scan_of_ofText? hown []
            rw [List.append_nil, Template.scan_nil, List.append_nil] at hscan
            simp [closed, hscan]
          · rw [scan_of_ofText? hown, Template.scan_cons_of_ne (by decide), List.append_assoc,
              List.cons_append, ih hothers]
            simp [closed]

theorem canonicalPieces_of_segments {s : List Char} {segments : List Segment}
    (h : ofTemplate? s = some segments) : Template.canonicalPieces s = closed segments := by
  unfold ofTemplate? at h
  rw [Template.canonicalPieces]
  split
  next hempty =>
    rw [if_pos hempty, Option.some.injEq] at h
    rw [← h]
    rfl
  next hempty =>
    rw [if_neg hempty] at h
    exact scan_of_splitOn h

/-! ## Slots -/

theorem closed_literal (text : List Char) (segments : List Segment) :
    closed (.literal text :: segments) = text.map .literal ++ .literal '/' :: closed segments := by
  simp [closed, pieces]

theorem closed_token (t : Token) (segments : List Segment) :
    closed (.token t :: segments) = .token t :: .literal '/' :: closed segments := by
  simp [closed, pieces]

theorem absorbMarks_closed (segments : List Segment) :
    absorbMarks (closed segments) = closed segments := by
  have hliterals (text : List Char) (rest : List Piece) :
      absorbMarks (text.map .literal ++ rest) = text.map .literal ++ absorbMarks rest := by
    induction text with
    | nil => rfl
    | cons c text ih => rw [List.map_cons, List.cons_append, Template.absorbMarks_literal, ih]; rfl
  induction segments with
  | nil => rfl
  | cons segment segments ih =>
      cases segment with
      | literal text => rw [closed_literal, hliterals, Template.absorbMarks_literal, ih]
      | token t =>
          rw [closed_token, Template.absorbMarks_unmarked (.inr (by simp)),
            Template.absorbMarks_literal, ih]

theorem tokens_closed (segments : List Segment) :
    (Template.tokens (closed segments)).map Token.name = segments.filterMap name? := by
  have hliterals (text : List Char) (rest : List Piece) :
      Template.tokens (text.map .literal ++ rest) = Template.tokens rest := by
    induction text with
    | nil => rfl
    | cons c text ih => exact ih
  induction segments with
  | nil => rfl
  | cons segment segments ih =>
      cases segment with
      | literal text =>
          rw [closed_literal, hliterals, Template.tokens_literal, ih]
          rfl
      | token t =>
          rw [closed_token, Template.tokens_token, Template.tokens_literal, List.map_cons, ih]
          rfl

theorem slots_literals (constraints : Pairs String) (text : List Char) (rest : List Piece) :
    slots constraints (text.map .literal ++ .literal '/' :: rest) =
      text.map .literal ++ slots constraints (.literal '/' :: rest) := by
  induction text with
  | nil => rfl
  | cons c text ih =>
      rw [List.map_cons, List.cons_append, List.map_cons, List.cons_append, ← ih]
      refine Template.slots_literal constraints fun _ t ht => ?_
      cases text <;> simp at ht

theorem forall_mem_dropLast_of_cons {segment : Segment} {segments : List Segment}
    {p : Segment → Prop} (h : ∀ s ∈ (segment :: segments).dropLast, p s) :
    ∀ s ∈ segments.dropLast, p s := by
  cases segments with
  | nil => simp
  | cons other segments => exact fun s hs => h s (List.mem_cons_of_mem _ hs)

theorem delimited_literals (text : List Char) {rest : List Slot} (h : Delimited rest) :
    Delimited (text.map .literal ++ rest) := by
  induction text with
  | nil => exact h
  | cons c text ih => exact .literal ih

section

variable {constraints : Pairs String} {segments : List Segment}
  (hfree : ∀ t : Token, IsSlashFree (typeOf constraints t))

include hfree

theorem delimited_slash_closed (hoptional : ∀ s ∈ segments.dropLast, s.isOptional = false) :
    Delimited (slots constraints (.literal '/' :: closed segments)) ∧
      BeginWithSlash (slots constraints (.literal '/' :: closed segments)) := by
  induction segments with
  | nil => exact ⟨.literal .nil, Engine.Slot.beginWithSlash_literal []⟩
  | cons segment segments ih =>
      obtain ⟨hdelimited, hslash⟩ := ih (forall_mem_dropLast_of_cons hoptional)
      cases segment with
      | literal text =>
          have hslots := slots_literals constraints ('/' :: text) (closed segments)
          rw [List.map_cons, List.cons_append, ← closed_literal] at hslots
          rw [hslots]
          exact ⟨delimited_literals ('/' :: text) hdelimited,
            Engine.Slot.beginWithSlash_literal _⟩
      | token t =>
          rw [closed_token, Template.slots_lead constraints rfl]
          cases ht : t.optional with
          | false =>
              exact ⟨.hole (hfree t) hslash hdelimited, Engine.Slot.beginWithSlash_hole _ _ _⟩
          | true =>
              cases segments with
              | nil => exact ⟨.last (hfree t), Engine.Slot.beginWithSlash_last _ _⟩
              | cons other segments =>
                  have hfirst := hoptional (.token t) List.mem_cons_self
                  simp [isOptional, ht] at hfirst

theorem delimited_closed (hoptional : ∀ s ∈ segments.dropLast, s.isOptional = false)
    (hsingle : segments.length = 1 → ∀ s ∈ segments, s.isOptional = false) :
    Delimited (slots constraints (closed segments)) := by
  cases segments with
  | nil => exact .nil
  | cons segment segments =>
      obtain ⟨hdelimited, hslash⟩ :=
        delimited_slash_closed hfree (forall_mem_dropLast_of_cons hoptional)
      cases segment with
      | literal text =>
          rw [closed_literal, slots_literals]
          exact delimited_literals text hdelimited
      | token t =>
          have ht : t.optional = false := by
            cases segments with
            | nil => exact hsingle rfl _ List.mem_cons_self
            | cons other segments => exact hoptional (.token t) List.mem_cons_self
          rw [closed_token, Template.slots_token, ht]
          exact .hole (hfree t) hslash hdelimited

end

end Segment

/-! ## Routes made of segments -/

namespace Route

variable {route : Route} {segments : List Segment}
  (h : Segment.ofTemplate? route.uri.toList = some segments)

include h

theorem canonicalSlots_of_segments :
    route.canonicalSlots = Template.slots route.constraints (Segment.closed segments) := by
  rw [canonicalSlots, Segment.canonicalPieces_of_segments h, Segment.absorbMarks_closed]

theorem params_of_segments :
    Slot.params route.canonicalSlots = segments.filterMap Segment.name? := by
  rw [canonicalSlots_of_segments h, Template.params_slots, Segment.tokens_closed]

theorem delimited_of_segments (hoptional : ∀ s ∈ segments.dropLast, s.isOptional = false)
    (hsingle : segments.length = 1 → ∀ s ∈ segments, s.isOptional = false)
    (hplain : ∀ entry ∈ route.constraints.entries, Regex.Expression.IsPlainText entry.2)
    (hslash : ∀ entry ∈ route.constraints.entries, ∀ subject,
      Regex.Expression.Accepts entry.2 subject → '/' ∉ subject) :
    Delimited route.canonicalSlots := by
  rw [canonicalSlots_of_segments h]
  exact Segment.delimited_closed
    (Engine.Slot.forall_mem_languageOf_typeOf hplain (fun _ _ hfree => hfree) hslash) hoptional hsingle

end Route

end HttpRouting
