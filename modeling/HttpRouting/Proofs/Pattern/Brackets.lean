import HttpRouting.Pattern
import HttpRouting.Template

/-!
# Blocks written for parameters

The bracketed form of a parameter is scanned as one block, together with a
slash or a dot before it and a question mark after it.  Other characters stay
literal as long as no opening bracket follows them.
-/

namespace HttpRouting.Pattern

open Template (Param)

structure IsWritable (p : Param) : Prop where
  tag : ∀ c ∈ (p.tag.getD "").toList, isBlockChar c = true
  name : ∀ c ∈ p.name.toList, isBlockChar c = true
  named : p.name.toList ≠ []

def blockOf (lead : Option Char) (p : Param) (optional : Bool) : Block :=
  ⟨lead, p.tag.getD "", p.name, optional⟩

/-! ## Single blocks -/

private theorem dropWhile_of_all {s rest : List Char} {c : Char}
    (hs : ∀ x ∈ s, isBlockChar x = true) (hc : isBlockChar c = false) :
    (s ++ c :: rest).dropWhile isBlockChar = c :: rest := by
  rw [List.dropWhile_append_of_pos hs]
  simp [hc]

private theorem takeWhile_of_all {s rest : List Char} {c : Char}
    (hs : ∀ x ∈ s, isBlockChar x = true) (hc : isBlockChar c = false) :
    (s ++ c :: rest).takeWhile isBlockChar = s := by
  rw [List.takeWhile_append_of_pos hs]
  simp [hc]

theorem bracket?_of_blockEnd? {p : Param} (hp : IsWritable p) {lead : Option Char}
    {ending rest : List Char} {optional : Bool}
    (hend : blockEnd? (']' :: ending) = some (optional, rest)) :
    bracket? lead ('[' :: (p.tag.getD "").toList ++ ':' :: p.name.toList ++ ']' :: ending) =
      some (blockOf lead p optional, rest) := by
  have hcolon : isBlockChar ':' = false := by decide
  have hclose : isBlockChar ']' = false := by decide
  have htext : '[' :: (p.tag.getD "").toList ++ ':' :: p.name.toList ++ ']' :: ending =
      '[' :: ((p.tag.getD "").toList ++ ':' :: (p.name.toList ++ ']' :: ending)) := by
    simp
  rw [htext, bracket?, dropWhile_of_all hp.tag hcolon]
  simp only [takeWhile_of_all hp.tag hcolon, takeWhile_of_all hp.name hclose,
    dropWhile_of_all hp.name hclose, hend]
  simp [hp.named, blockOf]

theorem bracket?_optional {p : Param} (hp : IsWritable p) (ho : p.optional = true)
    (lead : Option Char) (s : List Char) :
    bracket? lead (p.block ++ s) = some (blockOf lead p true, s) := by
  have h := @bracket?_of_blockEnd? p hp lead ('?' :: s) s true rfl
  simpa [Param.block, ho] using h

theorem bracket?_marked {p : Param} (hp : IsWritable p) (ho : p.optional = false)
    (lead : Option Char) (s : List Char) :
    bracket? lead (p.block ++ '?' :: s) = some (blockOf lead p true, s) := by
  have h := @bracket?_of_blockEnd? p hp lead ('?' :: s) s true rfl
  simpa [Param.block, ho] using h

theorem bracket?_required {p : Param} (hp : IsWritable p) (ho : p.optional = false)
    (lead : Option Char) {s : List Char} (hs : s.head? ≠ some '?') :
    bracket? lead (p.block ++ s) = some (blockOf lead p false, s) := by
  have hend : blockEnd? (']' :: s) = some (false, s) := by
    unfold blockEnd?
    split <;> simp_all
  have h := @bracket?_of_blockEnd? p hp lead s s false hend
  simpa [Param.block, ho] using h

/-! ## Scanning -/

@[simp] theorem scan_nil : scan [] = [] := by
  rw [scan]
  simp [block?]

theorem scan_of_block? {s rest : List Char} {b : Block} (h : block? s = some (b, rest)) :
    scan s = .block b :: scan rest := by
  rw [scan]
  split
  next heq => simp_all
  next heq => simp_all

theorem scan_of_block?_eq_none {c : Char} {s : List Char} (h : block? (c :: s) = none) :
    scan (c :: s) = .literal c :: scan s := by
  rw [scan]
  split
  next heq => simp_all
  next heq => rfl

theorem scan_of_bracket? {s rest : List Char} {b : Block} (h : bracket? none s = some (b, rest)) :
    scan s = .block b :: scan rest := by
  refine scan_of_block? ?_
  cases s with
  | nil => simp [bracket?] at h
  | cons c s =>
      have hc : c = '[' := by
        unfold bracket? at h
        split at h <;> simp_all
      subst hc
      rw [block?, if_neg (by decide)]
      exact h

theorem scan_of_lead {c : Char} (hc : isLead c = true) {s rest : List Char} {b : Block}
    (h : bracket? (some c) s = some (b, rest)) : scan (c :: s) = .block b :: scan rest := by
  refine scan_of_block? ?_
  rw [block?, if_pos hc]
  exact h

theorem bracket?_eq_none {lead : Option Char} {s : List Char} (h : s.head? ≠ some '[') :
    bracket? lead s = none := by
  unfold bracket?
  split <;> simp_all

theorem scan_literal {c : Char} (hc : c ≠ '[') {s : List Char}
    (hs : isLead c = true → s.head? ≠ some '[') : scan (c :: s) = .literal c :: scan s := by
  refine scan_of_block?_eq_none ?_
  rw [block?]
  split
  next hlead => exact bracket?_eq_none (hs hlead)
  next => exact bracket?_eq_none (by simpa using hc)

end HttpRouting.Pattern
