import HttpRouting.Proofs.Text.Ascii
import HttpRouting.Template.Grammar
import Mathlib.Data.List.TakeWhile

/-!
# Pieces of scanned templates

What scanning finds in a template: each literal is a character of the text,
and each token stands there in one of its spellings.  A template that has been
trimmed begins and ends with pieces that are not trimmed either.
-/

namespace HttpRouting.Template

/-! ## Tokens -/

theorem isBlankText_takeWhile (s : List Char) : IsBlankText (s.takeWhile Text.isBlank) :=
  fun _ hc => List.mem_takeWhile_imp hc

theorem tokenEnd?_eq {s rest : List Char} {optional : Bool}
    (h : tokenEnd? s = some (optional, rest)) :
    ∃ blanks, IsBlankText blanks ∧
      s = (if optional then ['?'] else []) ++ blanks ++ '}' :: rest := by
  unfold tokenEnd? at h
  split at h
  next marked t heq =>
    split at h
    next u hu =>
      simp only [Option.some.injEq, Prod.mk.injEq] at h
      obtain ⟨rfl, rfl⟩ := h
      refine ⟨t.takeWhile Text.isBlank, isBlankText_takeWhile t, ?_⟩
      have ht := List.takeWhile_append_dropWhile (p := Text.isBlank) (l := t)
      rw [hu] at ht
      split at heq
      · simp only [Prod.mk.injEq] at heq
        obtain ⟨rfl, rfl⟩ := heq
        simp [ht]
      · simp only [Prod.mk.injEq] at heq
        obtain ⟨rfl, rfl⟩ := heq
        simp [ht]
    next => simp at h

theorem token?_eq {s rest : List Char} {t : Token} (h : token? s = some (t, rest)) :
    ∃ spelling, t.Spelled spelling ∧ s = spelling ++ rest := by
  unfold token? at h
  split at h
  next text =>
    dsimp only at h
    split at h
    next => simp at h
    next hname =>
      obtain ⟨⟨optional, after⟩, hend, heq⟩ := Option.map_eq_some_iff.mp h
      simp only [Prod.mk.injEq] at heq
      obtain ⟨rfl, rfl⟩ := heq
      obtain ⟨right, hright, htail⟩ := tokenEnd?_eq hend
      have hblank := List.takeWhile_append_dropWhile (p := Text.isBlank) (l := text)
      have hinner := List.takeWhile_append_dropWhile (p := isNameChar)
        (l := text.dropWhile Text.isBlank)
      refine ⟨_, .intro (isBlankText_takeWhile text)
        ⟨by simpa using hname, fun c hc => List.mem_takeWhile_imp hc⟩ hright, ?_⟩
      calc '{' :: text
          = '{' :: (text.takeWhile Text.isBlank ++ text.dropWhile Text.isBlank) := by
            rw [hblank]
        _ = '{' :: (text.takeWhile Text.isBlank ++
              ((text.dropWhile Text.isBlank).takeWhile isNameChar ++
                (text.dropWhile Text.isBlank).dropWhile isNameChar)) := by
            rw [hinner]
        _ = _ := by
            rw [htail]
            simp
  next => simp at h

theorem Token.Spelled.isName {t : Token} {spelling : List Char} (h : t.Spelled spelling) :
    IsName t.name.toList := by
  cases h with
  | intro _ hname _ => simpa using hname

theorem Token.Spelled.head? {t : Token} {spelling : List Char} (h : t.Spelled spelling) :
    spelling.head? = some '{' := by
  cases h with
  | intro _ _ _ => rfl

theorem Token.Spelled.getLast? {t : Token} {spelling : List Char} (h : t.Spelled spelling) :
    spelling.getLast? = some '}' := by
  cases h with
  | intro _ _ _ => rw [List.getLast?_concat]

theorem isBlank_of_isNameChar {c : Char} (h : isNameChar c = true) : Text.isBlank c = false := by
  have hsmall : ∀ n < 128, isNameChar (Char.ofNat n) = true → Text.isBlank (Char.ofNat n) = false := by
    decide
  have hc : c.toNat < 128 := by
    rcases Bool.or_eq_true_iff.mp h with halphanum | hunderscore
    · exact Text.toNat_lt_of_isAlphanum halphanum
    · rw [eq_of_beq hunderscore]
      decide
  have hblank := hsmall c.toNat hc
  rw [Char.ofNat_toNat] at hblank
  exact hblank h

theorem tokenEnd?_of_isBlankText (optional : Bool) {blanks : List Char} (h : IsBlankText blanks)
    (rest : List Char) :
    tokenEnd? ((if optional then ['?'] else []) ++ blanks ++ '}' :: rest) = some (optional, rest) := by
  have hdrop : (blanks ++ '}' :: rest).dropWhile Text.isBlank = '}' :: rest := by
    rw [List.dropWhile_append_of_pos h]
    rfl
  cases optional with
  | true => simp [tokenEnd?, hdrop]
  | false =>
      cases blanks with
      | nil => rfl
      | cons b blanks =>
          have hb : b ≠ '?' := by
            rintro rfl
            exact absurd (h '?' List.mem_cons_self) (by decide)
          simp only [List.cons_append] at hdrop
          simp [tokenEnd?, hb, hdrop]

theorem token?_of_spelled {t : Token} {spelling : List Char} (h : t.Spelled spelling)
    (rest : List Char) : token? (spelling ++ rest) = some (t, rest) := by
  cases h with
  | @intro left name right optional hleft hname hright =>
      obtain ⟨c, more, rfl⟩ := List.exists_cons_of_ne_nil hname.1
      let ending := (if optional then ['?'] else []) ++ right ++ '}' :: rest
      have hblanks : (left ++ (c :: more ++ ending)).dropWhile Text.isBlank = c :: more ++ ending := by
        rw [List.dropWhile_append_of_pos hleft, List.cons_append, List.dropWhile_cons_of_neg]
        rw [isBlank_of_isNameChar (hname.2 c List.mem_cons_self)]
        simp
      have hending : ∃ d tail, ending = d :: tail ∧ isNameChar d = false := by
        cases optional with
        | true => exact ⟨'?', _, rfl, by decide⟩
        | false =>
            cases right with
            | nil => exact ⟨'}', _, rfl, by decide⟩
            | cons b right =>
                refine ⟨b, _, rfl, Bool.eq_false_iff.mpr fun hb => ?_⟩
                have := isBlank_of_isNameChar hb
                simp [hright b List.mem_cons_self] at this
      obtain ⟨d, tail, hd, hnot⟩ := hending
      have htake : (c :: more ++ ending).takeWhile isNameChar = c :: more := by
        rw [List.takeWhile_append_of_pos hname.2, hd, List.takeWhile_cons_of_neg (by simp [hnot]),
          List.append_nil]
      have hdrop : (c :: more ++ ending).dropWhile isNameChar = ending := by
        rw [List.dropWhile_append_of_pos hname.2, hd, List.dropWhile_cons_of_neg (by simp [hnot])]
      have htext : '{' :: left ++ (c :: more) ++ (if optional then ['?'] else []) ++ right ++ ['}'] ++
          rest = '{' :: (left ++ (c :: more ++ ending)) := by
        simp [ending]
      rw [htext, token?]
      simp only [hblanks, htake, hdrop, ending, tokenEnd?_of_isBlankText optional hright rest]
      rfl

/-! ## Pieces -/

@[simp] theorem scan_nil : scan [] = [] := by
  rw [scan]
  simp [token?]

theorem scan_of_token? {s rest : List Char} {t : Token} (h : token? s = some (t, rest)) :
    scan s = .token t :: scan rest := by
  rw [scan]
  split
  next heq => simp_all
  next heq => simp_all

theorem scan_cons_of_token?_eq_none {c : Char} {s : List Char} (h : token? (c :: s) = none) :
    scan (c :: s) = .literal c :: scan s := by
  rw [scan]
  split
  next heq => simp_all
  next heq => rfl

theorem mem_of_literal_mem_scan {c : Char} {s : List Char} (h : .literal c ∈ scan s) : c ∈ s := by
  fun_induction scan s with
  | case1 s t rest htoken ih =>
      obtain ⟨spelling, -, rfl⟩ := token?_eq htoken
      simp only [List.mem_cons, reduceCtorEq, false_or] at h
      simp [ih h]
  | case2 => simp at h
  | case3 d rest htoken ih =>
      rcases List.mem_cons.mp h with heq | hrest
      · simp_all
      · simp [ih hrest]

theorem isName_of_token_mem_scan {t : Token} {s : List Char} (h : .token t ∈ scan s) :
    IsName t.name.toList := by
  fun_induction scan s with
  | case1 s u rest htoken ih =>
      obtain ⟨spelling, hspelled, -⟩ := token?_eq htoken
      rcases List.mem_cons.mp h with heq | hrest
      · rw [Piece.token.injEq] at heq
        subst heq
        exact hspelled.isName
      · exact ih hrest
  | case2 => simp at h
  | case3 d rest htoken ih =>
      simp only [List.mem_cons, reduceCtorEq, false_or] at h
      exact ih h

theorem scan_eq_nil {s : List Char} : scan s = [] ↔ s = [] := by
  fun_induction scan s with
  | case1 s t rest htoken ih =>
      obtain ⟨spelling, hspelled, rfl⟩ := token?_eq htoken
      have := hspelled.head?
      simp only [reduceCtorEq, List.append_eq_nil_iff, false_iff, not_and]
      rintro rfl
      simp at this
  | case2 => simp
  | case3 c rest htoken ih => simp

theorem head?_of_head?_scan {c : Char} {s : List Char} (h : (scan s).head? = some (.literal c)) :
    s.head? = some c := by
  fun_induction scan s with
  | case1 s t rest htoken ih => simp at h
  | case2 => simp at h
  | case3 d rest htoken ih => simpa using h

theorem getLast?_of_getLast?_scan {c : Char} {s : List Char}
    (h : (scan s).getLast? = some (.literal c)) : s.getLast? = some c := by
  fun_induction scan s with
  | case1 s t rest htoken ih =>
      obtain ⟨spelling, -, rfl⟩ := token?_eq htoken
      cases hrest : scan rest with
      | nil => simp [hrest] at h
      | cons piece pieces =>
          rw [hrest, List.getLast?_cons_cons] at h
          simp [List.getLast?_append, ih (hrest ▸ h)]
  | case2 => simp at h
  | case3 d rest htoken ih =>
      cases hrest : scan rest with
      | nil =>
          rw [scan_eq_nil.mp hrest]
          simpa [hrest] using h
      | cons piece pieces =>
          rw [hrest, List.getLast?_cons_cons] at h
          simp [List.getLast?_cons, ih (hrest ▸ h)]

end HttpRouting.Template
