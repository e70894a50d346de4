import HttpRouting.Text.Case

/-!
# Case of ASCII text

Apart from its lower-case letters every ASCII character is its own title case,
and its lower case is one character from which it can be told.  The lower case
of such a text is therefore that of its title case.
-/

namespace HttpRouting.Text

/-! ## Code points -/

theorem shiftBy_of_lt {runs : List CaseRun} {code : Nat} (h : ∀ run ∈ runs, code < run.first) :
    shiftBy runs code = code := by
  have hnone : runs.find? (·.contains code) = none := by
    refine List.find?_eq_none.mpr fun run hrun hcontains => ?_
    have := h run hrun
    simp only [CaseRun.contains, Bool.and_eq_true, decide_eq_true_eq] at hcontains
    omega
  rw [shiftBy, hnone]

theorem shiftBy_cons_of_lt {run : CaseRun} {runs : List CaseRun} {code bound : Nat}
    (hcode : code < bound) (h : (runs.all fun other => Nat.ble bound other.first) = true) :
    shiftBy (run :: runs) code = if run.contains code then run.apply code else code := by
  have hrest : shiftBy runs code = code := shiftBy_of_lt fun other hother =>
    Nat.lt_of_lt_of_le hcode (Nat.ble_eq.mp (List.all_eq_true.mp h other hother))
  rw [shiftBy] at hrest ⊢
  rw [List.find?_cons]
  cases hcontains : run.contains code with
  | true => rfl
  | false => simpa using hrest

variable {code : Nat}

theorem foldCode_of_lt (h : code < 128) :
    foldCode code = if 0x41 ≤ code ∧ code ≤ 0x5a then code + 32 else code := by
  have hruns : lowerRuns = ⟨0x41, 0x5a, 1, 32⟩ :: lowerRuns.tail := rfl
  rw [foldCode, hruns, shiftBy_cons_of_lt h (by decide +kernel)]
  simp only [CaseRun.contains, CaseRun.apply, Nat.mod_one, Int.ofNat_eq_natCast]
  by_cases hupper : 0x41 ≤ code ∧ code ≤ 0x5a
  · rw [if_pos hupper, if_pos (by simpa using hupper)]
    omega
  · rw [if_neg hupper, if_neg (by simpa using hupper)]

theorem raiseCode_of_lt (h : code < 128) :
    raiseCode code = if 0x61 ≤ code ∧ code ≤ 0x7a then code - 32 else code := by
  have hruns : upperRuns = ⟨0x61, 0x7a, 1, -32⟩ :: upperRuns.tail := rfl
  rw [raiseCode, hruns, shiftBy_cons_of_lt h (by decide +kernel)]
  simp only [CaseRun.contains, CaseRun.apply, Nat.mod_one, Int.ofNat_eq_natCast]
  by_cases hlower : 0x61 ≤ code ∧ code ≤ 0x7a
  · rw [if_pos hlower, if_pos (by simpa using hlower)]
    omega
  · rw [if_neg hlower, if_neg (by simpa using hlower)]

/-! ## Characters -/

variable {c : Char}

theorem isUpper_iff : c.isUpper = true ↔ 0x41 ≤ c.toNat ∧ c.toNat ≤ 0x5a := by
  change decide ('A'.val ≤ c.val ∧ c.val ≤ 'Z'.val) = true ↔ _
  rw [decide_eq_true_eq]
  rfl

theorem isLower_iff : c.isLower = true ↔ 0x61 ≤ c.toNat ∧ c.toNat ≤ 0x7a := by
  change (decide ('a'.val ≤ c.val) && decide (c.val ≤ 'z'.val)) = true ↔ _
  rw [Bool.and_eq_true, decide_eq_true_eq, decide_eq_true_eq]
  rfl

theorem isDigit_iff : c.isDigit = true ↔ 0x30 ≤ c.toNat ∧ c.toNat ≤ 0x39 := by
  change (decide ('0'.val ≤ c.val) && decide (c.val ≤ '9'.val)) = true ↔ _
  rw [Bool.and_eq_true, decide_eq_true_eq, decide_eq_true_eq]
  rfl

theorem isAlphanum_iff :
    c.isAlphanum = true ↔ (c.isUpper = true ∨ c.isLower = true) ∨ c.isDigit = true := by
  change ((c.isUpper || c.isLower) || c.isDigit) = true ↔ _
  rw [Bool.or_eq_true, Bool.or_eq_true]

theorem toNat_lt_of_isAlphanum (h : c.isAlphanum = true) : c.toNat < 128 := by
  rw [isAlphanum_iff, isUpper_iff, isLower_iff, isDigit_iff] at h
  omega

theorem toNat_ofNat_of_lt (h : code < 128) : (Char.ofNat code).toNat = code := by
  have hvalid : code.isValidChar := .inl (by omega)
  rw [Char.ofNat, dif_pos hvalid]
  rfl

theorem toNat_foldChar (hc : c.toNat < 128) :
    (foldChar c).toNat = foldCode c.toNat ∧ (foldChar c).toNat < 128 := by
  have hbound : foldCode c.toNat < 128 := by
    rw [foldCode_of_lt hc]
    split <;> omega
  have hcode : (foldChar c).toNat = foldCode c.toNat := toNat_ofNat_of_lt hbound
  exact ⟨hcode, hcode ▸ hbound⟩

theorem lowerCharWithin_of_ascii (hc : c.toNat < 128) (before after : List Char) :
    lowerCharWithin before c after = [foldChar c] := by
  have hsigma : c ≠ 'Σ' := by
    rintro rfl
    exact absurd hc (by decide)
  have hdotted : c ≠ 'İ' := by
    rintro rfl
    exact absurd hc (by decide)
  simp [lowerCharWithin, hsigma, hdotted]

/-- A character that is its own title case, and one character in lower case wherever it stands. -/
structure IsRaised (c : Char) : Prop where
  title : titleChar c = [c]
  lower (before after : List Char) : lowerCharWithin before c after = [foldChar c]
  lower_fold (before after : List Char) : lowerCharWithin before (foldChar c) after = [foldChar c]
  raise_fold : raiseChar (foldChar c) = c

theorem isRaised_of_ascii (hc : c.toNat < 128) (hlower : c.isLower = false) :
    IsRaised c := by
  have hletter : ¬ (0x61 ≤ c.toNat ∧ c.toNat ≤ 0x7a) := by
    rw [← isLower_iff, hlower]
    simp
  obtain ⟨hfold, hbound⟩ := toNat_foldChar hc
  have hraise : raiseCode c.toNat = c.toNat := by rw [raiseCode_of_lt hc, if_neg hletter]
  have hback : raiseCode (foldCode c.toNat) = c.toNat := by
    rw [raiseCode_of_lt (hfold ▸ hbound), foldCode_of_lt hc]
    by_cases hupper : 0x41 ≤ c.toNat ∧ c.toNat ≤ 0x5a
    · rw [if_pos hupper, if_pos (by omega), Nat.add_sub_cancel]
    · rw [if_neg hupper, if_neg hletter]
  have hsame : foldCode (foldCode c.toNat) = foldCode c.toNat := by
    rw [foldCode_of_lt (hfold ▸ hbound), foldCode_of_lt hc]
    by_cases hupper : 0x41 ≤ c.toNat ∧ c.toNat ≤ 0x5a
    · rw [if_pos hupper, if_neg (by omega)]
    · rw [if_neg hupper, if_neg hupper]
  refine ⟨?_, lowerCharWithin_of_ascii hc, fun before after => ?_, ?_⟩
  · have hnone : titleExceptions.lookup c.toNat = none := by
      have hkeys : (titleExceptions.all fun entry => Nat.ble 128 entry.1) = true := by decide +kernel
      refine List.lookup_eq_none_iff.mpr fun entry hentry => ?_
      have := Nat.ble_eq.mp (List.all_eq_true.mp hkeys entry hentry)
      simp
      omega
    simp [titleChar, hnone, raiseChar, hraise, Char.ofNat_toNat]
  · rw [lowerCharWithin_of_ascii hbound, foldChar, hfold, hsame, ← foldChar]
  · rw [raiseChar, hfold, hback, Char.ofNat_toNat]

/-! ## Texts -/

variable {s : List Char}

theorem lowerChars_of_isRaised (h : ∀ c ∈ s, IsRaised c) : lowerChars s = s.map foldChar := by
  have hafter (before : List Char) : lowerCharsAfter before s = s.map foldChar := by
    induction s generalizing before with
    | nil => rfl
    | cons c s ih =>
        rw [List.forall_mem_cons] at h
        rw [lowerCharsAfter, h.1.lower, ih h.2]
        rfl
  exact hafter []

theorem lowerChars_titleChars (h : ∀ c ∈ s, IsRaised c) :
    lowerChars (titleChars s) = lowerChars s := by
  have hafter (before before' : List Char) :
      lowerCharsAfter before' (titleCharsAfter before s) = s.map foldChar := by
    induction s generalizing before before' with
    | nil => rfl
    | cons c s ih =>
        rw [List.forall_mem_cons] at h
        rw [titleCharsAfter]
        split
        next => simp [h.1.lower, lowerCharsAfter, h.1.lower_fold, ih h.2]
        next => simp [h.1.title, lowerCharsAfter, h.1.lower, ih h.2]
  rw [lowerChars_of_isRaised h]
  exact hafter [] []

theorem eq_of_lowerChars_eq {s' : List Char} (h : ∀ c ∈ s, IsRaised c) (h' : ∀ c ∈ s', IsRaised c)
    (heq : lowerChars s = lowerChars s') : s = s' := by
  have hback {t : List Char} (ht : ∀ c ∈ t, IsRaised c) : (lowerChars t).map raiseChar = t := by
    rw [lowerChars_of_isRaised ht, List.map_map]
    exact (List.map_congr_left fun c hc => (ht c hc).raise_fold).trans (List.map_id t)
  rw [← hback h, heq, hback h']

end HttpRouting.Text
