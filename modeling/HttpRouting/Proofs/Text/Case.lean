import HttpRouting.Text.Case

/-!
# Upper case is final

The upper case of a text is its own upper case.  That cannot be seen from the
code points one by one in reasonable time, but from the runs of the tables: what a
run maps to lies apart from every other run, or between the code points of a
run that has every second one only.
-/

namespace HttpRouting.Text

namespace CaseRun

def low (run : CaseRun) : Nat := run.apply run.first

def high (run : CaseRun) : Nat := run.apply run.last

def point (code : Nat) : CaseRun := ⟨code, code, 2, 0⟩

def avoids (run other : CaseRun) : Bool :=
  Nat.blt run.high other.first || (Nat.blt other.last run.low ||
    ((run.step == 2 || run.first == run.last) &&
      (other.step == 2 && (run.low + other.first) % 2 == 1)))

theorem contains_eq_true {run : CaseRun} {code : Nat} :
    run.contains code = true ↔
      run.first ≤ code ∧ code ≤ run.last ∧ (code - run.first) % run.step = 0 := by
  simp [contains, and_assoc]

theorem contains_point (code : Nat) : (point code).contains code = true := by
  simp [contains_eq_true, point]

theorem contains_apply_eq_false {run other : CaseRun} {code : Nat} (hrun : run.contains code = true)
    (hshift : 0 ≤ Int.ofNat run.first + run.shift) (h : run.avoids other = true) :
    other.contains (run.apply code) = false := by
  rw [contains_eq_true] at hrun
  obtain ⟨hfirst, hlast, hstep⟩ := hrun
  rw [Bool.eq_false_iff, ne_eq, contains_eq_true]
  rintro ⟨hfirst', hlast', hstep'⟩
  simp only [avoids, Bool.or_eq_true, Bool.and_eq_true, Nat.blt_eq, beq_iff_eq, high, low, apply,
    Int.ofNat_eq_natCast] at *
  rcases h with h | h | ⟨heven, heven', hodd⟩
  · omega
  · omega
  · rw [heven'] at hstep'
    rcases heven with heven | heven
    · rw [heven] at hstep
      omega
    · omega

end CaseRun

/-! ## The tables -/

private theorem upperRuns_shift :
    (upperRuns.all fun run => decide (0 ≤ Int.ofNat run.first + run.shift)) = true := by
  decide +kernel

private theorem upperRuns_valid :
    (upperRuns.all fun run => decide (run.high < 0xd800 ∨ 0xdfff < run.low ∧ run.high < 0x110000)) =
      true := by
  decide +kernel

private theorem upperRuns_avoid : (upperRuns.all fun run => upperRuns.all run.avoids) = true := by
  decide +kernel

private theorem upperRuns_avoid_expansions :
    (upperRuns.all fun run => upperExpansions.all fun entry =>
      run.avoids (.point entry.1) ||
        (upperExpansions.lookup (Int.ofNat entry.1 - run.shift).toNat).isSome) = true := by
  decide +kernel

private theorem upperExpansions_avoid :
    (upperExpansions.all fun entry => entry.2.all fun code =>
      upperRuns.all (CaseRun.point code).avoids &&
        (upperExpansions.all fun other => (CaseRun.point code).avoids (.point other.1)) &&
        (Char.ofNat code).toNat == code) = true := by
  decide +kernel

/-! ## Characters -/

structure IsFinal (code : Nat) : Prop where
  valid : (Char.ofNat code).toNat = code
  runs : ∀ run ∈ upperRuns, run.contains code = false
  expansions : ∀ entry ∈ upperExpansions, entry.1 ≠ code

theorem IsFinal.upperChar {code : Nat} (h : IsFinal code) :
    upperChar (.ofNat code) = [.ofNat code] := by
  have hlookup : upperExpansions.lookup (Char.ofNat code).toNat = none := by
    rw [h.valid, List.lookup_eq_none_iff]
    exact fun entry hentry => by simpa using (h.expansions entry hentry).symm
  have hruns : upperRuns.find? (·.contains (Char.ofNat code).toNat) = none := by
    rw [h.valid, List.find?_eq_none]
    exact fun run hrun => by simpa using h.runs run hrun
  rw [Text.upperChar, hlookup]
  simp only [raiseChar, raiseCode, shiftBy, hruns, Char.ofNat_toNat]

theorem isFinal_of_mem_expansion {entry : Nat × List Nat} (hentry : entry ∈ upperExpansions)
    {code : Nat} (hcode : code ∈ entry.2) : IsFinal code := by
  have hall := List.all_eq_true.mp (List.all_eq_true.mp upperExpansions_avoid entry hentry) code hcode
  simp only [Bool.and_eq_true, List.all_eq_true, beq_iff_eq] at hall
  obtain ⟨⟨hruns, hexpansions⟩, hvalid⟩ := hall
  have hself : (CaseRun.point code).apply code = code := by simp [CaseRun.apply, CaseRun.point]
  have happly {other : CaseRun} (h : (CaseRun.point code).avoids other = true) :
      other.contains code = false := by
    have := CaseRun.contains_apply_eq_false (CaseRun.contains_point code) (by simp [CaseRun.point]) h
    rwa [hself] at this
  refine ⟨hvalid, fun run hrun => happly (hruns run hrun), fun other hother heq => ?_⟩
  have := happly (hexpansions other hother)
  rw [heq, CaseRun.contains_point] at this
  simp at this

theorem isFinal_apply {run : CaseRun} (hrun : run ∈ upperRuns) {code : Nat}
    (hcontains : run.contains code = true) (hlookup : upperExpansions.lookup code = none) :
    IsFinal (run.apply code) := by
  have hshift : 0 ≤ Int.ofNat run.first + run.shift := by
    simpa using List.all_eq_true.mp upperRuns_shift run hrun
  have hbounds := CaseRun.contains_eq_true.mp hcontains
  refine ⟨?_, fun other hother => ?_, fun entry hentry heq => ?_⟩
  · have hbound := of_decide_eq_true (List.all_eq_true.mp upperRuns_valid run hrun)
    simp only [CaseRun.high, CaseRun.low, CaseRun.apply, Int.ofNat_eq_natCast] at hbound
    have hvalid : (run.apply code).isValidChar := by
      simp only [Nat.isValidChar, CaseRun.apply, Int.ofNat_eq_natCast]
      omega
    rw [Char.ofNat, dif_pos hvalid]
    rfl
  · exact CaseRun.contains_apply_eq_false hcontains hshift
      (List.all_eq_true.mp (List.all_eq_true.mp upperRuns_avoid run hrun) other hother)
  · have havoids := List.all_eq_true.mp
      (List.all_eq_true.mp upperRuns_avoid_expansions run hrun) entry hentry
    rw [Bool.or_eq_true] at havoids
    rcases havoids with havoids | hexpanded
    · have := CaseRun.contains_apply_eq_false hcontains hshift havoids
      rw [heq, CaseRun.contains_point] at this
      simp at this
    · have hback : (Int.ofNat entry.1 - run.shift).toNat = code := by
        rw [heq, CaseRun.apply]
        simp only [Int.ofNat_eq_natCast] at hshift ⊢
        omega
      rw [hback, hlookup] at hexpanded
      simp at hexpanded

theorem upperChar_of_mem_upperChar {c d : Char} (h : d ∈ upperChar c) : upperChar d = [d] := by
  rw [upperChar] at h
  cases hlookup : upperExpansions.lookup c.toNat with
  | some codes =>
      simp only [hlookup, ofCodes, List.mem_map] at h
      obtain ⟨code, hcode, rfl⟩ := h
      obtain ⟨before, after, hsplit, -⟩ := List.lookup_eq_some_iff.mp hlookup
      have hentry : (c.toNat, codes) ∈ upperExpansions := by simp [hsplit]
      exact (isFinal_of_mem_expansion hentry hcode).upperChar
  | none =>
      simp only [hlookup, List.mem_singleton] at h
      subst h
      cases hfind : upperRuns.find? (·.contains c.toNat) with
      | none =>
          have hsame : raiseChar c = c := by
            simp only [raiseChar, raiseCode, shiftBy, hfind, Char.ofNat_toNat]
          rw [hsame, upperChar, hlookup, hsame]
      | some run =>
          have hfinal := isFinal_apply (List.mem_of_find?_eq_some hfind)
            (List.find?_some (p := fun run : CaseRun => run.contains c.toNat) hfind) hlookup
          simpa only [raiseChar, raiseCode, shiftBy, hfind] using hfinal.upperChar

/-! ## Texts -/

theorem upperChars_upperChars (s : List Char) : upperChars (upperChars s) = upperChars s := by
  have hfinal (t : List Char) (h : ∀ d ∈ t, upperChar d = [d]) : upperChars t = t := by
    induction t with
    | nil => rfl
    | cons d t ih =>
        rw [List.forall_mem_cons] at h
        rw [upperChars, List.flatMap_cons, h.1, ← upperChars, ih h.2]
        rfl
  refine hfinal _ fun d hd => ?_
  obtain ⟨c, -, hc⟩ := List.mem_flatMap.mp hd
  exact upperChar_of_mem_upperChar hc

theorem upper_upper (s : String) : upper (upper s) = upper s := by
  rw [upper, upper, String.toList_ofList, upperChars_upperChars]

end HttpRouting.Text
